import Emptiness.Value.Basic

/-!
# Values as keys

Which values can be keys of a mapping or elements of a set, and when two of them are the same key. Numbers of all
kinds are compared as numbers, sequences element by element, and what has an identity by its identity.
-/

namespace Emptiness

namespace Value

mutual

/-- Why a value cannot be a key. -/
def keyMisuse? : Value → Option Misuse
  | .sequence .tuple items => itemsMisuse? items
  | .sequence .frozenset _ => none
  | v@(.sequence ..) => some (.unhashable v.qualifiedTypeName)
  | v@(.mapping ..) => some (.unhashable v.qualifiedTypeName)
  | v@(.octets true _) => some (.unhashable v.qualifiedTypeName)
  | .decimal (.nan _ true _) => some .signalingKey
  | _ => none

/-- Why a tuple of these items cannot be a key. -/
def itemsMisuse? : List Value → Option Misuse
  | [] => none
  | item :: rest => (keyMisuse? item).or (itemsMisuse? rest)

end

/-- Refuse a value that cannot be a key. -/
def requireKey (v : Value) : Except Fault Unit :=
  match v.keyMisuse? with
  | some cause => .error (.misused cause)
  | none => .ok ()

mutual

/-- The two values are the same key. -/
def sameKey : Value → Value → Bool
  | .null, .null => true
  | .text a, .text b => a == b
  | .octets _ a, .octets _ b => a == b
  | .range a, .range b => a.toNat == b.toNat
  | .moment a, .moment b => a == b
  | .exception a _, .exception b _ => a == b
  | .validator a _, .validator b _ => a == b
  | .object a _, .object b _ => a == b
  | .sequence .tuple a, .sequence .tuple b => sameItems a b
  | .sequence .frozenset a, .sequence .frozenset b => a.length == b.length && coveredBy a b
  | .bool a, b => (b.number?.map (Number.Decimal.same (.ofInt (if a then 1 else 0)))).getD false
  | .int a, b => (b.number?.map (Number.Decimal.same (.ofInt a))).getD false
  | .flags a _, b => (b.number?.map (Number.Decimal.same (.ofInt a))).getD false
  | .float a, b => (b.number?.map (Number.Decimal.same (.ofBinary64 a))).getD false
  | .decimal a, b => (b.number?.map (Number.Decimal.same a)).getD false
  | _, _ => false

/-- The items are the same keys, one by one. -/
def sameItems : List Value → List Value → Bool
  | [], [] => true
  | a :: as, b :: bs => sameKey a b && sameItems as bs
  | _, _ => false

/-- Every item of the first list is the same key as some item of the second. -/
def coveredBy : List Value → List Value → Bool
  | [], _ => true
  | a :: as, bs => bs.any (sameKey a) && coveredBy as bs

end

/-- Elements without repetition, each at its first place. -/
def distinct (items : List Value) : List Value :=
  items.foldl (fun kept item => if kept.any (·.sameKey item) then kept else kept ++ [item]) []

/-- One integer is at most another. -/
def integerAtMost (a b : Value) : Bool :=
  match a.integer?, b.integer? with
  | some i, some j => i ≤ j
  | _, _ => false

/-- The elements of a set: without repetition, in ascending order if all of them are integers. -/
def setElements (items : List Value) : List Value :=
  let kept := distinct items
  if kept.all (·.integer?.isSome) then kept.mergeSort integerAtMost else kept

end Value

namespace Entries

/-- The value under a key. -/
def find? (entries : Entries) (key : Value) : Option Value :=
  (List.find? (fun entry => entry.1.sameKey key) entries).map (·.2)

/-- Put a value under a key: a key that is present keeps its place, a new one goes to the end. -/
def put : Entries → Value → Value → Entries
  | [], key, value => [(key, value)]
  | (known, old) :: rest, key, value =>
    if known.sameKey key then (known, value) :: rest else (known, old) :: put rest key value

/-- Put many values, one after the other. -/
def putAll (entries more : Entries) : Entries :=
  more.foldl (fun done entry => put done entry.1 entry.2) entries

end Entries

end Emptiness
