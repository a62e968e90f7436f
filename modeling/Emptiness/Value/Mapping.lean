import Emptiness.Value.Key
import Emptiness.Value.Probe

/-!
# Values read as mappings

Mappings of every kind are read as their entries. A foreign object is read as a mapping if it can list its keys
and give the item under a key; this reading can fail, and then the first failure in the order of the keys counts.
-/

namespace Emptiness

/-- The elements that a value yields one by one, and the fault that ends them, if any. -/
structure Elements where
  items : List Value
  fault? : Option Fault

namespace Value

/-- The item of an object under a key. -/
def itemAt (items : Entries) (key : Value) : Except Fault Value := do
  requireKey key
  match Entries.find? items key with
  | some value => return value
  | none => throw (faultWith .missingKey key)

/-- The items of an object under 0, 1, 2 and so on, up to the first that is missing. -/
def itemsFrom (items : Entries) (start : Nat) : Nat → Elements
  | 0 => ⟨[], none⟩
  | fuel + 1 =>
    match itemAt items (.int start) with
    | .ok value =>
      let more := itemsFrom items (start + 1) fuel
      { more with items := value :: more.items }
    | .error fault => ⟨[], some fault⟩

/-- The elements of a value: code points, items, keys, octets, numbers or single rules. Of a range, no more than
`limit` numbers are listed. -/
def elements (limit : Nat) : Value → Except Fault Elements
  | .text s => .ok ⟨s.map fun point => .text [point], none⟩
  | .sequence _ items => .ok ⟨items, none⟩
  | .mapping _ entries => .ok ⟨entries.map (·.1), none⟩
  | .octets _ content => .ok ⟨content.map fun octet => .int octet.toNat, none⟩
  | .range stop => .ok ⟨(List.range (min limit stop.toNat)).map fun n => .int (n : Nat), none⟩
  | .flags mask naming => .ok ⟨(Rule.all.filter (Mask.has mask)).map fun rule => .flags rule.bit naming, none⟩
  | v@(.object _ members) =>
    match members.items with
    | some items => .ok (itemsFrom items 0 (items.length + 1))
    | none => .error (.misused (.notIterable v.qualifiedTypeName))
  | v => .error (.misused (.notIterable v.qualifiedTypeName))

/-- The entries of an object for a run of keys, put one after the other. -/
def readKeys (items : Entries) (done : Entries) : List Value → Except Fault Entries
  | [] => .ok done
  | key :: rest => do
    let value ← itemAt items key
    readKeys items (Entries.put done key value) rest

/-- The entries of a value that is a mapping or can be read as one; `none` for other values. Of different keys, one
more than there are items is enough to find one that is missing. -/
def entries? : Value → Except Fault (Option Entries)
  | .mapping _ entries => .ok (some entries)
  | .object _ { keys := some (.raises fault), items := some _, .. } => .error fault
  | .object _ { keys := some (.returns listed), items := some items, .. } => do
    let keys ← listed.elements (items.length + 1)
    let entries ← readKeys items [] keys.items
    match keys.fault? with
    | some fault => throw fault
    | none => return some entries
  | _ => .ok none

end Value

end Emptiness
