import Emptiness.Value.Mapping

/-!
# Selectors

A rule set can be given by a name, a mask, flags, a sequence of those, or a mapping with such a selector under
`type`. Every notation is reduced to one mask. Nothing at all, and a mapping without `type`, stand for the
default rules.
-/

namespace Emptiness

/-- The key of an option record that holds the selector. -/
def selectorKey : String := "type"

namespace Selector

/-- A value that selects no rules. -/
def unknown (v : Value) : Fault :=
  Value.faultWith (fun shown => .misconfigured (.unknownRule shown)) v

/-- The mask of an integer, if it holds nothing but rules. -/
def maskOfInt? (i : Int) : Option Nat :=
  if 0 ≤ i ∧ i ≤ fullMask then some i.toNat else none

/-- The mask of a single name, mask or flags. -/
def scalarMask? : Value → Option Nat
  | .int i => maskOfInt? i
  | .flags mask _ => maskOfInt? mask
  | .text name => (RuleName.find? name).map (·.mask)
  | _ => none

/-- The mask of a single name, mask or flags, or the fault that there is none. -/
def scalarMask (v : Value) : Except Fault Nat :=
  match scalarMask? v with
  | some mask => .ok mask
  | none => .error (unknown v)

/-- The union of the masks of all items; the first item without a mask is the fault. -/
def unionMask (mask : Nat) : List Value → Except Fault Nat
  | [] => .ok mask
  | item :: rest => do
    let more ← scalarMask item
    unionMask (mask ||| more) rest

/-- The mask of a selector that is not a mapping. -/
def plainMask : Value → Except Fault Nat
  | .null => .ok defaultMask
  | .sequence _ items => unionMask 0 items
  | v => scalarMask v

/-- The mask of any selector. A mapping inside a mapping is unknown. -/
def mask (selector : Value) : Except Fault Nat := do
  match ← selector.entries? with
  | none => plainMask selector
  | some entries =>
    match Entries.find? entries (.text selectorKey) with
    | none => return defaultMask
    | some inner =>
      match ← inner.entries? with
      | some _ => throw (unknown inner)
      | none => plainMask inner

/-- A selector that leaves the default rules in place: nothing, or an empty sequence. -/
def isBlank : Value → Bool
  | .null => true
  | .sequence _ items => items.isEmpty
  | _ => false

end Selector

/-- Options under their names, in order. -/
abbrev Options := List (Text × Value)

namespace Options

/-- The option under a name. -/
def get? (options : Options) (name : Text) : Option Value :=
  options.lookup name

/-- Set an option: a name that is present keeps its place, a new one goes to the end. -/
def put : Options → Text → Value → Options
  | [], name, value => [(name, value)]
  | (known, old) :: rest, name, value =>
    if known = name then (known, value) :: rest else (known, old) :: put rest name value

/-- Set many options, one after the other. -/
def putAll (options more : Options) : Options :=
  more.foldl (fun done option => put done option.1 option.2) options

/-- Remove an option. -/
def remove (options : Options) (name : Text) : Options :=
  options.filter fun option => option.1 != name

/-- The options that the entries of a mapping stand for, apart from the selector; names are written out. -/
def ofEntries (done : Options) : Entries → Except Fault Options
  | [] => .ok done
  | (key, value) :: rest =>
    if key.sameKey (.text selectorKey) then ofEntries done rest
    else do
      let name ← key.written
      ofEntries (put done name value) rest

/-- Split what a validator is made from into its selector and the other options. -/
def split (given : Value) : Except Fault (Value × Options) := do
  match ← given.entries? with
  | none => return (given, [])
  | some entries =>
    let rest ← ofEntries [] entries
    return ((Entries.find? entries (.text selectorKey)).getD .null, rest)

end Options

end Emptiness
