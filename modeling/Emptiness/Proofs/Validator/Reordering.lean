import Emptiness.Proofs.Validator.OptionStore

/-!
# Options in any order

Options under different names are written into different parts of a configuration, so it does not matter which of them
comes first: all orders are accepted or none is, and they leave the same configuration behind, up to the order in which
options of others are kept. Two spellings of one name are the same option, and there the last one wins.
-/

namespace Emptiness

/-- The configurations hold the same, but may keep options of others in another order. -/
structure Configuration.Matches (first second : Configuration) : Prop where
  mask_eq : first.mask = second.mask
  overrides_eq : first.overrides = second.overrides
  obscured_eq : first.obscured = second.obscured
  foreign_perm : first.foreign.Perm second.foreign

/-- The write goes to an option that has a text for its name. -/
def Write.IsNamed (write : Write) : Prop :=
  ∃ name : Text, write.key = OptionKey.ofName (.text name)

/-- Only a text names an option of others. -/
theorem Write.exists_text {key value : Value} (h : (Write.foreign key value).IsNamed) :
    ∃ name : Text, key = .text name := by
  obtain ⟨name, hname⟩ := h
  exact ⟨name, (OptionKey.foreign_of_ofName hname.symm).1⟩

namespace Configuration

/-- Every configuration matches itself. -/
theorem Matches.refl (config : Configuration) : config.Matches config :=
  ⟨rfl, rfl, rfl, .refl _⟩

/-- What matches the same configuration matches. -/
theorem Matches.trans {first second third : Configuration} (h : first.Matches second) (h' : second.Matches third) :
    first.Matches third :=
  ⟨h.mask_eq.trans h'.mask_eq, h.overrides_eq.trans h'.overrides_eq, h.obscured_eq.trans h'.obscured_eq,
    h.foreign_perm.trans h'.foreign_perm⟩

/-- A write keeps the names of others' options different. -/
theorem write_distinct {config : Configuration} (h : config.foreign.Distinct) (write : Write) :
    (config.write write).foreign.Distinct := by
  cases write with
  | rules | templates | obscured => exact h
  | foreign name value => exact Entries.distinct_put h name value

/-- The same write keeps configurations matching. -/
theorem Matches.write {first second : Configuration} (h : first.Matches second) (hfirst : first.foreign.Distinct)
    (hsecond : second.foreign.Distinct) {write : Write} (hnamed : write.IsNamed) :
    (first.write write).Matches (second.write write) := by
  obtain ⟨hmask, hoverrides, hobscured, hforeign⟩ := h
  cases write with
  | rules mask => exact ⟨rfl, hoverrides, hobscured, hforeign⟩
  | templates messages => exact ⟨hmask, congrArg (Messages.putAll · messages) hoverrides, hobscured, hforeign⟩
  | obscured obscured => exact ⟨hmask, hoverrides, rfl, hforeign⟩
  | foreign key value =>
    obtain ⟨name, rfl⟩ := Write.exists_text hnamed
    exact ⟨hmask, hoverrides, hobscured, Entries.put_perm_of_perm hforeign hfirst hsecond name value⟩

/-- The same writes keep configurations matching. -/
theorem Matches.writeAll {first second : Configuration} (h : first.Matches second) (hfirst : first.foreign.Distinct)
    (hsecond : second.foreign.Distinct) {writes : List Write} (hnamed : ∀ write ∈ writes, write.IsNamed) :
    (first.writeAll writes).Matches (second.writeAll writes) := by
  induction writes generalizing first second with
  | nil => exact h
  | cons write rest ih =>
    rw [List.forall_mem_cons] at hnamed
    exact ih (h.write hfirst hsecond hnamed.1) (write_distinct hfirst write) (write_distinct hsecond write) hnamed.2

/-- Two writes to different options may come in either order. -/
theorem write_comm {config : Configuration} (hdistinct : config.foreign.Distinct) {first second : Write}
    (hfirst : first.IsNamed) (hsecond : second.IsNamed) (hne : first.key ≠ second.key) :
    ((config.write first).write second).Matches ((config.write second).write first) := by
  cases first with
  | rules =>
    cases second with
    | rules => exact absurd rfl hne
    | templates | obscured | foreign => exact .refl _
  | templates =>
    cases second with
    | templates => exact absurd rfl hne
    | rules | obscured | foreign => exact .refl _
  | obscured =>
    cases second with
    | obscured => exact absurd rfl hne
    | rules | templates | foreign => exact .refl _
  | foreign key value =>
    cases second with
    | rules | templates | obscured => exact .refl _
    | foreign other more =>
      obtain ⟨name, rfl⟩ := Write.exists_text hfirst
      obtain ⟨name', rfl⟩ := Write.exists_text hsecond
      have hnames : name ≠ name' := fun h => hne (congrArg (fun s => OptionKey.foreign (.text s)) h)
      exact ⟨rfl, rfl, rfl, Entries.put_comm_perm hdistinct hnames value more⟩

/-- Writes to different options may come in any order. -/
theorem writeAll_perm {writes reordered : List Write} (hperm : writes.Perm reordered)
    (hnamed : ∀ write ∈ writes, write.IsNamed) (hkeys : (writes.map Write.key).Nodup) {config : Configuration}
    (hdistinct : config.foreign.Distinct) : (config.writeAll writes).Matches (config.writeAll reordered) := by
  induction hperm generalizing config with
  | nil => exact .refl config
  | cons write _ ih =>
    rw [List.forall_mem_cons] at hnamed
    exact ih hnamed.2 (List.nodup_cons.mp hkeys).2 (write_distinct hdistinct write)
  | swap first second rest =>
    simp only [List.forall_mem_cons] at hnamed
    obtain ⟨hsecond, hfirst, hrest⟩ := hnamed
    have hne : second.key ≠ first.key := fun h =>
      (List.nodup_cons.mp hkeys).1 (h ▸ List.mem_cons_self)
    -- the two commute, and what comes after them is written over configurations that match
    have hswapped := write_comm hdistinct hsecond hfirst hne
    exact hswapped.writeAll (write_distinct (write_distinct hdistinct second) first)
      (write_distinct (write_distinct hdistinct first) second) hrest
  | trans hleft _ ihleft ihright =>
    exact (ihleft hnamed hkeys hdistinct).trans
      (ihright (fun write hwrite => hnamed write (hleft.mem_iff.mpr hwrite))
        ((hleft.map Write.key).nodup_iff.mp hkeys) hdistinct)

end Configuration

namespace Request

/-- A request after an accepted one is accepted exactly if it is itself. -/
theorem andThen_accepted_iff {first second : Request} :
    (first.andThen second).fault? = none ↔ first.fault? = none ∧ second.fault? = none := by
  cases hfault : first.fault? with
  | none =>
    rw [andThen, hfault]
    exact ⟨fun h => ⟨rfl, h⟩, And.right⟩
  | some fault =>
    rw [andThen_of_fault hfault, hfault]
    exact iff_of_false (Option.some_ne_none fault) fun h => Option.some_ne_none fault h.1

/-- Requests for the items of a list are accepted together exactly if each of them is. -/
theorem each_accepted_iff {α : Type} {request : α → Request} {items : List α} :
    (each request items).fault? = none ↔ ∀ item ∈ items, (request item).fault? = none := by
  induction items with
  | nil => exact iff_of_true rfl nofun
  | cons item rest ih => rw [each, andThen_accepted_iff, ih, List.forall_mem_cons]

/-- Requests that are all accepted ask for all their writes. -/
theorem each_writes {α : Type} {request : α → Request} {items : List α}
    (h : ∀ item ∈ items, (request item).fault? = none) :
    (each request items).writes = items.flatMap fun item => (request item).writes := by
  induction items with
  | nil => rfl
  | cons item rest ih =>
    rw [List.forall_mem_cons] at h
    rw [each, andThen, h.1, List.flatMap_cons, ih h.2]

/-- Options are accepted in every order or in none. -/
theorem ofEntries_accepted_perm {entries reordered : Entries} (hperm : entries.Perm reordered) :
    (ofEntries entries).fault? = none ↔ (ofEntries reordered).fault? = none := by
  rw [ofEntries, each_accepted_iff, ofEntries, each_accepted_iff]
  exact ⟨fun h entry hentry => h entry (hperm.mem_iff.mpr hentry),
    fun h entry hentry => h entry (hperm.mem_iff.mp hentry)⟩

/-- Options that are accepted ask for the same writes in every order. -/
theorem ofEntries_writes_perm {entries reordered : Entries} (hperm : entries.Perm reordered)
    (h : (ofEntries entries).fault? = none) : (ofEntries entries).writes.Perm (ofEntries reordered).writes := by
  have hreordered := (ofEntries_accepted_perm hperm).mp h
  rw [ofEntries] at h hreordered
  rw [ofEntries, each_writes (each_accepted_iff.mp h), ofEntries, each_writes (each_accepted_iff.mp hreordered)]
  exact hperm.flatMap_right _

/-- Options that are accepted ask for one write each, to the option of that name. -/
theorem keys_of_accepted {options : Options} (h : (ofEntries options.toEntries).fault? = none) :
    (ofEntries options.toEntries).writes.map Write.key =
      options.map fun option => OptionKey.ofName (.text option.1) := by
  induction options with
  | nil => rfl
  | cons option rest ih =>
    obtain ⟨hfirst, hrest⟩ := andThen_accepted_iff.mp h
    obtain ⟨write, hrequest, hsets⟩ := ofOption_of_accepted hfirst
    rw [List.map_cons, ← ih hrest, ← hsets.key_eq]
    rw [Options.toEntries, List.map_cons, ofEntries, each, andThen, hfirst, hrequest]
    rfl

/-- Every write that accepted options ask for goes to an option that has a text for its name. -/
theorem isNamed_of_accepted {options : Options} (h : (ofEntries options.toEntries).fault? = none) :
    ∀ write ∈ (ofEntries options.toEntries).writes, write.IsNamed := by
  intro write hwrite
  have hkey : write.key ∈ (ofEntries options.toEntries).writes.map Write.key := List.mem_map_of_mem hwrite
  rw [keys_of_accepted h] at hkey
  obtain ⟨option, -, hoption⟩ := List.mem_map.mp hkey
  exact ⟨option.1, hoption.symm⟩

/-- Options under different names that are accepted ask for writes to different options. -/
theorem nodup_keys_of_accepted {options : Options} (h : (ofEntries options.toEntries).fault? = none)
    (hdistinct : (options.map fun option => canonicalName option.1).Nodup) :
    ((ofEntries options.toEntries).writes.map Write.key).Nodup := by
  rw [keys_of_accepted h]
  rw [List.nodup_iff_pairwise_ne, List.pairwise_map] at hdistinct ⊢
  exact hdistinct.imp fun hne => mt OptionKey.ofName_eq_iff.mp hne

end Request

namespace Validator

/-- The validators have the same record, and their configurations match. -/
structure Matches (first second : Validator) : Prop where
  config_matches : first.config.Matches second.config
  record_eq : first.record = second.record

/-- In every reachable validator, options under different names are accepted in every order or in none, and leave the
same behind in every order. -/
theorem setOptions_any_order {validator : Validator} (constructed : Constructed validator)
    (operations : List Operation) {options reordered : Options}
    (hdistinct : (options.map fun option => canonicalName option.1).Nodup) (hperm : options.Perm reordered) :
    let given := (validator.run operations).step (.setOptions (.dict options.toEntries))
    let other := (validator.run operations).step (.setOptions (.dict reordered.toEntries))
    (given.2 = .ok .itself ↔ other.2 = .ok .itself) ∧ (given.2 = .ok .itself → given.1.Matches other.1) := by
  intro given other
  obtain ⟨-, hforeign⟩ := constructed.run_config operations
  have hentries : options.toEntries.Perm reordered.toEntries := hperm.map _
  have hgiven : given.2 = .ok .itself ↔ (Request.ofEntries options.toEntries).fault? = none :=
    step_succeeds_iff _ rfl
  have hother : other.2 = .ok .itself ↔ (Request.ofEntries reordered.toEntries).fault? = none :=
    step_succeeds_iff _ rfl
  constructor
  · rw [hgiven, hother]
    exact Request.ofEntries_accepted_perm hentries
  · intro hsucceeds
    have haccepted := hgiven.mp hsucceeds
    constructor
    · rw [step_config, step_config]
      exact Configuration.writeAll_perm (Request.ofEntries_writes_perm hentries haccepted)
        (Request.isNamed_of_accepted haccepted) (Request.nodup_keys_of_accepted haccepted hdistinct) hforeign
    · rw [step_record_of_unchecked _ rfl, step_record_of_unchecked _ rfl]

/-- Options of every kind that are accepted, given from the first to the last and from the last to the first. The two
new options of others are kept in different orders. -/
theorem setOptions_any_order_of_reverse :
    let validator := ofConfiguration ⟨489, [(.invalid, .text "a")], false, [(.text "owner", .int 7)]⟩
    let operations : List Operation := [.setOption (.text "messageTemplates") .null, .check (.text " ")]
    let options : Options := [("level", .int 1), ("messages", .dict [(.null, .text "b")]), ("valueObscured", .text "x"),
      ("owner", .null), ("type", .tuple [.text "zero", .int 64]), ("tags", .list [])]
    let given := (validator.run operations).step (.setOptions (.dict options.toEntries))
    let other := (validator.run operations).step (.setOptions (.dict (Options.toEntries options.reverse)))
    Constructed validator ∧ (options.map fun option => canonicalName option.1).Nodup ∧
      options.Perm options.reverse ∧ given.2 = .ok .itself ∧ other.2 = .ok .itself ∧ given.1.Matches other.1 := by
  intro validator operations options given other
  have hbuild : Validator.ofArguments (some (.dict [(.text "owner", .int 7)]))
      [("messages", .dict [(.text "notEmptyInvalid", .text "a")])] = .ok validator := rfl
  have hconstructed : Constructed validator := .arguments hbuild
  have hdistinct : (options.map fun option => canonicalName option.1).Nodup := by decide
  have hperm : options.Perm options.reverse := (List.reverse_perm options).symm
  have hgiven : given.2 = .ok .itself := rfl
  obtain ⟨hagree, hmatches⟩ := setOptions_any_order hconstructed operations hdistinct hperm
  exact ⟨hconstructed, hdistinct, hperm, hgiven, hagree.mp hgiven, hmatches hgiven⟩

/-- Two spellings of one name are one option: of these the last one counts. -/
example :
    let validator := ofConfiguration .initial
    let options : Options := [("value_obscured", .bool true), ("valueObscured", .bool false)]
    (validator.step (.setOptions (.dict options.toEntries))).1.config.obscured = false ∧
      (validator.step (.setOptions (.dict (Options.toEntries options.reverse)))).1.config.obscured = true :=
  ⟨rfl, rfl⟩

end Validator

end Emptiness
