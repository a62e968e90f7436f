import Emptiness.Proofs.Options
import Emptiness.Proofs.Report.Agreement

/-!
# Names of rules in place of those of an options file

Rules that are named for a check replace the rules of its options file as a whole. What else the file sets stays in
force: its templates, whether values are obscured, and the options of others. So two files that agree in everything but
their selector cannot be told apart by a check that names its rules, whatever it is told to check.
-/

namespace Emptiness

/-- The entries of a table besides its selector. They keep their order, in which the last of two spellings of an option
counts. -/
def Entries.besidesSelector (table : Entries) : Entries :=
  table.filter fun entry => !entry.1.sameKey (.text selectorKey)

namespace Options

/-- The options that entries stand for do not depend on their selector. -/
theorem ofEntries_besidesSelector (done : Options) (table : Entries) :
    ofEntries done table.besidesSelector = ofEntries done table := by
  induction table generalizing done with
  | nil => rfl
  | cons entry rest ih =>
    obtain ⟨key, value⟩ := entry
    rw [Entries.besidesSelector] at ih ⊢
    cases hselector : key.sameKey (.text selectorKey) with
    | true =>
      rw [List.filter_cons_of_neg (by simp [hselector]), ih, ofEntries, hselector, if_pos rfl]
    | false =>
      rw [List.filter_cons_of_pos (by simp [hselector]), ofEntries, ofEntries, hselector]
      simp only [ih]

/-- A table is split into its selector and what its other entries stand for. -/
theorem split_dict {table : Entries} {selector : Value} {rest : Options}
    (h : split (.dict table) = .ok (selector, rest)) : ofEntries [] table.besidesSelector = .ok rest := by
  obtain ⟨entries?, hread, h⟩ := bind_eq_ok h
  cases hread
  obtain ⟨others, hothers, h⟩ := bind_eq_ok h
  cases h
  rw [ofEntries_besidesSelector, hothers]

end Options

namespace Configuration

/-- All that a selector decides about a configuration that is built is its rules. -/
theorem build_besides_mask {given selector : Value} {rest further : Options} {config : Configuration}
    (hsplit : Options.split given = .ok (selector, rest)) (hbuild : build given further = .ok config) :
    ∃ mask, config =
      { (initial.setEntries ((rest.putAll further).remove selectorKey).toEntries).config with mask := mask } := by
  simp only [build, hsplit, bind, Except.bind] at hbuild
  rw [Options.toEntries]
  split at hbuild
  · cases hbuild
  · split at hbuild
    · cases hbuild
      exact ⟨_, rfl⟩
    · split at hbuild
      · cases hbuild
      · cases hbuild
        exact ⟨_, rfl⟩

/-- Tables that agree besides their selectors give configurations that agree besides their rules. -/
theorem build_dict_congr {table table' : Entries} {config config' : Configuration}
    (hsame : table.besidesSelector = table'.besidesSelector) (hbuild : build (.dict table) [] = .ok config)
    (hbuild' : build (.dict table') [] = .ok config') : config' = { config with mask := config'.mask } := by
  obtain ⟨⟨selector, rest⟩, hsplit, -⟩ := bind_eq_ok hbuild
  obtain ⟨⟨selector', rest'⟩, hsplit', -⟩ := bind_eq_ok hbuild'
  have hrest : rest' = rest := by
    have hothers := Options.split_dict hsplit
    rw [hsame, Options.split_dict hsplit'] at hothers
    exact Except.ok.inj hothers
  subst hrest
  obtain ⟨mask, rfl⟩ := build_besides_mask hsplit hbuild
  obtain ⟨mask', rfl⟩ := build_besides_mask hsplit' hbuild'
  rfl

end Configuration

namespace Report

variable {path path' : String} {entry entry' : FileEntry} {table table' : Entries} {config config' : Configuration}

/-- The options file holds this table, and a validator with this configuration is built from it. -/
structure Configures (path : String) (entry : FileEntry) (table : Entries) (config : Configuration) : Prop where
  loads : loadOptions path entry = .ok table
  builds : Validator.build (.dict table) [] = .ok (.ofConfiguration config)

/-- The configuration that an options file gives is built from its table. -/
theorem Configures.build_eq (h : Configures path entry table config) :
    Configuration.build (.dict table) [] = .ok config := by
  obtain ⟨built, hbuilt, hsame⟩ := map_eq_ok h.builds
  rw [hbuilt]
  exact congrArg (fun validator => Except.ok validator.config) hsame

/-- Rules that are named replace those of the options file, and nothing else. -/
theorem Configures.buildValidator_eq (h : Configures path entry table config) {names : List String}
    (hnames : names ≠ []) : buildValidator names (some (path, entry)) =
      (selectedMask names).map fun mask => .ofConfiguration { config with mask := mask } := by
  have hgiven : names.isEmpty = false := List.isEmpty_eq_false_iff.mpr hnames
  rw [buildValidator, selectedMask]
  simp only [h.loads, h.builds, bind, Except.bind, Validator.step_setType, hgiven]
  cases Selector.mask (.list (names.map .string)) <;> rfl

/-- Options files that agree besides their selectors are configured alike besides the rules. -/
theorem Configures.config_eq (h : Configures path entry table config) (h' : Configures path' entry' table' config')
    (hsame : table.besidesSelector = table'.besidesSelector) : config' = { config with mask := config'.mask } :=
  Configuration.build_dict_congr hsame h.build_eq h'.build_eq

/-- A check with rules that are named either refuses the names or goes by their rules and the rest of the file. -/
theorem Configures.runCheck_cases (h : Configures path entry table config) {names : List String}
    (hnames : names ≠ []) (words : List String) (json raw : Bool) :
    (∃ mask, selectedMask names = .ok mask ∧ runCheck ⟨words, names, some path, json, raw⟩ entry =
      checkBy (.ofConfiguration { config with mask := mask }) words json raw) ∨
    ∃ fault, selectedMask names = .error fault ∧
      runCheck ⟨words, names, some path, json, raw⟩ entry = .ok (configurationError fault) := by
  have hbuild := h.buildValidator_eq hnames
  rcases selectedMask_cases names with ⟨mask, hmask⟩ | ⟨fault, hfault, hmask⟩
  · rw [hmask] at hbuild
    refine .inl ⟨mask, hmask, ?_⟩
    simp only [runCheck, Option.map_some, hbuild, Except.map]
  · rw [hmask] at hbuild
    refine .inr ⟨fault, hmask, ?_⟩
    simp only [runCheck, Option.map_some, hbuild, Except.map, if_pos hfault]

/-- Names of rules that are given replace the rules of an options file: two files whose tables agree besides their
selectors give the same check of any words, whether it ends with an outcome or a fault. The check goes by the rules that
are named and by the templates, the obscuring and the options of others in the file, which are the same in both. -/
theorem names_replace_rules (h : Configures path entry table config) (h' : Configures path' entry' table' config')
    (hsame : table.besidesSelector = table'.besidesSelector) {names : List String} (hnames : names ≠ [])
    (words : List String) (json raw : Bool) :
    runCheck ⟨words, names, some path, json, raw⟩ entry = runCheck ⟨words, names, some path', json, raw⟩ entry' ∧
      (config'.overrides = config.overrides ∧ config'.obscured = config.obscured ∧ config'.foreign = config.foreign) ∧
      ((∃ mask, selectedMask names = .ok mask ∧ runCheck ⟨words, names, some path, json, raw⟩ entry =
        checkBy (.ofConfiguration { config with mask := mask }) words json raw) ∨
      ∃ fault, selectedMask names = .error fault ∧
        runCheck ⟨words, names, some path, json, raw⟩ entry = .ok (configurationError fault)) := by
  have hconfig := h.config_eq h' hsame
  have hbuild : buildValidator names (some (path, entry)) = buildValidator names (some (path', entry')) := by
    rw [h.buildValidator_eq hnames, h'.buildValidator_eq hnames, hconfig]
  refine ⟨?_, ?_, h.runCheck_cases hnames words json raw⟩
  · simp only [runCheck, Option.map_some, hbuild]
  · rw [hconfig]
    exact ⟨rfl, rfl, rfl⟩

/-- One file names a rule, and the other one holds a table within a table with all of them; both of them obscure values,
replace a template and set an option of others. -/
theorem names_replace_rules_of_nested_selector :
    let plain := "type='zero'\nvalueObscured=1\nlevel=3\nmessages.isEmpty='%value%'"
    let nested := "[notempty]\nvalueObscured=1\ntype.type=['all']\nlevel=3\nmessages.isEmpty='%value%'"
    let entry : FileEntry := .content plain.toUTF8.data.toList
    let entry' : FileEntry := .content nested.toUTF8.data.toList
    let rest : Entries := [(.text "level", .int 3), (.text "messages", .dict [(.text "isEmpty", .text "%value%")])]
    let table : Entries := [(.text "type", .text "zero"), (.text "valueObscured", .int 1)] ++ rest
    let table' : Entries :=
      [(.text "valueObscured", .int 1), (.text "type", .dict [(.text "type", .list [.text "all"])])] ++ rest
    let config (mask : Nat) : Configuration := ⟨mask, [(.isEmpty, .text "%value%")], true, [(.text "level", .int 3)]⟩
    let names := ["Space", "string"]
    let words := ["   ", "0", "[]"]
    Configures "a.toml" entry table (config 16) ∧ Configures "b.toml" entry' table' (config 2047) ∧
      table.besidesSelector = table'.besidesSelector ∧ names ≠ [] ∧
      runCheck ⟨words, names, some "a.toml", true, false⟩ entry =
        runCheck ⟨words, names, some "b.toml", true, false⟩ entry' := by
  intro plain nested entry entry' rest table table' config names words
  have hfirst : Configures "a.toml" entry table (config 16) := ⟨rfl, rfl⟩
  have hsecond : Configures "b.toml" entry' table' (config 2047) := ⟨rfl, rfl⟩
  have hnames : names ≠ [] := List.cons_ne_nil _ _
  exact ⟨hfirst, hsecond, rfl, hnames, (names_replace_rules hfirst hsecond rfl hnames words true false).1⟩

end Report

end Emptiness
