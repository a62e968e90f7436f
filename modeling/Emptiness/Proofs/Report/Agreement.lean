import Emptiness.Proofs.Report.Independence
import Emptiness.Proofs.RuleName
import Emptiness.Proofs.Selector.Grammar
import Emptiness.Report.Catalogue

/-!
# The report and the catalogue agree on a selection

A check and the catalogue take the same selection of rules by names, in two ways: a check replaces the rules of a new
validator, and the catalogue reduces the names to a mask. Either both refuse the selection in the same words, or their
JSON documents tell of the same mask. The rules of the report are then the single rules that the catalogue lists as
active, and a composite is listed as active exactly if all of its rules are.
-/

namespace Emptiness

/-- The member of a JSON object under a name. -/
def Json.member? (document : Json) (name : Text) : Option Json :=
  match document with
  | .object members => members.lookup name
  | _ => none

namespace Report

/-- The entries of a JSON catalogue. -/
def listedEntries (catalogue : Json) : List Json :=
  match catalogue.member? "rules" with
  | some (.array entries) => entries
  | _ => []

/-- An entry of a JSON catalogue is active. -/
def saysActive (entry : Json) : Bool :=
  match entry.member? "active" with
  | some (.bool isActive) => isActive
  | _ => false

/-- The value of an entry of a JSON catalogue is a single bit. -/
def saysSingle (entry : Json) : Bool :=
  match entry.member? "value" with
  | some (.int (.ofNat value)) => value == 1 <<< value.log2
  | _ => false

/-- A JSON catalogue lists a name as active. -/
def ListsActive (catalogue : Json) (name : String) : Prop :=
  ∃ entry ∈ listedEntries catalogue, entry.member? "name" = some (.text name) ∧ saysActive entry = true

/-- A JSON report and a JSON catalogue tell of the same selection of rules. -/
structure SameSelection (report catalogue : Json) : Prop where
  type_eq : ∃ mask, report.member? "type" = some (.int mask) ∧ catalogue.member? "type" = some (.int mask)
  rules_eq : report.member? "rules" = some (.array
    (((listedEntries catalogue).filter fun entry => saysActive entry && saysSingle entry).filterMap (·.member? "name")))
  php_iff : ListsActive catalogue "php" ↔
    ∀ name ∈ ["boolean", "integer", "float", "string", "zero", "array", "null"], ListsActive catalogue name
  all_iff : ListsActive catalogue "all" ↔
    ∀ name ∈ ["boolean", "integer", "float", "string", "zero", "array", "null", "space", "object", "objectstring",
      "objectcount"], ListsActive catalogue name

/-- A name is active in a mask exactly if all of its rules belong to the mask. -/
theorem containsAll_iff {mask : Nat} {name : RuleName} :
    containsAll mask name = true ↔ ∀ rule ∈ name.rules, Mask.has mask rule = true := by
  rw [containsAll, beq_iff_eq, RuleName.mask, RuleName.land_maskOf_eq_iff]

/-- A single rule is active in a mask exactly if it belongs to the mask. -/
theorem containsAll_single (mask : Nat) (rule : Rule) : containsAll mask (.single rule) = Mask.has mask rule := by
  rw [Bool.eq_iff_iff, containsAll_iff]
  exact List.forall_mem_singleton

/-- What the JSON catalogue says of a name. -/
def entryDocument (mask : Nat) (name : RuleName) : Json :=
  CatalogueEntry.document ⟨name, containsAll mask name, containsAll defaultMask name⟩

/-- The entries of the JSON catalogue are those of all names in order. -/
theorem listedEntries_catalogueDocument (mask : Nat) :
    listedEntries (catalogueDocument mask) = RuleName.inOrder.map (entryDocument mask) := by
  have hlisted : listedEntries (catalogueDocument mask) = (catalogue mask).map CatalogueEntry.document := rfl
  rw [hlisted, catalogue, List.map_map]
  rfl

/-- The JSON catalogue lists a name as active exactly if all of its rules belong to the mask. -/
theorem listsActive_iff {mask : Nat} {name : RuleName} :
    ListsActive (catalogueDocument mask) name.text ↔ ∀ rule ∈ name.rules, Mask.has mask rule = true := by
  rw [← containsAll_iff, ListsActive, listedEntries_catalogueDocument]
  constructor
  · rintro ⟨entry, hentry, hname, hactive⟩
    obtain ⟨other, -, rfl⟩ := List.mem_map.mp hentry
    have htext : other.text = name.text := Text.ofString_inj.mp (Json.text.inj (Option.some.inj hname))
    rw [← RuleName.text_injective htext]
    exact hactive
  · intro hactive
    exact ⟨entryDocument mask name, List.mem_map_of_mem name.mem_inOrder_names, rfl, hactive⟩

/-- A composite is listed as active exactly if each of its rules is. -/
theorem listsActive_composite_iff (mask : Nat) (name : RuleName) :
    ListsActive (catalogueDocument mask) name.text ↔
      ∀ single ∈ name.rules.map Rule.name, ListsActive (catalogueDocument mask) single := by
  have hsingle (rule : Rule) : ListsActive (catalogueDocument mask) rule.name ↔ Mask.has mask rule = true :=
    listsActive_iff.trans List.forall_mem_singleton
  rw [listsActive_iff, List.forall_mem_map]
  exact forall₂_congr fun rule _ => (hsingle rule).symm

/-- The names of the active entries whose value is a single bit are those of the rules in the mask. -/
theorem names_of_listedEntries (mask : Nat) :
    ((listedEntries (catalogueDocument mask)).filter fun entry => saysActive entry && saysSingle entry).filterMap
      (·.member? "name") = (Mask.names mask).map .string := by
  have hsaid (name : RuleName) : (saysActive (entryDocument mask name) && saysSingle (entryDocument mask name)) =
      (containsAll mask name && name.mask == 1 <<< name.mask.log2) := rfl
  have hname (name : RuleName) : (entryDocument mask name).member? "name" = some (.text name.text) := rfl
  have hsingles : RuleName.inOrder.filter (fun name => name.mask == 1 <<< name.mask.log2) =
      Rule.all.map RuleName.single := by decide +kernel
  rw [listedEntries_catalogueDocument, List.filter_map, List.filterMap_map]
  simp only [Function.comp_def, hsaid, hname]
  rw [← List.filter_filter, hsingles, List.filter_map]
  simp only [Function.comp_def, containsAll_single]
  rw [List.filterMap_map, Mask.names, List.map_map]
  exact congrFun List.filterMap_eq_map _

/-- The report and the catalogue of one mask tell of the same selection. -/
theorem sameSelection (mask : Nat) (results : List Json) :
    SameSelection (reportDocument mask results) (catalogueDocument mask) where
  type_eq := ⟨mask, rfl, rfl⟩
  rules_eq := by
    rw [names_of_listedEntries]
    rfl
  php_iff := listsActive_composite_iff mask .php
  all_iff := listsActive_composite_iff mask .all

/-- Names either select a mask, or the selection is a mistake in the configuration. -/
theorem selectedMask_cases (names : List String) :
    (∃ mask, selectedMask names = .ok mask) ∨
      ∃ fault, isConfigurationFault fault = true ∧ selectedMask names = .error fault := by
  rw [selectedMask]
  split
  · exact .inl ⟨_, rfl⟩
  · rw [Selector.mask_sequence]
    rcases Selector.names_or_first (names.map .string) with
      ⟨masks, hmasks⟩ | ⟨before, bad, after, hsplit, hbefore, hbad⟩
    · exact .inl ⟨_, Selector.unionMask_of_names hmasks 0⟩
    · have hmem : bad ∈ names.map Value.string := hsplit ▸ List.mem_append_right _ List.mem_cons_self
      obtain ⟨name, -, rfl⟩ := List.mem_map.mp hmem
      rw [hsplit, Selector.unionMask_of_first hbefore hbad]
      exact .inr ⟨_, rfl, rfl⟩

/-- A new configuration with the rules of a mask. -/
def newConfiguration (mask : Nat) : Configuration :=
  { Configuration.initial with mask := mask }

/-- Without an options file, the validator for a check has the rules that are selected, and is new otherwise. -/
theorem buildValidator_none (names : List String) :
    buildValidator names none = (selectedMask names).map fun mask => .ofConfiguration (newConfiguration mask) := by
  have hnew : Validator.build .null [] = .ok (.ofConfiguration .initial) := rfl
  rw [buildValidator, selectedMask, hnew]
  simp only [bind, Except.bind, Validator.step_setType]
  cases names.isEmpty with
  | true => rfl
  | false => cases Selector.mask (.list (names.map .string)) <;> rfl

/-- The exit code for rows is not the one for a wrong configuration. -/
theorem exitCode_ne_two (results : List Json) : exitCode results ≠ 2 := by
  rw [exitCode]
  split <;> decide

/-- A check without an options file and the catalogue agree on a selection by names. Either both of them refuse it with
the same line and nothing else, or neither does, and their JSON documents tell of the same selection. -/
theorem check_agrees_with_catalogue {names words : List String} {raw : Bool} (entry : FileEntry)
    (hwords : ∀ word ∈ words, ∃ v, wordValue word raw = .ok v) :
    (∃ line, ∀ json, runCheck ⟨words, names, none, json, raw⟩ entry = .ok ⟨2, "", line⟩ ∧
      runCatalogue names json = .ok ⟨2, "", line⟩) ∨
    ∃ code report catalogue, code ≠ 2 ∧ SameSelection report catalogue ∧
      runCheck ⟨words, names, none, true, raw⟩ entry = .ok ⟨code, report.render ++ "\n", ""⟩ ∧
      runCatalogue names true = .ok ⟨0, catalogue.render ++ "\n", ""⟩ ∧
      (∃ table, runCheck ⟨words, names, none, false, raw⟩ entry = .ok ⟨code, table, ""⟩) ∧
      ∃ table, runCatalogue names false = .ok ⟨0, table, ""⟩ := by
  have hbuild := buildValidator_none names
  rcases selectedMask_cases names with ⟨mask, hmask⟩ | ⟨fault, hfault, hmask⟩
  · let request : CheckRequest := ⟨[], names, none, false, raw⟩
    have hrequest : buildValidator request.names (request.config.map fun path => (path, entry)) =
        .ok (.ofConfiguration (newConfiguration mask)) := by
      rw [hmask] at hbuild
      exact hbuild
    have htexts : ∀ override ∈ (newConfiguration mask).overrides, ∃ s : String, override.2 = .text s := nofun
    obtain ⟨checked, rfl, hchecked⟩ := exists_all_checked htexts hwords
    have hreports := Checked.reports hrequest hchecked
    obtain ⟨lines, htable⟩ := hreports.table
    refine .inr ⟨_, _, catalogueDocument mask, exitCode_ne_two _, sameSelection mask _, hreports.document, ?_,
      ⟨_, htable⟩, ?_⟩
    · rw [runCatalogue, hmask]
      rfl
    · rw [runCatalogue, hmask]
      exact ⟨_, rfl⟩
  · rw [hmask] at hbuild
    refine .inl ⟨(configurationError fault).stderr, fun json => ⟨?_, ?_⟩⟩
    · simp only [runCheck, Option.map_none, hbuild, Except.map, if_pos hfault]
      rfl
    · simp only [runCatalogue, hmask, if_pos hfault]
      rfl

/-- A composite and a blank name select rules for a list that holds a null, and for a word that is no document. -/
theorem check_agrees_with_catalogue_on_composite :
    let names := ["php", " Space", "PHP"]
    let words := ["[null, -0.5]", " \t"]
    let entry : FileEntry := .missing
    (∀ word ∈ words, ∃ v, wordValue word false = .ok v) ∧
      ((∃ line, ∀ json, runCheck ⟨words, names, none, json, false⟩ entry = .ok ⟨2, "", line⟩ ∧
        runCatalogue names json = .ok ⟨2, "", line⟩) ∨
      ∃ code report catalogue, code ≠ 2 ∧ SameSelection report catalogue ∧
        runCheck ⟨words, names, none, true, false⟩ entry = .ok ⟨code, report.render ++ "\n", ""⟩ ∧
        runCatalogue names true = .ok ⟨0, catalogue.render ++ "\n", ""⟩ ∧
        (∃ table, runCheck ⟨words, names, none, false, false⟩ entry = .ok ⟨code, table, ""⟩) ∧
        ∃ table, runCatalogue names false = .ok ⟨0, table, ""⟩) := by
  intro names words entry
  have hwords : ∀ word ∈ words, ∃ v, wordValue word false = .ok v := by
    simp only [words, List.forall_mem_cons]
    exact ⟨exists_eq_ok (by decide +kernel), exists_eq_ok (by decide +kernel), nofun⟩
  exact ⟨hwords, check_agrees_with_catalogue entry hwords⟩

end Report

end Emptiness
