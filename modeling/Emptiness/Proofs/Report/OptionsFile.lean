import Emptiness.Proofs.Text.Utf8
import Emptiness.Proofs.Toml.Document
import Emptiness.Report.Check

/-!
# What an options file does to a check

The octets of an options file give a table, or a mistake in the configuration that a check reports with a line of its
own and an exit code for it. There are two exceptions: octets that are the UTF-8 of no text, and a document with a
decimal number that is too long. These faults are not reported but end the check.
-/

namespace Emptiness

variable {octets : List UInt8} {text : List Char}

/-- A document holds a table of options, or it is misconfigured. -/
theorem optionsIn_dict (document : Entries) :
    (∃ table, optionsIn (.dict document) = .ok table) ∨
      ∃ cause, optionsIn (.dict document) = .error (.misconfigured cause) := by
  rw [Value.dict, optionsIn]
  split
  · exact .inl ⟨_, rfl⟩
  · exact .inr ⟨_, rfl⟩

/-- The options of a text are those of the document that it is. -/
theorem optionsOfContent_of_encodes (h : Text.Encodes octets text) :
    optionsOfContent octets =
      match Toml.read text with
      | .ok document => optionsIn (.dict document)
      | .error .malformed => .error (.misconfigured .malformedFile)
      | .error (.numeralTooLong count) => .error (.numeralTooLong (some count)) := by
  rewrite [optionsOfContent, Text.decodeUtf8_eq_ok_iff.mpr h]
  rfl

/-- The options of a text are a table, or they are misconfigured, or a number in the text is too long. -/
theorem optionsOfContent_cases (h : Text.Encodes octets text) :
    (∃ table, optionsOfContent octets = .ok table) ∨
      (∃ cause, optionsOfContent octets = .error (.misconfigured cause)) ∨
      ∃ n, optionsOfContent octets = .error (.numeralTooLong (some n)) ∧ Toml.HasLongNumeral n text := by
  rw [optionsOfContent_of_encodes h]
  split
  case h_1 document _ => exact (optionsIn_dict document).imp_right .inl
  case h_2 => exact .inr (.inl ⟨_, rfl⟩)
  case h_3 n hread => exact .inr (.inr ⟨n, rfl, Toml.hasLongNumeral_of_read hread⟩)

/-- Octets are reported as undecodable exactly if they are the UTF-8 of no text. -/
theorem optionsOfContent_undecodable_iff :
    (∃ cause, optionsOfContent octets = .error (.undecodable cause)) ↔ ∀ text, ¬ Text.Encodes octets text := by
  constructor
  · rintro ⟨cause, hcause⟩ text htext
    rcases optionsOfContent_cases htext with ⟨_, hcase⟩ | ⟨_, hcase⟩ | ⟨_, hcase, -⟩ <;> cases hcause.symm.trans hcase
  · intro h
    obtain ⟨cause, hcause⟩ := Text.exists_decodeUtf8_error_iff.mpr h
    exact ⟨cause, by rw [optionsOfContent, hcause]⟩

/-- The octets of an options file fail for a mistake in the configuration, as octets of no text, or for a number in
their text that is too long. -/
theorem optionsOfContent_fault_cases {fault : Fault} (h : optionsOfContent octets = .error fault) :
    (∃ cause, fault = .misconfigured cause) ∨ (∃ cause, fault = .undecodable cause) ∨
      ∃ n text, fault = .numeralTooLong (some n) ∧ Text.Encodes octets text ∧ Toml.HasLongNumeral n text := by
  by_cases htext : ∃ text, Text.Encodes octets text
  · obtain ⟨text, htext⟩ := htext
    rcases optionsOfContent_cases htext with ⟨_, hcase⟩ | ⟨cause, hcase⟩ | ⟨n, hcase, hlong⟩ <;>
      cases h.symm.trans hcase
    · exact .inl ⟨cause, rfl⟩
    · exact .inr (.inr ⟨n, text, rfl, htext, hlong⟩)
  · obtain ⟨cause, hcause⟩ := optionsOfContent_undecodable_iff.mpr (not_exists.mp htext)
    cases h.symm.trans hcause
    exact .inr (.inl ⟨cause, rfl⟩)

namespace Report

variable {path : String} {entry : FileEntry} {fault : Fault} {words names : List String} {json raw : Bool}

/-- A check whose options file fails ends with this fault, or with a line about it if it is a mistake in the
configuration. -/
theorem runCheck_of_fault (h : loadOptions path entry = .error fault) :
    runCheck ⟨words, names, some path, json, raw⟩ entry =
      if isConfigurationFault fault then .ok (configurationError fault) else .error fault := by
  simp only [runCheck, Option.map_some, buildValidator, h, bind, Except.bind]

/-- An options file that is the UTF-8 of a text without a number that is too long gives a table or a mistake in the
configuration, which a check reports with the exit code for it. Octets are undecodable exactly if they are the UTF-8 of
no text. The only other fault is a number that is too long, and stands in the text; these two faults end a check. -/
theorem file_read_or_misconfigured (path : String) (octets : List UInt8) :
    (∀ text, Text.Encodes octets text → (∀ n, ¬ Toml.HasLongNumeral n text) →
      (∃ table, loadOptions path (.content octets) = .ok table) ∨
        ∃ cause, loadOptions path (.content octets) = .error (.misconfigured cause)) ∧
      ((∃ cause, loadOptions path (.content octets) = .error (.undecodable cause)) ↔
        ∀ text, ¬ Text.Encodes octets text) ∧
      (∀ fault, loadOptions path (.content octets) = .error fault →
        (∃ cause, fault = .misconfigured cause) ∨ (∃ cause, fault = .undecodable cause) ∨
          ∃ n text, fault = .numeralTooLong (some n) ∧ Text.Encodes octets text ∧ Toml.HasLongNumeral n text) ∧
      ∀ (words names : List String) (json raw : Bool) (fault : Fault),
        loadOptions path (.content octets) = .error fault →
        (∀ cause, fault = .misconfigured cause → ∃ line,
          runCheck ⟨words, names, some path, json, raw⟩ (.content octets) = .ok ⟨2, "", line⟩) ∧
        ((∀ cause, fault ≠ .misconfigured cause) →
          runCheck ⟨words, names, some path, json, raw⟩ (.content octets) = .error fault) := by
  refine ⟨?_, ?_, fun _ => optionsOfContent_fault_cases, ?_⟩
  · intro text htext hshort
    rcases optionsOfContent_cases htext with htable | hcause | ⟨n, -, hlong⟩
    · exact .inl htable
    · exact .inr hcause
    · exact absurd hlong (hshort n)
  · exact optionsOfContent_undecodable_iff
  · intro words names json raw fault hfault
    have hrun : runCheck ⟨words, names, some path, json, raw⟩ (.content octets) = _ := runCheck_of_fault hfault
    constructor
    · rintro cause rfl
      exact ⟨_, hrun⟩
    · intro hother
      rcases optionsOfContent_fault_cases hfault with ⟨cause, rfl⟩ | ⟨cause, rfl⟩ | ⟨n, text, rfl, -⟩
      · exact absurd rfl (hother cause)
      · exact hrun
      · exact hrun

/-- A number in the place of the options is reported with the exit code for it, and an undecodable octet at the end of a
comment ends the check. -/
theorem file_read_or_misconfigured_of_number :
    let text := "notempty = 3\n".toList
    let octets := "notempty = 3\n".toUTF8.data.toList
    let comment : List UInt8 := [0x23, 0x20, 0xe9]
    let cause : Misconfiguration := .tableExpected "int"
    let fault : Fault := .undecodable ⟨2, 1, 0xe9, .unexpectedEnd⟩
    Text.Encodes octets text ∧ (∀ n, ¬ Toml.HasLongNumeral n text) ∧
      ((∃ table, loadOptions "a.toml" (.content octets) = .ok table) ∨
        ∃ cause, loadOptions "a.toml" (.content octets) = .error (.misconfigured cause)) ∧
      loadOptions "a.toml" (.content octets) = .error (.misconfigured cause) ∧
      (∃ line, runCheck ⟨["x"], ["zero"], some "a.toml", true, false⟩ (.content octets) = .ok ⟨2, "", line⟩) ∧
      loadOptions "b.toml" (.content comment) = .error fault ∧ (∀ text, ¬ Text.Encodes comment text) ∧
      (∀ cause, fault ≠ .misconfigured cause) ∧
      runCheck ⟨["x"], [], some "b.toml", false, true⟩ (.content comment) = .error fault := by
  intro text octets comment cause fault
  obtain ⟨hread, -, -, hrun⟩ := file_read_or_misconfigured "a.toml" octets
  obtain ⟨-, hundecodable, -, hends⟩ := file_read_or_misconfigured "b.toml" comment
  have hencodes : Text.Encodes octets text := by
    rw [Text.Encodes]
    decide
  have hshort : ∀ n, ¬ Toml.HasLongNumeral n text := by
    intro n hlong
    exact absurd hlong.limit_lt_length (by decide)
  have hload : loadOptions "a.toml" (.content octets) = .error (.misconfigured cause) := rfl
  have hfault : loadOptions "b.toml" (.content comment) = .error fault := rfl
  have hcause : ∀ cause, fault ≠ .misconfigured cause := by
    intro cause hmisconfigured
    cases (show Fault.undecodable _ = .misconfigured cause from hmisconfigured)
  exact ⟨hencodes, hshort, hread text hencodes hshort, hload, (hrun _ _ _ _ _ hload).1 cause rfl, hfault,
    hundecodable.mp ⟨_, hfault⟩, hcause, (hends _ _ _ _ _ hfault).2 hcause⟩

/-- A file with a number of too many ones gives neither a table nor a mistake in the configuration. -/
theorem loadOptions_ones {n : Nat} (h : Number.digitLimit ≤ n) :
    loadOptions path (.content (('n' :: '=' :: '1' :: List.replicate n '1').flatMap String.utf8EncodeChar)) =
      .error (.numeralTooLong (some (n + 1))) := by
  rw [loadOptions, optionsOfContent_of_encodes rfl, Toml.read_ones h]

/-- An octet of another encoding in a comment, and a number of 4301 digits: both of the files give neither a table nor a
mistake in the configuration, and end a check with a fault of their own. -/
theorem undecodable_comment_and_long_number_end_check :
    let comment : List UInt8 := [0x23, 0x20, 0x63, 0x61, 0x66, 0xe9, 0x0a]
    let number := ('n' :: '=' :: '1' :: List.replicate 4300 '1').flatMap String.utf8EncodeChar
    let files :=
      [(comment, Fault.undecodable ⟨5, 1, 0xe9, .invalidContinuation⟩), (number, .numeralTooLong (some 4301))]
    ∀ file ∈ files, loadOptions "options.toml" (.content file.1) = .error file.2 ∧
      (∀ table, loadOptions "options.toml" (.content file.1) ≠ .ok table) ∧
      (∀ cause, loadOptions "options.toml" (.content file.1) ≠ .error (.misconfigured cause)) ∧
      runCheck ⟨["1"], [], some "options.toml", false, false⟩ (.content file.1) = .error file.2 := by
  intro comment number files file hfile
  have hload : loadOptions "options.toml" (.content file.1) = .error file.2 ∧ isConfigurationFault file.2 = false := by
    rw [List.mem_cons, List.mem_singleton] at hfile
    rcases hfile with rfl | rfl
    · exact ⟨rfl, rfl⟩
    · exact ⟨loadOptions_ones (Nat.le_refl 4300), rfl⟩
  obtain ⟨hload, hfault⟩ := hload
  refine ⟨hload, ?_, ?_, ?_⟩
  · intro table htable
    cases hload.symm.trans htable
  · intro cause hcause
    have hsame : file.2 = .misconfigured cause := Except.error.inj (hload.symm.trans hcause)
    rw [hsame] at hfault
    cases hfault
  · rw [runCheck_of_fault hload, hfault]
    rfl

end Report

end Emptiness
