import Emptiness.CommandLine.Command
import Emptiness.Proofs.Fault

/-!
# The arguments of a check

The arguments of a check are words, names of rules and switches, in any order. Each part adds what it says to the
request and leaves the rest of the arguments to be read as if they stood alone, so the words and the names of the
request are those of the parts, in their order. A name may look like an option or be a double hyphen, since it belongs
to the option before it; a word may not, unless a double hyphen comes before it.
-/

namespace Emptiness.CommandLine

section Reading

variable {κ : Type} {specs : List (OptionSpec κ)}

/-- A word adds itself to the words. -/
theorem readArguments_word {word : String} (h : isOption word.toList = false) (rest : List String) :
    readArguments specs true (word :: rest) =
      (readArguments specs true rest).map fun reading => (reading.1, word :: reading.2) := by
  have hdashes : word ≠ "--" := by
    rintro rfl
    cases h
  rw [readArguments, if_neg hdashes, h]
  cases readArguments specs true rest <;> rfl

/-- An option without a value adds its settings. -/
theorem readArguments_switch {argument : String} {settings : List (Setting κ)} (hdashes : argument ≠ "--")
    (h : isOption argument.toList = true) (hread : readOption specs argument.toList = .ok ⟨settings, none⟩)
    (rest : List String) :
    readArguments specs true (argument :: rest) =
      (readArguments specs true rest).map fun reading => (settings ++ reading.1, reading.2) := by
  rw [readArguments, if_neg hdashes, if_pos h, hread]
  cases readArguments specs true rest <;> rfl

/-- An option with a value takes the next argument, whatever that is. -/
theorem readArguments_valued {argument name : String} {key : κ} (hdashes : argument ≠ "--")
    (h : isOption argument.toList = true) (hread : readOption specs argument.toList = .ok ⟨[], some (key, name)⟩)
    (value : String) (rest : List String) :
    readArguments specs true (argument :: value :: rest) =
      (readArguments specs true rest).map fun reading => (⟨key, some value⟩ :: reading.1, reading.2) := by
  rw [readArguments, if_neg hdashes, if_pos h, hread]
  simp only [bind, Except.bind]
  cases readArguments specs true rest <;> rfl

end Reading

/-- A part of the arguments of a check: a word, a name of rules behind the long or the short option, or a switch. -/
inductive Part where
  | word (text : String)
  | name (long : Bool) (text : String)
  | json
  | raw
  deriving DecidableEq

namespace Part

/-- The part as it is given. -/
def arguments : Part → List String
  | .word text => [text]
  | .name long text => [if long then "--type" else "-t", text]
  | .json => ["--json"]
  | .raw => ["--raw"]

/-- The word that the part is. -/
def word? : Part → Option String
  | .word text => some text
  | _ => none

/-- The name of rules that the part gives. -/
def name? : Part → Option String
  | .name _ text => some text
  | _ => none

/-- The settings that the part makes. -/
def settings : Part → List (Setting Key)
  | .word _ => []
  | .name _ text => [⟨.names, some text⟩]
  | .json => [⟨.json, none⟩]
  | .raw => [⟨.raw, none⟩]

/-- A word that does not begin with a hyphen, or is no more than that. -/
def IsPlain (word : String) : Prop :=
  word = "-" ∨ word.toList.head? ≠ some '-'

/-- A plain word is no option. -/
theorem IsPlain.isOption_eq_false {word : String} (h : IsPlain word) : isOption word.toList = false := by
  rcases h with rfl | h
  · rfl
  · unfold isOption
    split
    case h_1 htext => simp [htext] at h
    case h_2 => rfl

/-- A part adds its settings and its word to what is read of the arguments after it. -/
theorem readArguments_part (part : Part) (h : ∀ word ∈ part.word?, IsPlain word) (rest : List String) :
    readArguments Page.check.options true (part.arguments ++ rest) =
      (readArguments Page.check.options true rest).map fun reading =>
        (part.settings ++ reading.1, part.word?.toList ++ reading.2) := by
  cases part with
  | word text => exact readArguments_word (h text rfl).isOption_eq_false rest
  | name long text =>
    cases long with
    | true => exact readArguments_valued (by decide) rfl rfl text rest
    | false => exact readArguments_valued (by decide) rfl rfl text rest
  | json => exact readArguments_switch (by decide) rfl rfl rest
  | raw => exact readArguments_switch (by decide) rfl rfl rest

/-- Parts add their settings and their words, in order, to what is read of the arguments after them. -/
theorem readArguments_parts {parts : List Part} (h : ∀ word ∈ parts.filterMap word?, IsPlain word)
    (rest : List String) :
    readArguments Page.check.options true (parts.flatMap arguments ++ rest) =
      (readArguments Page.check.options true rest).map fun reading =>
        (parts.flatMap settings ++ reading.1, parts.filterMap word? ++ reading.2) := by
  induction parts with
  | nil =>
    rw [List.flatMap_nil, List.nil_append]
    cases readArguments Page.check.options true rest <;> rfl
  | cons part others ih =>
    have hwords : (part :: others).filterMap word? = part.word?.toList ++ others.filterMap word? := by
      rw [List.filterMap_cons]
      cases part.word? <;> rfl
    rw [hwords, List.forall_mem_append] at h
    rw [hwords, List.flatMap_cons, List.flatMap_cons, List.append_assoc,
      readArguments_part part (by simpa using h.1), ih h.2]
    simp only [List.append_assoc]
    cases readArguments Page.check.options true rest <;> rfl

/-- The names of rules among the settings of parts are those of the parts, in order. -/
theorem valuesOf_names (parts : List Part) : valuesOf (parts.flatMap settings) .names = parts.filterMap name? := by
  induction parts with
  | nil => rfl
  | cons part others ih =>
    rw [valuesOf] at ih ⊢
    rw [List.flatMap_cons, List.filterMap_append, ih]
    cases part <;> rfl

/-- No part names an options file. -/
theorem valuesOf_config (parts : List Part) : valuesOf (parts.flatMap settings) .config = [] := by
  rw [valuesOf, List.filterMap_flatMap, List.flatMap_eq_nil_iff]
  intro part _
  cases part <;> rfl

/-- A switch is given exactly if it is one of the parts. -/
theorem isGiven_eq_decide_mem {switch : Part} {key : Key}
    (hsets : ∀ part : Part, isGiven part.settings key = true ↔ part = switch) (parts : List Part) :
    isGiven (parts.flatMap settings) key = decide (switch ∈ parts) := by
  have hany : isGiven (parts.flatMap settings) key = parts.any fun part => isGiven part.settings key :=
    List.any_flatMap
  rw [hany, Bool.eq_iff_iff, List.any_eq_true, decide_eq_true_eq]
  simp only [hsets, exists_eq_right]

/-- No part asks for help. -/
theorem isGiven_help (parts : List Part) : isGiven (parts.flatMap settings) .help = false := by
  rw [isGiven, List.any_flatMap, List.any_eq_false]
  intro part _
  cases part <;> simp [settings]

end Part

/-- The arguments that may follow the parts: none, or a double hyphen and any words. -/
def ending : Option (List String) → List String
  | none => []
  | some words => "--" :: words

/-- The arguments after the parts are words without exception. -/
theorem readArguments_ending (words? : Option (List String)) :
    readArguments Page.check.options true (ending words?) = .ok ([], words?.getD []) := by
  cases words? with
  | none => rfl
  | some words => rw [ending, readArguments, if_pos rfl, Option.getD_some]

/-- The request that parts make, with the words after a double hyphen. -/
def requestOf (parts : List Part) (words? : Option (List String)) : Report.CheckRequest where
  words := parts.filterMap Part.word? ++ words?.getD []
  names := parts.filterMap Part.name?
  config := none
  json := decide (Part.json ∈ parts)
  raw := decide (Part.raw ∈ parts)

/-- The arguments of a check are read as the request that they make. -/
theorem readCheck_parts {parts : List Part} (h : ∀ word ∈ parts.filterMap Part.word?, Part.IsPlain word)
    (words? : Option (List String)) :
    Command.readCheck (parts.flatMap Part.arguments ++ ending words?) = .check (requestOf parts words?) := by
  have hjson : isGiven (parts.flatMap Part.settings) .json = decide (Part.json ∈ parts) :=
    Part.isGiven_eq_decide_mem (fun part => by cases part <;> simp [isGiven, Part.settings]) parts
  have hraw : isGiven (parts.flatMap Part.settings) .raw = decide (Part.raw ∈ parts) :=
    Part.isGiven_eq_decide_mem (fun part => by cases part <;> simp [isGiven, Part.settings]) parts
  rw [Command.readCheck, Part.readArguments_parts h, readArguments_ending]
  simp only [Except.map, List.append_nil, Part.isGiven_help, Part.valuesOf_names, Part.valuesOf_config, hjson, hraw]
  rfl

/-- A command line that begins with the name of the check is read as its arguments are. -/
theorem read_check (arguments : List String) : Command.read ("check" :: arguments) = Command.readCheck arguments := by
  have hwords : readArguments Page.program.options false ("check" :: arguments) = .ok ([], "check" :: arguments) := by
    rw [readArguments, if_neg (by decide), if_neg (by decide)]
    rfl
  rw [Command.read, hwords]
  rfl

/-- A command line that begins with the name of the check and goes on with words, names and switches in any order, and
perhaps a double hyphen and any words, carries out the check of these words under these names and switches. No file is
needed for it. -/
theorem run_check_eq_runCheck (parts : List Part) (words? : Option (List String)) (find : String → FileEntry)
    (entry : FileEntry) (hplain : ∀ word ∈ parts.filterMap Part.word?, Part.IsPlain word)
    (hwords : parts.filterMap Part.word? ++ words?.getD [] ≠ []) :
    run ("check" :: parts.flatMap Part.arguments ++ ending words?) find =
      Report.runCheck (requestOf parts words?) entry := by
  have hempty : (requestOf parts words?).words.isEmpty = false := List.isEmpty_eq_false_iff.mpr hwords
  have hobstacle : Command.obstacle? (requestOf parts words?) .missing = none := by
    rw [Command.obstacle?, hempty]
    rfl
  calc run ("check" :: parts.flatMap Part.arguments ++ ending words?) find
      = Command.run (.check (requestOf parts words?)) .missing := by
        rw [run, List.cons_append, read_check, readCheck_parts hplain]
        rfl
    _ = Report.runCheck (requestOf parts words?) .missing := by
        simp only [Command.run, hobstacle]
    _ = Report.runCheck (requestOf parts words?) entry := rfl

/-- A hyphen and an empty text are words among the options, and words like options follow the double hyphen. -/
theorem run_check_of_words_like_options :
    (∀ word ∈ ["-", ""], Part.IsPlain word) ∧
      run ["check", "-", "-t", "zero", "--json", "", "--type", "string", "--json", "--raw", "--", "-t", "--"]
          (fun _ => .missing) =
        Report.runCheck ⟨["-", "", "-t", "--"], ["zero", "string"], none, true, true⟩ .missing := by
  have hplain : ∀ word ∈ ["-", ""], Part.IsPlain word := by
    rw [List.forall_mem_cons, List.forall_mem_singleton]
    exact ⟨.inl rfl, .inr (by decide)⟩
  refine ⟨hplain, ?_⟩
  exact run_check_eq_runCheck
    [.word "-", .name false "zero", .json, .word "", .name true "string", .json, .raw] (some ["-t", "--"])
    (fun _ => .missing) .missing hplain (List.cons_ne_nil _ _)

end Emptiness.CommandLine
