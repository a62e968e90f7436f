import Emptiness.Proofs.Validator.Notation
import Emptiness.Proofs.Validator.Reordering

/-!
# Options given at once or set afterwards

A validator that is built from a record chooses its rules last, and not at all if the selector is blank. Set afterwards,
the same options are written in their order, with the rules in their midst. Nothing else is written into the rules, so
they may be put off, and a blank selector stands for the rules that a new validator has. Hence both ways are accepted
for the same records and leave the same validator behind.
-/

namespace Emptiness

/-- An option stands between others, and none of these has its name. -/
theorem Options.exists_between {options : Options} (hnames : (options.map (·.1)).Nodup) {name : Text} {value : Value}
    (h : options.get? name = some value) :
    ∃ before after : Options, options = before ++ (name, value) :: after ∧ options.remove name = before ++ after ∧
      after.get? name = none := by
  obtain ⟨before, after, rfl, hbefore⟩ := List.lookup_eq_some_iff.mp h
  have hnone : get? before name = none := List.lookup_eq_none_iff.mpr hbefore
  have hafter : get? after name = none := by
    rw [List.map_append, List.map_cons, List.nodup_append, List.nodup_cons] at hnames
    refine List.lookup_eq_none_iff.mpr fun option hoption => bne_iff_ne.mpr ?_
    rintro rfl
    exact hnames.2.1.1 (List.mem_map.mpr ⟨option, hoption, rfl⟩)
  refine ⟨before, after, rfl, ?_, hafter⟩
  have hsplit : remove (before ++ (name, value) :: after) name =
      remove before name ++ remove ((name, value) :: after) name := List.filter_append _ _
  rw [hsplit, remove_of_absent hnone, remove_cons, if_pos rfl, remove_of_absent hafter]

namespace Configuration

/-- Rules that are written before another option may as well be written after it. -/
theorem write_rules_comm (config : Configuration) (mask : Nat) {write : Write} (h : write.key ≠ .selector) :
    (config.write (.rules mask)).write write = (config.write write).write (.rules mask) := by
  cases write with
  | rules => exact absurd rfl h
  | templates | obscured | foreign => rfl

/-- Rules that are written before other options may as well be written after them. -/
theorem writeAll_rules_comm (config : Configuration) (mask : Nat) {writes : List Write}
    (h : ∀ write ∈ writes, write.key ≠ .selector) :
    (config.write (.rules mask)).writeAll writes = (config.writeAll writes).write (.rules mask) := by
  induction writes generalizing config with
  | nil => rfl
  | cons write rest ih =>
    rw [List.forall_mem_cons] at h
    have hrest := ih (config.write write) h.2
    rw [← config.write_rules_comm mask h.1] at hrest
    exact hrest

end Configuration

namespace Request

/-- A request leaves a configuration behind if no fault ends it, and then its writes make it. -/
theorem outcome_eq_ok_iff {request : Request} {config result : Configuration} :
    (request.make config).outcome = .ok result ↔ request.fault? = none ∧ config.writeAll request.writes = result := by
  rw [Change.outcome, make]
  cases request.fault? with
  | none => simp
  | some fault => simp

/-- It makes no difference which of three requests, one after the other, are taken together. -/
theorem andThen_assoc (first second third : Request) :
    (first.andThen second).andThen third = first.andThen (second.andThen third) := by
  cases hfirst : first.fault? with
  | some fault => rw [andThen_of_fault hfirst, andThen_of_fault hfirst, andThen_of_fault hfirst]
  | none =>
    cases hsecond : second.fault? with
    | some fault =>
      have hboth : (first.andThen second).fault? = some fault := by rw [andThen, hfirst, hsecond]
      rw [andThen_of_fault hsecond, andThen_of_fault hboth]
    | none => simp only [andThen, hfirst, hsecond, List.append_assoc]

/-- Requests for the items of two lists are requests for those of one after those of the other. -/
theorem each_append {α : Type} (request : α → Request) (first second : List α) :
    each request (first ++ second) = (each request first).andThen (each request second) := by
  induction first with
  | nil => rfl
  | cons item rest ih => rw [List.cons_append, each, ih, each, andThen_assoc]

/-- Options that are written one after the other. -/
theorem ofEntries_append (first second : Options) :
    ofEntries (Options.toEntries (first ++ second)) =
      (ofEntries first.toEntries).andThen (ofEntries second.toEntries) := by
  have hentries : Options.toEntries (first ++ second) = first.toEntries ++ second.toEntries := List.map_append
  rw [ofEntries, hentries, each_append]
  rfl

/-- No option that is named otherwise asks for rules. -/
theorem key_ne_selector {options : Options} (haccepted : (ofEntries options.toEntries).fault? = none)
    (h : options.get? selectorKey = none) :
    ∀ write ∈ (ofEntries options.toEntries).writes, write.key ≠ .selector := by
  intro write hwrite hkey
  have hmem : write.key ∈ (ofEntries options.toEntries).writes.map Write.key := List.mem_map_of_mem hwrite
  rw [keys_of_accepted haccepted, hkey] at hmem
  obtain ⟨option, hoption, hname⟩ := List.mem_map.mp hmem
  have habsent := bne_iff_ne.mp (List.lookup_eq_none_iff.mp h option hoption)
  exact habsent (Value.text.inj (OptionKey.eq_of_ofName_selector hname)).symm

/-- What choosing the rules of a selector makes of a configuration. -/
theorem make_ofSelector (config : Configuration) (selector : Value) :
    ((ofSelector selector).make config).outcome =
      (Selector.mask selector).map fun mask => { config with mask := mask } := by
  rw [ofSelector]
  cases Selector.mask selector <;> rfl

/-- With the default rules it makes no difference whether a selector that leaves them in place is passed over. -/
theorem make_ofChosen_eq {config : Configuration} (hmask : config.mask = defaultMask) {selector : Value}
    (hselector : ¬ Selector.IsEmptySequence selector) :
    ((ofChosen selector).make config).outcome = ((ofSelector selector).make config).outcome := by
  rw [Configuration.make_ofChosen, make_ofSelector]
  cases hblank : Selector.isBlank selector with
  | false => rfl
  | true =>
    rw [Selector.mask_of_blank hblank hselector, ← hmask]
    rfl

/-- Two requests that come after another leave the same behind if they do so where that leaves off. -/
theorem outcome_andThen_congr {first second third : Request} {config result : Configuration}
    (h : (second.make (config.writeAll first.writes)).outcome = .ok result ↔
      (third.make (config.writeAll first.writes)).outcome = .ok result) :
    ((first.andThen second).make config).outcome = .ok result ↔
      ((first.andThen third).make config).outcome = .ok result := by
  cases hfault : first.fault? with
  | none =>
    rw [make_andThen hfault, make_andThen hfault]
    exact h
  | some fault => rw [andThen_of_fault hfault, andThen_of_fault hfault]

/-- Rules that are chosen before other options may as well be chosen after them: both ways are accepted or none is, and
they leave the same configuration behind. -/
theorem outcome_ofSelector_comm {after : Options} (hafter : after.get? selectorKey = none) (selector : Value)
    (config result : Configuration) :
    (((ofSelector selector).andThen (ofEntries after.toEntries)).make config).outcome = .ok result ↔
      (((ofEntries after.toEntries).andThen (ofSelector selector)).make config).outcome = .ok result := by
  rw [outcome_eq_ok_iff, outcome_eq_ok_iff, andThen_accepted_iff, andThen_accepted_iff,
    @and_comm ((ofSelector selector).fault? = none)]
  refine and_congr_right fun ⟨hoptions, hselector⟩ => ?_
  obtain ⟨mask, hmask⟩ : ∃ mask, ofSelector selector = one (.rules mask) := by
    unfold ofSelector at hselector ⊢
    split at hselector
    case h_1 mask _ => exact ⟨mask, rfl⟩
    case h_2 => cases hselector
  have hfirst : ((ofSelector selector).andThen (ofEntries after.toEntries)).writes =
      .rules mask :: (ofEntries after.toEntries).writes := by
    rw [hmask]
    rfl
  have hlast : ((ofEntries after.toEntries).andThen (ofSelector selector)).writes =
      (ofEntries after.toEntries).writes ++ [.rules mask] := by
    rw [andThen, hoptions, hmask]
    rfl
  have hcomm := config.writeAll_rules_comm mask (key_ne_selector hoptions hafter)
  rw [hfirst, hlast, Configuration.writeAll_append]
  exact Eq.congr_left hcomm

end Request

namespace Configuration

/-- A record is set, option by option, exactly if a configuration is built from it, and both are the same. -/
theorem build_eq_ok_iff {options : Options} (hnames : (options.map (·.1)).Nodup)
    (hselector : ∀ selector, options.get? selectorKey = some selector → ¬ Selector.IsEmptySequence selector)
    (config : Configuration) :
    build (.dict options.toEntries) [] = .ok config ↔
      ((Request.ofEntries options.toEntries).make initial).outcome = .ok config := by
  have hmerge : Options.merge (.dict options.toEntries) [] =
      .ok ((options.get? selectorKey).getD .null, options.remove selectorKey) :=
    Options.merge_mapping .dict hnames List.nodup_nil
  rw [build_eq_outcome, Request.ofArguments, hmerge]
  cases hfound : options.get? selectorKey with
  | none =>
    have hnone : Request.ofChosen .null = ⟨[], none⟩ := rfl
    rw [Options.remove_of_absent hfound, Option.getD_none, Request.outcome_eq_ok_iff, Request.outcome_eq_ok_iff]
    dsimp only
    rw [Request.andThen_accepted_iff, hnone, and_iff_left rfl]
    refine and_congr_right fun haccepted => ?_
    rw [Request.andThen, haccepted, List.append_nil]
  | some selector =>
    obtain ⟨before, after, rfl, hremove, hafter⟩ := Options.exists_between hnames hfound
    have hothers : Options.get? (before ++ after) selectorKey = none := hremove ▸ Options.get?_remove_self _ _
    have hinner : Request.ofEntries (Options.toEntries ((selectorKey, selector) :: after)) =
        (Request.ofSelector selector).andThen (Request.ofEntries after.toEntries) := rfl
    have hmask := setEntries_mask hothers initial
    rw [setEntries_eq_make] at hmask
    have hchosen := Request.make_ofChosen_eq hmask (hselector selector hfound)
    rw [hremove, Option.getD_some, Request.ofEntries_append before ((selectorKey, selector) :: after), hinner]
    dsimp only
    rw [Request.outcome_andThen_congr (Eq.congr_left hchosen), Request.ofEntries_append, Request.andThen_assoc]
    -- the rules come last in the one and between the others in the other; what comes before them is the same
    exact Request.outcome_andThen_congr (Request.outcome_ofSelector_comm hafter selector _ config).symm

end Configuration

namespace Validator

/-- A record whose selector, if it has one, is no empty sequence makes a validator exactly if its options can be set on
a new one afterwards, and both ways make the same validator, with a fresh record. -/
theorem ofArguments_iff_setOptions {options : Options} (hnames : (options.map (·.1)).Nodup)
    (hselector : ∀ selector, options.get? selectorKey = some selector → ¬ Selector.IsEmptySequence selector) :
    let fresh := ofConfiguration .initial
    ofArguments none [] = .ok fresh ∧
      ∀ built, ofArguments (some (.dict options.toEntries)) [] = .ok built ↔
        fresh.step (.setOptions (.dict options.toEntries)) = (built, .ok .itself) := by
  intro fresh
  refine ⟨rfl, fun built => ?_⟩
  have hmade : ofArguments (some (.dict options.toEntries)) [] =
      (Configuration.build (.dict options.toEntries) []).map ofConfiguration := rfl
  have hstep : fresh.step (.setOptions (.dict options.toEntries)) =
      fresh.afterChange ((Request.ofEntries options.toEntries).make .initial) :=
    fresh.step_eq_afterChange rfl
  rw [hmade, hstep]
  constructor
  · intro h
    obtain ⟨config, hbuild, rfl⟩ := map_eq_ok h
    obtain ⟨haccepted, hwrites⟩ :=
      Request.outcome_eq_ok_iff.mp ((Configuration.build_eq_ok_iff hnames hselector config).mp hbuild)
    rw [afterChange, Request.make, haccepted, hwrites]
    rfl
  · intro h
    obtain ⟨hbuilt, hanswer⟩ := Prod.mk.inj h
    have hsucceeds : (fresh.step (.setOptions (.dict options.toEntries))).2 = .ok .itself := by
      rw [hstep]
      exact hanswer
    have haccepted : (Request.ofEntries options.toEntries).fault? = none := (fresh.step_succeeds_iff rfl).mp hsucceeds
    have hbuild := (Configuration.build_eq_ok_iff hnames hselector _).mpr
      (Request.outcome_eq_ok_iff.mpr ⟨haccepted, rfl⟩)
    rw [hbuild, ← hbuilt]
    rfl

/-- Options of every kind, with a record for their selector in their midst: a validator is built from them, and set
afterwards they leave it behind. -/
theorem ofArguments_iff_setOptions_of_nested :
    let options : Options := [("level", .int 1), ("type", .dict [(.text "type", .tuple [.text "zero", .int 64])]),
      ("messages", .dict [(.null, .text "%value%?")]), ("valueObscured", .text "x"), ("owner", .null)]
    let fresh := ofConfiguration .initial
    let built := ofConfiguration ⟨80, [(.isEmpty, .text "%value%?"), (.invalid, .text "%value%?")], true,
      [(.text "level", .int 1), (.text "owner", .null)]⟩
    (options.map (·.1)).Nodup ∧
      (∀ selector, options.get? selectorKey = some selector → ¬ Selector.IsEmptySequence selector) ∧
      ofArguments none [] = .ok fresh ∧ ofArguments (some (.dict options.toEntries)) [] = .ok built ∧
      fresh.step (.setOptions (.dict options.toEntries)) = (built, .ok .itself) := by
  intro options fresh built
  have hnames : (options.map (·.1)).Nodup := by decide
  have hselector : ∀ selector, options.get? selectorKey = some selector → ¬ Selector.IsEmptySequence selector := by
    rintro selector hfound ⟨kind, rfl⟩
    cases hfound
  have hbuilt : ofArguments (some (.dict options.toEntries)) [] = .ok built := rfl
  obtain ⟨hfresh, hsame⟩ := ofArguments_iff_setOptions hnames hselector
  exact ⟨hnames, hselector, hfresh, hbuilt, (hsame built).mp hbuilt⟩

/-- A selector without items is the exception: given at once it leaves the default rules, and set afterwards it stands
for no rules. -/
example :
    let record : Value := .dict [(.text "type", .list [])]
    (ofArguments (some record) []).map (·.config.mask) = .ok defaultMask ∧
      ((ofConfiguration .initial).step (.setOptions record)).1.config.mask = 0 :=
  ⟨rfl, rfl⟩

end Validator

end Emptiness
