import Emptiness.Proofs.Validator.Request

/-!
# Notations of arguments

A selector can be given by position, in a record or by name, and so can every other option that is no parameter of the
constructor itself. Arguments given by name are put over those of the record, so all notations that come to the same
record make the same validator, or fail in the same way. A selector given by name counts even if it is blank, and then
the default rules stay.
-/

namespace Emptiness

namespace Options

/-- A value that is no record is split as a record that holds nothing but the selector. -/
theorem split_of_flat {selector : Value} (h : selector.entries? = .ok none) : split selector = .ok (selector, []) := by
  simp only [split, h, bind, Except.bind, pure, Except.pure]

/-- Options in a record are split into the selector and the others. -/
theorem split_mapping (kind : MappingKind) {options : Options} (h : (options.map (·.1)).Nodup) :
    split (.mapping kind options.toEntries) =
      .ok ((options.get? selectorKey).getD .null, options.remove selectorKey) := by
  have hrest : ((options.remove selectorKey).map (·.1)).Nodup := h.sublist (List.filter_sublist.map _)
  have hread : Value.entries? (.mapping kind options.toEntries) = .ok (some options.toEntries) := rfl
  simp only [split, hread, ofEntries_toEntries, find?_toEntries, putAll_nil hrest, bind, Except.bind, pure, Except.pure]

/-- A record and further options are merged as the record with the further options put over it. -/
theorem merge_mapping (kind : MappingKind) {options further : Options} (h : (options.map (·.1)).Nodup)
    (hfurther : (further.map (·.1)).Nodup) :
    merge (.mapping kind options.toEntries) further =
      .ok (((options.putAll further).get? selectorKey).getD .null, (options.putAll further).remove selectorKey) := by
  have hothers : ((options.remove selectorKey).putAll further).remove selectorKey =
      (options.putAll further).remove selectorKey := by
    rw [remove_putAll, remove_of_absent (get?_remove_self options selectorKey), remove_putAll]
  have hselector : (((options.remove selectorKey).putAll further).get? selectorKey).getD
      ((options.get? selectorKey).getD .null) = ((options.putAll further).get? selectorKey).getD .null := by
    rw [get?_putAll _ hfurther, get?_putAll _ hfurther, get?_remove_self, Option.or_none]
    cases further.get? selectorKey <;> rfl
  simp only [merge, split_mapping kind h, bind, Except.bind, pure, Except.pure, hothers, hselector]

/-- It makes no difference whether further options are merged with a record or put over it. -/
theorem merge_eq_merge_putAll (kind : MappingKind) {options further : Options} (h : (options.map (·.1)).Nodup)
    (hfurther : (further.map (·.1)).Nodup) :
    merge (.mapping kind options.toEntries) further = merge (.dict (options.putAll further).toEntries) [] := by
  have hnone : (([] : Options).map (·.1)).Nodup := List.nodup_nil
  rw [merge_mapping kind h hfurther, merge_mapping .dict (nodup_putAll h further) hnone]
  rfl

/-- A value that is no record is merged as a record that holds nothing but the selector. -/
theorem merge_of_flat {selector : Value} (h : selector.entries? = .ok none) (further : Options) :
    merge selector further = merge (.dict (toEntries [(selectorKey, selector)])) further := by
  have hrecord : split (.dict (toEntries [(selectorKey, selector)])) = .ok (selector, []) :=
    split_mapping .dict (List.pairwise_singleton _ _)
  rw [merge, split_of_flat h, merge, hrecord]

/-- Arguments given by name: each name comes once, and none is a parameter of the constructor itself. -/
structure Keywords (named : Options) : Prop where
  distinct : (named.map (·.1)).Nodup
  not_self : ("self" : Text) ∉ named.map (·.1)
  not_positional : (Validator.positionalName : Text) ∉ named.map (·.1)

/-- Such arguments repeat no other. -/
theorem Keywords.repeatedName?_eq_none {named : Options} (h : named.Keywords) (hasPositional : Bool) :
    Validator.repeatedName? hasPositional named = none := by
  refine List.findSome?_eq_none_iff.mpr fun argument hargument => List.find?_eq_none.mpr fun name hname hsame => ?_
  have hmem : (name : Text) ∈ named.map (·.1) := beq_iff_eq.mp hsame ▸ List.mem_map_of_mem hargument
  rcases List.mem_cons.mp hname with rfl | hposition
  · exact h.not_self hmem
  · cases hasPositional with
    | false => cases hposition
    | true => exact h.not_positional (List.mem_singleton.mp hposition ▸ hmem)

end Options

namespace Configuration

/-- A configuration is built of what is given only through what that is merged to. -/
theorem build_congr {given other : Value} {further more : Options}
    (h : Options.merge given further = Options.merge other more) : build given further = build other more := by
  rw [build_eq_outcome, Request.ofArguments, h, build_eq_outcome, Request.ofArguments]

/-- The rules of a configuration that is built are those of the selector that it is merged to, or the default ones if
that is blank. -/
theorem build_mask_of_merge {given selector : Value} {further others : Options} {config : Configuration}
    (hmerge : Options.merge given further = .ok (selector, others)) (hothers : others.get? selectorKey = none)
    (hbuild : build given further = .ok config) :
    if Selector.isBlank selector then config.mask = defaultMask else Selector.mask selector = .ok config.mask := by
  rw [build_eq_outcome, Request.ofArguments, hmerge] at hbuild
  dsimp only at hbuild
  cases hfault : (Request.ofEntries others.toEntries).fault? with
  | some fault =>
    rw [Request.andThen_of_fault hfault, Change.outcome, Request.make, hfault] at hbuild
    cases hbuild
  | none =>
    have hmask := setEntries_mask hothers initial
    rw [setEntries_eq_make] at hmask
    rw [Request.make_andThen hfault, make_ofChosen] at hbuild
    split
    case isTrue hblank =>
      rw [if_pos hblank] at hbuild
      cases hbuild
      exact hmask
    case isFalse hblank =>
      rw [if_neg hblank] at hbuild
      obtain ⟨mask, hselected, rfl⟩ := map_eq_ok hbuild
      exact hselected

end Configuration

namespace Validator

/-- A validator is built from a positional argument and arguments given by name. -/
theorem ofArguments_of_keywords {named : Options} (h : named.Keywords) (given : Value) :
    ofArguments (some given) named = build given named := by
  have habsent : named.get? positionalName = none := by
    refine List.lookup_eq_none_iff.mpr fun option hoption => bne_iff_ne.mpr fun hname => ?_
    exact h.not_positional (hname ▸ List.mem_map_of_mem hoption)
  rw [ofArguments, Option.isSome_some, h.repeatedName?_eq_none, Options.remove_of_absent habsent]
  rfl

/-- What is given beside arguments by name may be given as a record with these put over it: in place of a selector a
record that holds nothing else, and in place of a record the record itself. A selector among the arguments by name then
counts, and the default rules stay if it is blank. -/
theorem ofArguments_eq_record {named : Options} (h : named.Keywords) :
    (∀ selector : Value, selector.entries? = .ok none →
      ofArguments (some selector) named =
        ofArguments (some (.dict (Options.putAll [(selectorKey, selector)] named).toEntries)) []) ∧
    ∀ (kind : MappingKind) (options : Options), (options.map (·.1)).Nodup →
      ofArguments (some (.mapping kind options.toEntries)) named =
          ofArguments (some (.dict (options.putAll named).toEntries)) [] ∧
        ∀ selector validator, named.get? selectorKey = some selector →
          ofArguments (some (.mapping kind options.toEntries)) named = .ok validator →
          if Selector.isBlank selector then validator.config.mask = defaultMask
          else Selector.mask selector = .ok validator.config.mask := by
  have hrecord (kind : MappingKind) {options : Options} (hdistinct : (options.map (·.1)).Nodup) :
      ofArguments (some (.mapping kind options.toEntries)) named =
        ofArguments (some (.dict (options.putAll named).toEntries)) [] := by
    rw [ofArguments_of_keywords h, build,
      Configuration.build_congr (Options.merge_eq_merge_putAll kind hdistinct h.distinct)]
    rfl
  refine ⟨fun selector hflat => ?_, fun kind options hdistinct => ⟨hrecord kind hdistinct, ?_⟩⟩
  · rw [ofArguments_of_keywords h, build, Configuration.build_congr (Options.merge_of_flat hflat named), ← build,
      ← ofArguments_of_keywords h]
    exact hrecord .dict (List.pairwise_singleton _ _)
  · intro selector validator hselector hmade
    rw [ofArguments_of_keywords h] at hmade
    obtain ⟨config, hbuild, rfl⟩ := map_eq_ok hmade
    have hmerge := Options.merge_mapping kind hdistinct h.distinct
    rw [Options.get?_putAll options h.distinct, hselector] at hmerge
    exact Configuration.build_mask_of_merge hmerge (Options.get?_remove_self _ _) hbuild

/-- A selector without items is given by name, among other options, beside a name and beside a record: it counts in both
cases, and the record keeps its order. -/
theorem ofArguments_eq_record_of_blank :
    let named : Options := [("type", .list []), ("level", .int 3), ("messages", .dict [(.null, .text "b")])]
    let options : Options := [("level", .int 1), ("type", .text "zero"), ("valueObscured", .int 1), ("tags", .null)]
    let validator := ofConfiguration ⟨defaultMask, [(.isEmpty, .text "b"), (.invalid, .text "b")], true,
      [(.text "level", .int 3), (.text "tags", .null)]⟩
    named.Keywords ∧ (Value.text "zero").entries? = .ok none ∧ (options.map (·.1)).Nodup ∧
      ofArguments (some (.text "zero")) named =
        ofArguments (some (.dict (Options.putAll [(selectorKey, .text "zero")] named).toEntries)) [] ∧
      ofArguments (some (.mapping .proxy options.toEntries)) named = .ok validator ∧
      ofArguments (some (.dict (options.putAll named).toEntries)) [] = .ok validator ∧
      validator.config.mask = defaultMask := by
  intro named options validator
  have hnamed : named.Keywords := ⟨by decide, by decide, by decide⟩
  have hflat : (Value.text "zero").entries? = .ok none := rfl
  have hdistinct : (options.map (·.1)).Nodup := by decide
  have hmade : ofArguments (some (.mapping .proxy options.toEntries)) named = .ok validator := rfl
  obtain ⟨hselector, hrecord⟩ := ofArguments_eq_record hnamed
  obtain ⟨heq, hmask⟩ := hrecord .proxy options hdistinct
  exact ⟨hnamed, hflat, hdistinct, hselector _ hflat, hmade, heq.symm.trans hmade, hmask (.list []) validator rfl hmade⟩

/-- An argument that has the name of the one given by position is refused beside it, though it is an option like others
in a record. -/
theorem ofArguments_ne_record_of_parameter :
    let named : Options := [("options", .int 1)]
    let record : Value := .dict (Options.putAll [(selectorKey, .text "zero")] named).toEntries
    (Value.text "zero").entries? = .ok none ∧
      ofArguments (some (.text "zero")) named = .error (.misused (.repeatedArgument "options")) ∧
      ofArguments (some record) [] =
        .ok (ofConfiguration ⟨Rule.zero.bit, [], false, [(.text "options", .int 1)]⟩) ∧
      ofArguments (some (.text "zero")) named ≠ ofArguments (some record) [] := by
  intro named record
  have hrefused : ofArguments (some (.text "zero")) named = .error (.misused (.repeatedArgument "options")) := rfl
  have hmade : ofArguments (some record) [] =
      .ok (ofConfiguration ⟨Rule.zero.bit, [], false, [(.text "options", .int 1)]⟩) := rfl
  refine ⟨rfl, hrefused, hmade, fun hequal => ?_⟩
  cases hrefused.symm.trans (hequal.trans hmade)

end Validator

end Emptiness
