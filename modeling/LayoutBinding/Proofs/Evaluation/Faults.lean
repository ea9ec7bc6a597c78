import LayoutBinding.Proofs.Evaluation.Blame
import LayoutBinding.Proofs.Evaluation.SafeValues

/-!
# Faults of evaluations

In a safe context, with the built-in formatters, the evaluation of an expression that has
been read gives a safe value, fails with an error, or stops with an allowed fault.
-/

namespace LayoutBinding

open Outcome

variable {stops : Fault → Prop}

/-! ### Fields -/

namespace Value

section

variable {zone : Option Zone}

theorem safe_of_get? {entries : List (String × Value)}
    (fine : ∀ entry ∈ entries, entry.2.Safe zone stops) {name : String} {value : Value}
    (bound : Entries.get? entries name = some value) : value.Safe zone stops :=
  fine (name, value) (Entries.mem_of_get? bound)

theorem safe_of_pageField {p : Page} (safe : (page p).Safe zone stops) {name : String}
    {value : Value} (given : p.field? name = some value) : value.Safe zone stops := by
  obtain ⟨-, title, date, author, tags, layout, params, -⟩ := all_page_iff.mp safe
  unfold Page.field? at given
  split at given
  case h_8 => exact safe_of_get? (all_mapping_iff.mp params).2 given
  all_goals cases given
  all_goals first | assumption | exact safe_text _

theorem safe_of_loopField {turn : LoopFrame} (safe : (loop turn).Safe zone stops)
    {name : String} {value : Value} (given : turn.field? name = some value) :
    value.Safe zone stops := by
  obtain ⟨self, item, parent⟩ := all_loop_iff.mp safe
  unfold LoopFrame.field? at given
  split at given
  · cases given
    exact item
  · cases given
    exact safe_whole self.short
  · cases given
    exact safe_truth _
  · cases given
    exact safe_truth _
  · obtain ⟨around, member, rfl⟩ := Option.map_eq_some_iff.mp given
    exact parent around member
  · cases given

theorem safe_of_dateField {d : Date} {name : String} {value : Value}
    (given : d.field? name = some value) : value.Safe zone stops := by
  obtain ⟨⟨-, year⟩, ⟨-, month⟩, -, day⟩ := d.valid
  have days : daysInMonth d.year d.month ≤ 31 := by
    unfold daysInMonth
    split
    · split <;> omega
    · split <;> omega
  unfold Date.field? at given
  split at given
  all_goals cases given
  all_goals exact safe_whole_of_lt (by omega)

theorem safe_of_momentField {m : Moment} {name : String} {value : Value}
    (given : m.field? name = some value) : value.Safe zone stops := by
  obtain ⟨hour, minute, second, -⟩ := m.time.valid
  unfold Moment.field? at given
  split at given
  case h_4 => exact safe_of_dateField given
  all_goals cases given
  all_goals exact safe_whole_of_lt (by omega)

theorem safe_of_ownField {value found : Value} (safe : value.Safe zone stops) {name : String}
    (given : value.ownField? name = some found) : found.Safe zone stops := by
  cases value with
  | mapping readOnly entries => exact safe_of_get? (all_mapping_iff.mp safe).2 given
  | record entries => exact safe_of_get? (all_record_iff.mp safe).2 given
  | page p => exact safe_of_pageField safe given
  | loop turn => exact safe_of_loopField safe given
  | date d => exact safe_of_dateField given
  | moment m => exact safe_of_momentField given
  | hint hintName content =>
      simp only [ownField?] at given
      split at given
      · cases given
        exact safe_text _
      · cases given
        exact (all_hint_iff.mp safe).2
      · cases given
  | anchor id =>
      simp only [ownField?] at given
      split at given
      · cases given
        exact (all_anchor_iff.mp safe).2
      · cases given
  | _ => cases given

end

variable {context : Context} (functions : FunctionTable)

theorem yields_field {value : Value} (safe : value.Safe context.zone? stops) (name : String) :
    (value.field (.withFunctions functions) context name).Yields stops
      (Safe context.zone? stops) := by
  unfold field
  split
  next found given => exact safe_of_ownField safe given
  next =>
    split
    next items isItems =>
      unfold itemField
      split
      · cases value with
        | list items =>
            cases isItems
            exact safe_whole safe.self.short
        | tuple items =>
            cases isItems
            exact safe_whole safe.self.short
        | _ => cases isItems
      · split
        · split
          next formatter found => exact Formatter.yields_apply safe found nofun
          next => exact yields_refuse rfl
        · exact yields_refuse rfl
    next => exact yields_refuse rfl

end Value

/-! ### Links -/

namespace LinkIndex

variable (index : LinkIndex)

theorem yields_pageUrl (id : Text) : (index.pageUrl id).Yields stops fun _ => True := by
  unfold pageUrl
  split
  · trivial
  · exact yields_refuse rfl

/-- A text can be looked up among anchors, and is written as it is. -/
theorem yields_anchorUrl (id anchor : Text) :
    (index.anchorUrl id (.text anchor)).Yields stops fun _ => True := by
  unfold anchorUrl
  refine (index.yields_pageUrl _).bind fun url _ => ?_
  rw [if_pos (by rfl)]
  split
  · trivial
  · exact yields_refuse rfl

theorem yields_ownAnchorUrl (current : Option String) (anchor : Text) :
    (index.ownAnchorUrl current (.text anchor)).Yields stops fun _ => True := by
  unfold ownAnchorUrl
  split
  · exact index.yields_anchorUrl _ anchor
  · exact yields_refuse rfl

theorem yields_referenceUrl (current : Option String) (reference : Text) :
    (index.referenceUrl current reference).Yields stops fun _ => True := by
  unfold referenceUrl
  split
  · exact index.yields_ownAnchorUrl current reference
  · split
    · exact index.yields_ownAnchorUrl current _
    · exact index.yields_anchorUrl _ _

end LinkIndex

theorem Context.IsSafe.yields_pageLink {context : Context} (safe : context.IsSafe stops)
    (path : String) :
    (Value.pageLink context path).Yields stops (Value.Safe context.zone? stops) := by
  unfold Value.pageLink Context.lookup
  rw [if_neg (by decide)]
  cases bound : Entries.get? context.namespaces "link" with
  | none => exact yields_refuse rfl
  | some value =>
      obtain ⟨index, current, rfl⟩ := safe.links value bound
      exact (index.yields_pageUrl _).bind fun url _ => Value.safe_text _

/-! ### Methods -/

namespace Value

variable {context : Context} (functions : FunctionTable)

section

variable {zone : Option Zone}

theorem yields_callEntry {entries : List (String × Value)}
    (fine : ∀ entry ∈ entries, entry.2.Safe zone stops) (tools : Toolbox) (name : String)
    (arguments : List Value) :
    (callEntry tools entries name arguments).Yields stops (Safe zone stops) := by
  unfold callEntry
  split
  · exact yields_refuse rfl
  next callee given =>
    have inert := (safe_of_get? fine given).self.inert
    cases inert
  next value _ given =>
    split
    · exact safe_of_get? fine given
    · exact yields_refuse rfl

theorem yields_callLinks (index : LinkIndex) (current : Option Page) (name : String)
    (arguments : List Value) :
    (callLinks index current name arguments).Yields stops (Safe zone stops) := by
  unfold callLinks
  split
  · split
    · split
      next reference =>
        dsimp only
        split
        · exact (index.yields_pageUrl reference).bind fun url _ => safe_text _
        · exact (index.yields_referenceUrl _ reference).bind fun url _ => safe_text _
      next => exact yields_refuse rfl
    · exact yields_refuse rfl
  · exact yields_refuse rfl

theorem yields_soleArgument {owner name : String} {expected : ValueType} {arguments : List Value}
    (fine : ∀ argument ∈ arguments, argument.Safe zone stops) :
    (soleArgument owner name expected arguments).Yields stops fun value =>
      Formatter.accepts expected value = true ∧ value.Safe zone stops := by
  unfold soleArgument
  split
  next value =>
    split
    next accepted => exact ⟨accepted, fine value List.mem_cons_self⟩
    next => exact yields_refuse rfl
  next => exact yields_refuse rfl

theorem yields_callBlocks (hints : List (String × ValueType)) (name : String)
    {arguments : List Value} (fine : ∀ argument ∈ arguments, argument.Safe zone stops) :
    (callBlocks hints name arguments).Yields stops (Safe zone stops) := by
  unfold callBlocks
  split
  · exact yields_refuse rfl
  · exact (yields_soleArgument fine).bind fun value accepted =>
      all_hint_iff.mpr ⟨⟨rfl, nofun, nofun⟩, accepted.2⟩

/-- An anchor is declared with a text for its name. -/
theorem yields_callSections (name : String) {arguments : List Value}
    (fine : ∀ argument ∈ arguments, argument.Safe zone stops) :
    (callSections name arguments).Yields stops (Safe zone stops) := by
  unfold callSections
  split
  · refine (yields_soleArgument fine).bind fun value accepted => ?_
    split
    · split
      · exact yields_refuse rfl
      · exact all_anchor_iff.mpr ⟨⟨rfl, nofun, nofun⟩, accepted.2⟩
    · exact yields_refuse rfl
  · exact yields_refuse rfl

end

theorem yields_callPage (safe : context.IsSafe stops) {p : Page}
    (fine : (page p).Safe context.zone? stops) (name : String) (arguments : List Value) :
    (callPage context p name arguments).Yields stops (Safe context.zone? stops) := by
  unfold callPage
  split
  · exact safe_text _
  · obtain ⟨-, -, -, -, -, -, -, children⟩ := all_page_iff.mp fine
    exact children
  · exact safe.yields_pageLink p.path
  · exact yields_refuse rfl

theorem yields_call (safe : context.IsSafe stops) {value : Value}
    (fine : value.Safe context.zone? stops) (name : String) {arguments : List Value}
    (each : ∀ argument ∈ arguments, argument.Safe context.zone? stops) :
    (value.call (.withFunctions functions) context name arguments).Yields stops
      (Safe context.zone? stops) := by
  unfold call
  split
  · exact yields_callEntry (all_mapping_iff.mp fine).2 _ name arguments
  · exact yields_callEntry (all_record_iff.mp fine).2 _ name arguments
  · exact yields_callPage safe fine name arguments
  · exact yields_callLinks _ _ name arguments
  · exact yields_callBlocks _ name each
  · exact yields_callSections name each
  case h_12 =>
    unfold callFormatter
    split
    next formatter found => exact Formatter.yields_apply fine found each
    next => exact yields_refuse rfl
  all_goals exact yields_refuse rfl

end Value

/-! ### Expressions -/

namespace Expression

open Grammar

/-- An expression is one that was read from a text. -/
def IsRead (x : Expression) : Prop :=
  ∃ declared word next, ChainAt declared word next x

theorem IsRead.argument {inner outer : Expression} (read : outer.IsRead)
    (argument : inner.IsArgumentOf outer) : inner.IsRead := by
  obtain ⟨declared, word, next, derived⟩ := read
  obtain ⟨inside, after, -, derived⟩ := chainAt_of_isArgumentOf derived argument
  exact ⟨declared, inside, after, derived⟩

theorem IsRead.safe_literal {x : Expression} (read : x.IsRead) {name : String}
    {arguments : List Argument} (called : .call name arguments ∈ x.steps) {content : Literal}
    (member : .literal content ∈ arguments) (zone : Option Zone) :
    content.value.Safe zone stops := by
  obtain ⟨declared, word, next, derived⟩ := read
  cases derived with
  | intro named known derived =>
      obtain ⟨between, _, -, argumentsDerived⟩ := argumentsAt_of_mem derived called
      cases argumentsDerived with
      | none blank => simp at member
      | some _ _ listDerived =>
          obtain ⟨inside, after, -, derived⟩ := argumentAt_of_mem listDerived member
          cases derived with
          | string quoted => exact Value.safe_text _
          | truth named isTrue => exact Value.safe_truth _
          | falsehood named isFalse => exact Value.safe_truth _
          | number written =>
              obtain ⟨-, -, -, valued⟩ := written
              cases valued with
              | double point reads => exact Value.safe_double _
              | whole noPoint reads =>
                  refine Value.safe_whole fun long => ?_
                  rw [← Option.not_isSome, Numeral.isSome_limited?_of_read? reads] at long
                  cases long

variable {context : Context} (functions : FunctionTable)

theorem yields_evaluateAll {arguments : List Argument}
    (literals : ∀ content, .literal content ∈ arguments → content.value.Safe context.zone? stops)
    (nested : ∀ x, .nested x ∈ arguments →
      (x.evaluate (.withFunctions functions) context).Yields stops
        (Value.Safe context.zone? stops)) :
    (evaluateAll (.withFunctions functions) context arguments).Yields stops fun values =>
      ∀ value ∈ values, value.Safe context.zone? stops := by
  induction arguments with
  | nil => exact fun _ => nofun
  | cons argument arguments ih =>
      have others := ih (fun content member => literals content (List.mem_cons_of_mem _ member))
        fun x member => nested x (List.mem_cons_of_mem _ member)
      cases argument with
      | literal content =>
          exact others.map fun values fine =>
            List.forall_mem_cons.mpr ⟨literals content List.mem_cons_self, fine⟩
      | nested x =>
          exact (nested x List.mem_cons_self).bind fun value first =>
            others.map fun values fine => List.forall_mem_cons.mpr ⟨first, fine⟩

theorem yields_follow (safe : context.IsSafe stops) {steps : List Step}
    (each : ∀ name arguments, .call name arguments ∈ steps →
      (evaluateAll (.withFunctions functions) context arguments).Yields stops fun values =>
        ∀ value ∈ values, value.Safe context.zone? stops)
    {value : Value} (fine : value.Safe context.zone? stops) :
    (follow (.withFunctions functions) context steps value).Yields stops
      (Value.Safe context.zone? stops) := by
  induction steps generalizing value with
  | nil => exact fine
  | cons step steps ih =>
      have others (next : Value) (fine : next.Safe context.zone? stops) :=
        ih (fun name arguments member => each name arguments (List.mem_cons_of_mem _ member)) fine
      cases step with
      | field name => exact (Value.yields_field functions fine name).bind others
      | call name arguments =>
          exact ((each name arguments List.mem_cons_self).bind fun values given =>
            Value.yields_call functions safe fine name given).bind others

/-- An expression that was read gives a safe value in a safe context. -/
theorem yields_evaluate (safe : context.IsSafe stops) {x : Expression} (read : x.IsRead) :
    (x.evaluate (.withFunctions functions) context).Yields stops
      (Value.Safe context.zone? stops) := by
  induction x using induction_on_arguments with
  | step x ih =>
      obtain ⟨source, root, steps⟩ := x
      refine ((safe.yields_lookup root).bind fun start fine => ?_).annotate _ _
      refine yields_follow functions safe (fun name arguments called => ?_) fine
      exact yields_evaluateAll functions
        (fun content member => read.safe_literal called member context.zone?)
        fun y member =>
          have inside : y.IsArgumentOf ⟨source, root, steps⟩ := ⟨name, arguments, called, member⟩
          ih y inside (read.argument inside)

end Expression

end LayoutBinding
