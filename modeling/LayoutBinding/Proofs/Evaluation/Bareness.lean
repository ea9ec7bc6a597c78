import LayoutBinding.Evaluation.Chain
import LayoutBinding.Value.Text

/-!
# Errors without annotations

Fields, methods and formatters know neither the expression that is evaluated nor the
place in the template, so that their errors name none.  Functions and formatters from
elsewhere have to be asked for the same.
-/

namespace LayoutBinding

namespace Outcome

variable {α β : Type}

/-- A computation whose error has no annotation. -/
def IsBare (outcome : Outcome α) : Prop :=
  ∀ e, outcome = .error (.error e) → outcome = refuse e.cause

@[simp]
theorem isBare_ok (value : α) : IsBare (.ok value) :=
  nofun

@[simp]
theorem isBare_pure (value : α) : IsBare (pure value : Outcome α) :=
  nofun

@[simp]
theorem isBare_refuse (cause : Cause) : (refuse cause : Outcome α).IsBare := by
  intro e same
  cases same
  rfl

@[simp]
theorem isBare_stop (fault : Fault) : (stop fault : Outcome α).IsBare :=
  nofun

namespace IsBare

theorem error_eq {outcome : Outcome α} (bare : outcome.IsBare) {e : Error}
    (fails : outcome = .error (.error e)) : e = .of e.cause :=
  Failure.error.inj (Except.error.inj (fails.symm.trans (bare e fails)))

theorem bind {outcome : Outcome α} {next : α → Outcome β} (first : outcome.IsBare)
    (second : ∀ value, (next value).IsBare) : IsBare (outcome >>= next) := by
  cases outcome with
  | ok value => exact second value
  | error failure =>
      intro e same
      cases same
      have bare := Except.error.inj (first e rfl)
      exact congrArg Except.error bare

theorem map {outcome : Outcome α} (bare : outcome.IsBare) (f : α → β) :
    IsBare (f <$> outcome) := by
  cases outcome with
  | ok value => nofun
  | error failure =>
      intro e same
      cases same
      exact congrArg Except.error (Except.error.inj (bare e rfl))

theorem mapM {f : α → Outcome β} (bare : ∀ value, (f value).IsBare) (values : List α) :
    IsBare (values.mapM f) := by
  induction values with
  | nil => nofun
  | cons value values ih =>
      rw [List.mapM_cons]
      exact (bare value).bind fun _ => ih.bind fun _ => isBare_pure _

end IsBare

end Outcome

open Outcome

/-- The tools from elsewhere annotate no errors. -/
structure Toolbox.IsBare (tools : Toolbox) : Prop where
  functions : ∀ callee arguments, (tools.functions callee arguments).IsBare
  formatters : ∀ value name formatter label run,
    tools.formatters.find? value name = some formatter →
      formatter.operation = .custom label run →
        ∀ context value arguments, (run context value arguments).IsBare

theorem Context.isBare_lookup (context : Context) (name : String) :
    (context.lookup name).IsBare := by
  unfold lookup
  split
  · split <;> simp
  · split <;> simp

/-! ### Texts -/

namespace Value

theorem isBare_written (value : Value) : value.written.IsBare := by
  unfold written
  split
  case h_5 p =>
    unfold Page.text
    split <;> simp
  case h_6 n => split <;> simp
  all_goals simp

theorem isBare_anchorName (value : Value) : value.anchorName.IsBare := by
  induction value using anchorName.induct with
  | case3 id ih =>
      rw [anchorName]
      exact ih.map anchorElement
  | case5 other =>
      rw [anchorName]
      · exact (isBare_written other).bind fun _ => isBare_pure _
      all_goals assumption
  | _ => simp [anchorName]

theorem isBare_toText (value : Value) : value.toText.IsBare := by
  unfold toText
  split
  case h_4 id => exact (isBare_anchorName id).bind fun _ => isBare_pure _
  case h_7 n => split <;> simp
  all_goals simp

theorem isBare_toItems (value : Value) : value.toItems.IsBare := by
  unfold toItems
  split <;> simp

end Value

/-! ### Links -/

namespace LinkIndex

theorem isBare_pageUrl (index : LinkIndex) (id : Text) : (index.pageUrl id).IsBare := by
  unfold pageUrl
  split <;> simp

theorem isBare_anchorUrl (index : LinkIndex) (id : Text) (anchor : Value) :
    (index.anchorUrl id anchor).IsBare := by
  refine (index.isBare_pageUrl _).bind fun url => ?_
  split
  · split
    · exact (Value.isBare_written anchor).bind fun _ => isBare_pure _
    · simp
  · simp

theorem isBare_referenceUrl (index : LinkIndex) (current : Option String) (reference : Text) :
    (index.referenceUrl current reference).IsBare := by
  have own (anchor : Value) : (index.ownAnchorUrl current anchor).IsBare := by
    unfold ownAnchorUrl
    split
    · exact index.isBare_anchorUrl _ _
    · simp
  unfold referenceUrl
  split
  · exact own _
  · split
    · exact own _
    · exact index.isBare_anchorUrl _ _

end LinkIndex

/-! ### Formatters -/

theorem Builtin.isBare_run (builtin : Builtin) (context : Context) (value : Value)
    (arguments : List Value) : (builtin.run context value arguments).IsBare := by
  have localized (m : Moment) : (localized context m).IsBare := by
    unfold Builtin.localized
    split
    · split <;> simp
    · simp
  have items {f : List Value → Outcome Value} (bare : ∀ items, (f items).IsBare) :
      (onItems f value).IsBare := by
    unfold onItems
    split
    · exact bare _
    · simp
  have itemOf (method : String) (item : Option Value) : (itemOf method item).IsBare := by
    unfold Builtin.itemOf
    split <;> simp
  have limited (n : Int) (items : List Value) : (limited n items).IsBare := by
    unfold Builtin.limited
    split
    · split <;> simp
    · simp
  unfold run
  split
  case h_1 layout =>
    unfold formatted
    split
    · exact (localized _).bind fun _ => isBare_pure _
    all_goals simp
  case h_2 =>
    unfold isoText
    split
    · exact (localized _).bind fun _ => isBare_pure _
    all_goals simp
  case h_3 | h_4 | h_5 => unfold onText; split <;> simp
  case h_6 | h_9 => exact items fun _ => isBare_ok _
  case h_7 | h_8 => exact items fun _ => itemOf _ _
  case h_10 n => exact items (limited n)
  case h_11 => exact items fun items =>
    (IsBare.mapM Value.isBare_toText items).bind fun _ => isBare_pure _
  all_goals simp

theorem Formatter.isBare_check (formatter : Formatter) (arguments : List Value) :
    (formatter.check arguments).IsBare := by
  unfold check
  split
  · simp
  · split <;> simp

/-! ### Fields and methods -/

namespace Value

theorem isBare_callPage (context : Context) (p : Page) (name : String)
    (arguments : List Value) : (callPage context p name arguments).IsBare := by
  unfold callPage
  split
  · simp
  · simp
  · refine (context.isBare_lookup _).bind fun linkNamespace => ?_
    split
    · exact (LinkIndex.isBare_pageUrl _ _).bind fun _ => isBare_pure _
    · simp
  · simp

theorem isBare_callLinks (index : LinkIndex) (current : Option Page) (name : String)
    (arguments : List Value) : (callLinks index current name arguments).IsBare := by
  unfold callLinks
  split
  · split
    · split
      · split
        · exact (index.isBare_pageUrl _).bind fun _ => isBare_pure _
        · exact (index.isBare_referenceUrl _ _).bind fun _ => isBare_pure _
      · simp
    · simp
  · simp

theorem isBare_soleArgument (owner name : String) (expected : ValueType)
    (arguments : List Value) : (soleArgument owner name expected arguments).IsBare := by
  unfold soleArgument
  split
  · split <;> simp
  · simp

theorem isBare_callBlocks (hints : List (String × ValueType)) (name : String)
    (arguments : List Value) : (callBlocks hints name arguments).IsBare := by
  unfold callBlocks
  split
  · simp
  · exact (isBare_soleArgument _ name _ arguments).bind fun _ => isBare_pure _

theorem isBare_callSections (name : String) (arguments : List Value) :
    (callSections name arguments).IsBare := by
  unfold callSections
  split
  · refine (isBare_soleArgument _ name _ arguments).bind fun value => ?_
    split
    · split <;> simp
    · simp
  · simp

end Value

namespace Toolbox.IsBare

variable {tools : Toolbox} (bare : tools.IsBare) (context : Context) (value : Value)
  (name : String)

include bare

theorem formatter {formatter : Formatter}
    (found : tools.formatters.find? value name = some formatter) (arguments : List Value) :
    (formatter.apply context value arguments).IsBare := by
  refine (formatter.isBare_check arguments).bind fun _ => ?_
  unfold Formatter.run
  split
  next builtin _ => exact builtin.isBare_run context value arguments
  next label run custom => exact bare.formatters _ _ _ _ _ found custom context value arguments

theorem field : (value.field tools context name).IsBare := by
  unfold Value.field
  split
  · simp
  · split
    · unfold Value.itemField
      split
      · simp
      · split
        · split
          next found => exact bare.formatter context value name found []
          next => simp
        · simp
    · simp

theorem callEntry (entries : List (String × Value)) (arguments : List Value) :
    (Value.callEntry tools entries name arguments).IsBare := by
  unfold Value.callEntry
  split
  · simp
  · refine (bare.functions _ _).bind fun answer => ?_
    split <;> simp
  · split <;> simp

theorem call (arguments : List Value) : (value.call tools context name arguments).IsBare := by
  unfold Value.call
  split
  case h_1 | h_2 => exact bare.callEntry name _ _
  case h_3 => exact Value.isBare_callPage context _ name arguments
  case h_4 => exact Value.isBare_callLinks _ _ name arguments
  case h_5 => exact Value.isBare_callBlocks _ name arguments
  case h_6 => exact Value.isBare_callSections name arguments
  case h_12 =>
    unfold Value.callFormatter
    split
    next found => exact bare.formatter context _ name found arguments
    next => simp
  all_goals simp

end Toolbox.IsBare

namespace FormatterTable

def isBuiltin (formatter : Formatter) : Bool :=
  match formatter.operation with
  | .builtin _ => true
  | .custom .. => false

theorem mem_of_find? {table : FormatterTable} {value : Value} {name : String}
    {formatter : Formatter} (found : table.find? value name = some formatter) :
    ∃ key, (key, formatter) ∈ table := by
  unfold find? at found
  split at found
  next other foundFirst =>
    cases found
    obtain ⟨type, -, found⟩ := List.exists_of_findSome?_eq_some foundFirst
    exact ⟨_, Entries.mem_of_get? found⟩
  next =>
    split at found
    · exact ⟨_, Entries.mem_of_get? found⟩
    · cases found

end FormatterTable

theorem Registry.isBuiltin_of_find?_fresh {value : Value} {name : String} {formatter : Formatter}
    (found : fresh.find? value name = some formatter) : FormatterTable.isBuiltin formatter := by
  have allBuiltin : ∀ entry ∈ FormatterTable.builtins,
      FormatterTable.isBuiltin entry.2 := by decide
  obtain ⟨key, member⟩ := FormatterTable.mem_of_find? found
  exact allBuiltin _ member

/-- The built-in tools annotate no errors. -/
theorem Toolbox.isBare_builtin : builtin.IsBare where
  functions _ _ := isBare_ok none
  formatters value name formatter label run found custom := by
    have isBuiltin := Registry.isBuiltin_of_find?_fresh found
    simp [FormatterTable.isBuiltin, custom] at isBuiltin

end LayoutBinding
