import LayoutBinding.Proofs.Evaluation.Bareness

/-!
# Evaluation where more is bound

With the built-in formatters an evaluation depends on the namespaces that it looks up and
on nothing else that is bound.  So what succeeds in a context gives the same in a context
that binds more: further namespaces turn failures into values, and no value into another.
-/

namespace LayoutBinding

/-- Whatever a computation gives another one gives, too. -/
def Within {ε α : Type} (first second : Except ε α) : Prop :=
  ∀ value, first = .ok value → second = .ok value

namespace Within

variable {ε α β : Type}

theorem refl (outcome : Except ε α) : Within outcome outcome :=
  fun _ given => given

theorem of_eq {first second : Except ε α} (same : first = second) : Within first second :=
  same ▸ refl first

theorem of_error (failure : ε) (second : Except ε α) : Within (.error failure) second :=
  nofun

theorem bind {first second : Except ε α} (within : Within first second)
    {next after : α → Except ε β} (each : ∀ value, Within (next value) (after value)) :
    Within (first >>= next) (second >>= after) := by
  intro result succeeds
  obtain ⟨value, given, goesOn⟩ := bind_eq_ok_iff.mp succeeds
  exact bind_eq_ok_iff.mpr ⟨value, within value given, each value result goesOn⟩

theorem map {first second : Except ε α} (within : Within first second) (f : α → β) :
    Within (f <$> first) (f <$> second) := by
  intro result succeeds
  obtain ⟨value, given, rfl⟩ := map_eq_ok_iff.mp succeeds
  exact map_eq_ok_iff.mpr ⟨value, within value given, rfl⟩

theorem mapM {f g : α → Except ε β} (each : ∀ value, Within (f value) (g value))
    (values : List α) : Within (values.mapM f) (values.mapM g) := by
  induction values with
  | nil => exact refl _
  | cons value values ih =>
      rw [List.mapM_cons, List.mapM_cons]
      exact (each value).bind fun _ => ih.bind fun _ => refl _

theorem annotate {first second : Outcome α} (within : Within first second)
    (source location : Option String) :
    Within (first.annotate source location) (second.annotate source location) :=
  fun value succeeds =>
    Outcome.annotate_eq_ok_iff.mpr (within value (Outcome.annotate_eq_ok_iff.mp succeeds))

end Within

/-- A context has the frame and the configuration of another one, and binds all that the
other one binds to the same. -/
structure Context.Extends (context smaller : Context) : Prop where
  frame : context.frame = smaller.frame
  config : context.config = smaller.config
  namespaces : ∀ name value, Entries.get? smaller.namespaces name = some value →
    Entries.get? context.namespaces name = some value

namespace Context.Extends

variable {context smaller : Context} (more : context.Extends smaller)

include more

theorem lookup (name : String) : Within (smaller.lookup name) (context.lookup name) := by
  unfold Context.lookup
  rw [more.frame]
  split
  · exact .refl _
  · cases bound : Entries.get? smaller.namespaces name with
    | none => exact .of_error _ _
    | some value =>
        rw [more.namespaces name value bound]
        exact .refl _

theorem enterLoop (item : Value) (index count : Int) :
    (context.enterLoop item index count).Extends (smaller.enterLoop item index count) where
  frame := by rw [Context.enterLoop, Context.enterLoop, more.frame]
  config := more.config
  namespaces := more.namespaces

theorem zone?_eq : context.zone? = smaller.zone? := by
  rw [Context.zone?, Context.zone?, more.config]

end Context.Extends

/-- Binding namespaces for a page that nothing else is bound to extends its context. -/
theorem Context.extends_ofPage (value : Value) (index : Option LinkIndex) (config : Config)
    {extra : List (String × Value)}
    (fresh : ∀ name ∈ Entries.keys extra,
      Entries.get? (ofPage value index config []).namespaces name = none) :
    (ofPage value index config extra).Extends (ofPage value index config []) where
  frame := rfl
  config := rfl
  namespaces name bound given := by
    have notExtra : Entries.contains extra name = false := by
      refine Bool.eq_false_iff.mpr fun among => ?_
      rw [fresh name (Entries.contains_iff.mp among)] at given
      cases given
    unfold ofPage ofNamespaces at given ⊢
    dsimp only at given ⊢
    rw [List.append_nil] at given
    rw [Entries.putAll, List.foldl_append]
    exact (Entries.get?_putAll_of_contains_eq_false notExtra _).trans given

/-- The built-in formatters, and functions that records may hold. -/
def Toolbox.withFunctions (functions : FunctionTable) : Toolbox :=
  ⟨.fresh, functions⟩

section

variable {context smaller : Context} (more : context.Extends smaller)

include more

/-! ### Formatters -/

/-- Of the context a built-in formatter uses the zone only. -/
theorem Builtin.run_extends (builtin : Builtin) (value : Value) (arguments : List Value) :
    builtin.run smaller value arguments = builtin.run context value arguments := by
  simp only [run, formatted, isoText, localized, more.zone?_eq]

theorem Formatter.apply_extends {formatter : Formatter}
    (given : FormatterTable.isBuiltin formatter) (value : Value) (arguments : List Value) :
    formatter.apply smaller value arguments = formatter.apply context value arguments := by
  cases operation : formatter.operation with
  | builtin builtin =>
      simp only [Formatter.apply, Formatter.run, operation, builtin.run_extends more]
  | custom name run => simp [FormatterTable.isBuiltin, operation] at given

/-! ### Fields and methods -/

variable (functions : FunctionTable)

theorem Value.field_extends (value : Value) (name : String) :
    value.field (.withFunctions functions) smaller name =
      value.field (.withFunctions functions) context name := by
  unfold field itemField
  split
  · rfl
  · split
    · split
      · rfl
      · split
        · split
          next formatter found =>
            exact formatter.apply_extends more (Registry.isBuiltin_of_find?_fresh found) _ _
          next => rfl
        · rfl
    · rfl

/-- A page needs the namespace of links for its own address. -/
theorem Value.within_callPage (p : Page) (name : String) (arguments : List Value) :
    Within (callPage smaller p name arguments) (callPage context p name arguments) := by
  unfold callPage
  split
  · exact .refl _
  · exact .refl _
  · exact (more.lookup "link").bind fun _ => .refl _
  · exact .refl _

theorem Value.within_call (value : Value) (name : String) (arguments : List Value) :
    Within (value.call (.withFunctions functions) smaller name arguments)
      (value.call (.withFunctions functions) context name arguments) := by
  unfold call
  split
  case h_3 p => exact within_callPage more p name arguments
  case h_12 =>
    refine .of_eq ?_
    unfold callFormatter
    split
    next formatter found =>
      exact formatter.apply_extends more (Registry.isBuiltin_of_find?_fresh found) _ _
    next => rfl
  all_goals exact .refl _

end

/-! ### Expressions -/

namespace Expression

mutual

theorem within_evaluate {context smaller : Context} (more : context.Extends smaller)
    (functions : FunctionTable) : ∀ x : Expression,
      Within (x.evaluate (.withFunctions functions) smaller)
        (x.evaluate (.withFunctions functions) context)
  | ⟨source, root, steps⟩ =>
      ((more.lookup root).bind (within_follow more functions steps)).annotate (some source) none
termination_by structural x => x

theorem within_follow {context smaller : Context} (more : context.Extends smaller)
    (functions : FunctionTable) : ∀ (steps : List Step) (value : Value),
      Within (follow (.withFunctions functions) smaller steps value)
        (follow (.withFunctions functions) context steps value)
  | [], _ => .refl _
  | .field name :: steps, value =>
      (Within.of_eq (value.field_extends more functions name)).bind
        (within_follow more functions steps)
  | .call name arguments :: steps, value =>
      ((within_evaluateAll more functions arguments).bind
        (value.within_call more functions name)).bind (within_follow more functions steps)
termination_by structural steps => steps

theorem within_evaluateAll {context smaller : Context} (more : context.Extends smaller)
    (functions : FunctionTable) : ∀ arguments : List Argument,
      Within (evaluateAll (.withFunctions functions) smaller arguments)
        (evaluateAll (.withFunctions functions) context arguments)
  | [] => .refl _
  | .literal content :: arguments =>
      (within_evaluateAll more functions arguments).map (content.value :: ·)
  | .nested x :: arguments =>
      (within_evaluate more functions x).bind fun value =>
        (within_evaluateAll more functions arguments).map (value :: ·)
termination_by structural arguments => arguments

end

end Expression

end LayoutBinding
