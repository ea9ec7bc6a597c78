import LayoutBinding.Proofs.Evaluation.Bareness
import LayoutBinding.Proofs.Expression.Front

/-!
# Whom an error blames

An expression fails by itself, when its namespace, a field or a method gives an error, or
one of its arguments fails.  The error of an evaluation blames the expression that fails
by itself, however deep it stands among arguments.
-/

namespace LayoutBinding

open Outcome

namespace Expression

mutual

/-- What holds of an expression if it holds of its arguments holds of every expression. -/
theorem induction_on_arguments {P : Expression → Prop}
    (step : ∀ x, (∀ y, IsArgumentOf y x → P y) → P x) : ∀ x, P x
  | ⟨source, root, steps⟩ => step ⟨source, root, steps⟩ fun y inside => by
      obtain ⟨name, arguments, called, member⟩ := inside
      exact induction_on_steps step steps name arguments called y member
termination_by structural x => x

theorem induction_on_steps {P : Expression → Prop}
    (step : ∀ x, (∀ y, IsArgumentOf y x → P y) → P x) :
    ∀ (steps : List Step) (name : String) (arguments : List Argument),
      .call name arguments ∈ steps → ∀ y, .nested y ∈ arguments → P y
  | .field _ :: others, name, arguments, called => by
      rcases List.mem_cons.mp called with same | called
      · cases same
      · exact induction_on_steps step others name arguments called
  | .call _ first :: others, name, arguments, called => by
      rcases List.mem_cons.mp called with same | called
      · cases same
        exact induction_on_list step first
      · exact induction_on_steps step others name arguments called
termination_by structural steps => steps

theorem induction_on_list {P : Expression → Prop}
    (step : ∀ x, (∀ y, IsArgumentOf y x → P y) → P x) :
    ∀ (arguments : List Argument) (y : Expression), .nested y ∈ arguments → P y
  | .literal _ :: others, y, member => by
      rcases List.mem_cons.mp member with same | member
      · cases same
      · exact induction_on_list step others y member
  | .nested x :: others, y, member => by
      rcases List.mem_cons.mp member with same | member
      · cases same
        exact induction_on_arguments step x
      · exact induction_on_list step others y member
termination_by structural arguments => arguments

end

variable (tools : Toolbox) (context : Context)

/-! ### Steps and arguments in order -/

def takeStep (step : Step) (value : Value) : Outcome Value :=
  match step with
  | .field name => value.field tools context name
  | .call name arguments =>
      evaluateAll tools context arguments >>= value.call tools context name

theorem takeStep_call {arguments : List Argument} {values : List Value}
    (evaluated : evaluateAll tools context arguments = .ok values) (name : String)
    (value : Value) :
    takeStep tools context (.call name arguments) value = value.call tools context name values := by
  rw [takeStep, evaluated]
  rfl

theorem follow_cons (step : Step) (steps : List Step) (value : Value) :
    follow tools context (step :: steps) value =
      takeStep tools context step value >>= follow tools context steps := by
  cases step <;> rfl

theorem follow_append (first second : List Step) (value : Value) :
    follow tools context (first ++ second) value =
      follow tools context first value >>= follow tools context second := by
  induction first generalizing value with
  | nil => rfl
  | cons step first ih =>
      rw [List.cons_append, follow_cons, follow_cons]
      cases takeStep tools context step value with
      | error failure => rfl
      | ok next => exact ih next

theorem exists_of_follow_eq_error {steps : List Step} {value : Value} {failure : Failure}
    (fails : follow tools context steps value = .error failure) :
    ∃ before step after reached, steps = before ++ step :: after ∧
      follow tools context before value = .ok reached ∧
      takeStep tools context step reached = .error failure := by
  induction steps generalizing value with
  | nil => cases fails
  | cons step steps ih =>
      rw [follow_cons] at fails
      cases taken : takeStep tools context step value with
      | error other =>
          rw [taken] at fails
          cases fails
          exact ⟨[], step, steps, value, rfl, rfl, taken⟩
      | ok next =>
          rw [taken] at fails
          obtain ⟨before, failing, after, reached, rfl, passes, fails⟩ := ih fails
          refine ⟨step :: before, failing, after, reached, rfl, ?_, fails⟩
          rw [follow_cons, taken]
          exact passes

theorem evaluateAll_append_nested (earlier : List Argument) (x : Expression)
    (later : List Argument) {values : List Value}
    (evaluated : evaluateAll tools context earlier = .ok values) {failure : Failure}
    (fails : x.evaluate tools context = .error failure) :
    evaluateAll tools context (earlier ++ .nested x :: later) = .error failure := by
  induction earlier generalizing values with
  | nil =>
      rw [List.nil_append, evaluateAll, fails]
      rfl
  | cons first earlier ih =>
      cases first with
      | literal content =>
          obtain ⟨others, evaluated, _⟩ := map_eq_ok_iff.mp evaluated
          rw [List.cons_append, evaluateAll, ih evaluated]
          rfl
      | nested y =>
          obtain ⟨value, first, evaluated⟩ := bind_eq_ok_iff.mp evaluated
          obtain ⟨others, evaluated, _⟩ := map_eq_ok_iff.mp evaluated
          rw [List.cons_append, evaluateAll, first, ih evaluated]
          rfl

theorem exists_of_evaluateAll_eq_error {arguments : List Argument} {failure : Failure}
    (fails : evaluateAll tools context arguments = .error failure) :
    ∃ earlier x later values, arguments = earlier ++ .nested x :: later ∧
      evaluateAll tools context earlier = .ok values ∧
      x.evaluate tools context = .error failure := by
  induction arguments with
  | nil => cases fails
  | cons first arguments ih =>
      cases first with
      | literal content =>
          have fails := map_eq_error_iff.mp fails
          obtain ⟨earlier, x, later, values, rfl, evaluated, fails⟩ := ih fails
          refine ⟨.literal content :: earlier, x, later, content.value :: values, rfl, ?_, fails⟩
          rw [evaluateAll, evaluated]
          rfl
      | nested y =>
          cases first : y.evaluate tools context with
          | error other =>
              rw [evaluateAll, first] at fails
              cases fails
              exact ⟨[], y, arguments, [], rfl, rfl, first⟩
          | ok value =>
              rw [evaluateAll, first] at fails
              have fails := map_eq_error_iff.mp fails
              obtain ⟨earlier, x, later, values, rfl, evaluated, fails⟩ := ih fails
              refine ⟨.nested y :: earlier, x, later, value :: values, rfl, ?_, fails⟩
              rw [evaluateAll, first, evaluated]
              rfl

/-! ### Blame -/

/-- An expression `x` fails because the expression with the source text `source`, which is
`x` or stands among its arguments, gives an error by itself. -/
inductive Blames : Expression → String → Cause → Prop
  | root {source root : String} {steps : List Step} {cause : Cause}
      (refused : context.lookup root = refuse cause) :
      Blames ⟨source, root, steps⟩ source cause
  /-- The value that is reached refuses a field. -/
  | field {source root name : String} {before after : List Step} {value : Value} {cause : Cause}
      (reached : context.lookup root >>= follow tools context before = .ok value)
      (refused : value.field tools context name = refuse cause) :
      Blames ⟨source, root, before ++ .field name :: after⟩ source cause
  /-- The value that is reached refuses a call with the values of the arguments. -/
  | call {source root name : String} {before after : List Step} {arguments : List Argument}
      {value : Value} {values : List Value} {cause : Cause}
      (reached : context.lookup root >>= follow tools context before = .ok value)
      (evaluated : evaluateAll tools context arguments = .ok values)
      (refused : value.call tools context name values = refuse cause) :
      Blames ⟨source, root, before ++ .call name arguments :: after⟩ source cause
  /-- An argument fails, after those before it have got their values. -/
  | argument {source root name inner : String} {before after : List Step}
      {earlier later : List Argument} {x : Expression} {value : Value} {values : List Value}
      {cause : Cause}
      (reached : context.lookup root >>= follow tools context before = .ok value)
      (evaluated : evaluateAll tools context earlier = .ok values)
      (fails : Blames x inner cause) :
      Blames ⟨source, root, before ++ .call name (earlier ++ .nested x :: later) :: after⟩
        inner cause

variable {tools context}

theorem evaluate_of_reached {source root : String} {before : List Step} {value : Value}
    (reached : context.lookup root >>= follow tools context before = .ok value) (step : Step)
    (after : List Step) :
    evaluate tools context ⟨source, root, before ++ step :: after⟩ =
      (takeStep tools context step value >>= follow tools context after).withSource source := by
  have split : context.lookup root >>= follow tools context (before ++ step :: after) =
      takeStep tools context step value >>= follow tools context after := by
    calc context.lookup root >>= follow tools context (before ++ step :: after)
        = (context.lookup root >>= follow tools context before) >>=
            follow tools context (step :: after) := by
          rw [bind_assoc]
          exact bind_congr fun start => follow_append tools context before (step :: after) start
      _ = takeStep tools context step value >>= follow tools context after := by
          rw [reached]
          exact follow_cons tools context step after value
  rw [evaluate, split]

/-- An expression that is to blame makes the evaluation fail. -/
theorem evaluate_of_blames {x : Expression} {source : String} {cause : Cause}
    (blames : Blames tools context x source cause) :
    x.evaluate tools context = .error (.error ⟨cause, some source, none⟩) := by
  induction blames with
  | root refused =>
      rw [evaluate, refused]
      rfl
  | field reached refused =>
      rw [evaluate_of_reached reached, takeStep, refused]
      rfl
  | call reached evaluated refused =>
      rw [evaluate_of_reached reached, takeStep_call tools context evaluated, refused]
      rfl
  | argument reached evaluated _ fails =>
      rw [evaluate_of_reached reached, takeStep,
        evaluateAll_append_nested tools context _ _ _ evaluated fails]
      rfl

/-- Where an evaluation fails, an expression is to blame, which the error names. -/
theorem exists_blames_of_evaluate (bare : tools.IsBare) (x : Expression) : ∀ {e : Error},
    x.evaluate tools context = .error (.error e) →
      ∃ source, e = ⟨e.cause, some source, none⟩ ∧ Blames tools context x source e.cause := by
  induction x using induction_on_arguments with
  | step x ih =>
      obtain ⟨source, root, steps⟩ := x
      intro e failed
      obtain ⟨inner, fails, rfl⟩ := exists_of_annotate_eq_error failed
      cases started : context.lookup root with
      | error failure =>
          rw [started] at fails
          cases fails
          have own := (context.isBare_lookup root).error_eq started
          exact ⟨source, congrArg (Error.withSource · source) own,
            .root (context.isBare_lookup root inner started)⟩
      | ok start =>
          rw [started] at fails
          obtain ⟨before, step, after, value, rfl, passes, fails⟩ :=
            exists_of_follow_eq_error tools context fails
          have reached : context.lookup root >>= follow tools context before = .ok value := by
            rw [started]
            exact passes
          cases step with
          | field name =>
              have isBare := bare.field context value name
              exact ⟨source, congrArg (Error.withSource · source) (isBare.error_eq fails),
                .field reached (isBare inner fails)⟩
          | call name arguments =>
              cases evaluated : evaluateAll tools context arguments with
              | ok values =>
                  rw [takeStep_call tools context evaluated] at fails
                  have isBare := bare.call context value name values
                  exact ⟨source, congrArg (Error.withSource · source) (isBare.error_eq fails),
                    .call reached evaluated (isBare inner fails)⟩
              | error failure =>
                  rw [takeStep, evaluated] at fails
                  cases fails
                  obtain ⟨earlier, y, later, values, rfl, passed, fails⟩ :=
                    exists_of_evaluateAll_eq_error tools context evaluated
                  have isArgument : IsArgumentOf y ⟨source, root, before ++
                      .call name (earlier ++ .nested y :: later) :: after⟩ :=
                    ⟨name, earlier ++ .nested y :: later, by simp, by simp⟩
                  obtain ⟨blamed, shape, blames⟩ := ih y isArgument fails
                  -- The argument has been named, so the name of the whole comes too late.
                  refine ⟨blamed, ?_, .argument reached passed blames⟩
                  rw [shape]
                  rfl

/-- An evaluation fails with an error just when an expression is to blame, and the error
names that expression and no place. -/
theorem evaluate_eq_error_iff (bare : tools.IsBare) {x : Expression} {e : Error} :
    x.evaluate tools context = .error (.error e) ↔
      ∃ source, e = ⟨e.cause, some source, none⟩ ∧ Blames tools context x source e.cause := by
  constructor
  · exact exists_blames_of_evaluate bare x
  · rintro ⟨source, shape, blames⟩
    rw [shape]
    exact evaluate_of_blames blames

/-- An expression cannot be converted: its evaluation fails, or its value is refused. -/
inductive BlamesIn {α : Type} (tools : Toolbox) (context : Context)
    (convert : Value → Outcome α) (x : Expression) : String → Cause → Prop
  /-- The expression or one inside it fails. -/
  | evaluation {source : String} {cause : Cause} (blames : Blames tools context x source cause) :
      BlamesIn tools context convert x source cause
  /-- The value of the expression does not fit. -/
  | conversion {value : Value} {cause : Cause}
      (evaluated : x.evaluate tools context = .ok value)
      (refused : convert value = refuse cause) :
      BlamesIn tools context convert x x.source cause

theorem exists_blamesIn {α : Type} {convert : Value → Outcome α} (bare : tools.IsBare)
    (convertBare : ∀ value, (convert value).IsBare) {x : Expression} {e : Error}
    (failed : (x.evaluate tools context >>= convert).withSource x.source = .error (.error e)) :
    ∃ source, e = ⟨e.cause, some source, none⟩ ∧
      BlamesIn tools context convert x source e.cause := by
  obtain ⟨inner, fails, rfl⟩ := exists_of_annotate_eq_error failed
  cases evaluated : x.evaluate tools context with
  | error failure =>
      rw [evaluated] at fails
      cases fails
      obtain ⟨source, shape, blames⟩ := (evaluate_eq_error_iff bare).mp evaluated
      refine ⟨source, ?_, .evaluation blames⟩
      rw [shape]
      rfl
  | ok value =>
      rw [evaluated] at fails
      exact ⟨x.source, congrArg (Error.withSource · x.source) ((convertBare value).error_eq fails),
        .conversion evaluated (convertBare value inner fails)⟩

end Expression

end LayoutBinding
