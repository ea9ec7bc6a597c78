import LayoutBinding.Proofs.Evaluation.Blame

/-!
# The order of an evaluation

What an evaluation does can be listed in order: each expression looks its namespace up, and
then it takes its steps, with what the arguments of a call do in front of the call itself.
The first of these acts that fails gives the error of the evaluation, which names the
expression that the act belongs to.
-/

namespace LayoutBinding

open Outcome

def Argument.evaluate (tools : Toolbox) (context : Context) : Argument → Outcome Value
  | .literal content => .ok content.value
  | .nested x => x.evaluate tools context

namespace Expression

variable (tools : Toolbox) (context : Context)

/-! ### Folding the steps -/

theorem evaluateAll_eq_mapM (arguments : List Argument) :
    evaluateAll tools context arguments = arguments.mapM (Argument.evaluate tools context) := by
  induction arguments with
  | nil => rfl
  | cons first arguments ih =>
      rw [List.mapM_cons, ← ih]
      cases first <;> rfl

/-- The steps of an expression are a fold that starts at the value of the namespace. -/
theorem follow_eq_foldlM (steps : List Step) (value : Value) :
    follow tools context steps value =
      steps.foldlM (fun value step => takeStep tools context step value) value := by
  induction steps generalizing value with
  | nil => rfl
  | cons step steps ih =>
      rw [follow_cons, List.foldlM_cons]
      exact bind_congr ih

/-! ### Acts -/

/-- Something that the expression with a source text does by itself. -/
inductive Act where
  | lookup (source root : String)
  | field (source : String) (value : Value) (name : String)
  | call (source : String) (value : Value) (name : String) (arguments : List Value)

namespace Act

/-- The source text of the expression whose act it is. -/
def source : Act → String
  | .lookup source _ => source
  | .field source _ _ => source
  | .call source _ _ _ => source

def result : Act → Outcome Value
  | .lookup _ root => context.lookup root
  | .field _ value name => value.field tools context name
  | .call _ value name arguments => value.call tools context name arguments

theorem isBare_result (bare : tools.IsBare) (act : Act) : (act.result tools context).IsBare := by
  cases act with
  | lookup source root => exact context.isBare_lookup root
  | field source value name => exact bare.field context value name
  | call source value name arguments => exact bare.call context value name arguments

end Act

/-- The acts that come after a computation, if it succeeds. -/
def upon {α : Type} (outcome : Outcome α) (next : α → List Act) : List Act :=
  match outcome with
  | .ok value => next value
  | .error _ => []

mutual

/-- What the evaluation of an expression does in order, up to the first act that fails. -/
def acts : Expression → List Act
  | ⟨source, root, steps⟩ =>
      .lookup source root :: upon (context.lookup root) (actsOfSteps source steps)
termination_by structural expression => expression

/-- What the expression with the source text does to take steps from a value. -/
def actsOfSteps (source : String) : List Step → Value → List Act
  | [], _ => []
  | .field name :: steps, value =>
      .field source value name ::
        upon (value.field tools context name) (actsOfSteps source steps)
  | .call name arguments :: steps, value =>
      actsOfArguments arguments ++
        upon (evaluateAll tools context arguments) fun values =>
          .call source value name values ::
            upon (value.call tools context name values) (actsOfSteps source steps)
termination_by structural steps => steps

def actsOfArguments : List Argument → List Act
  | [] => []
  | .literal _ :: arguments => actsOfArguments arguments
  | .nested x :: arguments =>
      acts x ++ upon (x.evaluate tools context) fun _ => actsOfArguments arguments
termination_by structural arguments => arguments

end

/-! ### The first act that fails -/

/-- A computation that consists of acts fails like the first of them that fails, and its
error is annotated with the source of that act. -/
def Consists {α : Type} (acts : List Act) (outcome : Outcome α) : Prop :=
  match outcome with
  | .ok _ => ∀ act ∈ acts, ∃ value, act.result tools context = .ok value
  | .error failure =>
      ∃ done last own, acts = done ++ [last] ∧
        (∀ act ∈ done, ∃ value, act.result tools context = .ok value) ∧
          last.result tools context = .error own ∧ failure = own.annotate (some last.source) none

variable {tools context}

namespace Consists

variable {α β : Type} {acts : List Act} {outcome : Outcome α}

theorem own (act : Act) :
    Consists tools context [act] ((act.result tools context).withSource act.source) := by
  cases given : act.result tools context with
  | ok value =>
      intro other member
      obtain rfl := List.mem_singleton.mp member
      exact ⟨value, given⟩
  | error failure => exact ⟨[], act, failure, rfl, by simp, given, rfl⟩

/-- The source of an act comes before the one of an expression around it. -/
theorem withSource (consists : Consists tools context acts outcome) (source : String) :
    Consists tools context acts (outcome.withSource source) := by
  cases outcome with
  | ok value => exact consists
  | error failure =>
      obtain ⟨done, last, own, split, succeed, fails, rfl⟩ := consists
      refine ⟨done, last, own, split, succeed, fails, ?_⟩
      cases own with
      | fault fault => rfl
      | error e => simp [Failure.annotate, Error.annotate_annotate]

theorem bind (consists : Consists tools context acts outcome) {next : α → Outcome β}
    {later : α → List Act} (behind : ∀ value, Consists tools context (later value) (next value)) :
    Consists tools context (acts ++ upon outcome later) (outcome >>= next) := by
  cases outcome with
  | error failure =>
      rw [upon, List.append_nil]
      exact consists
  | ok value =>
      change Consists tools context (acts ++ later value) (next value)
      have behind := behind value
      cases result : next value with
      | ok final =>
          rw [result] at behind
          intro act member
          exact (List.mem_append.mp member).elim (consists act) (behind act)
      | error failure =>
          rw [result] at behind
          obtain ⟨done, last, own, split, succeed, fails, named⟩ := behind
          refine ⟨acts ++ done, last, own, ?_, fun act member => ?_, fails, named⟩
          · rw [split, List.append_assoc]
          · exact (List.mem_append.mp member).elim (consists act) (succeed act)

theorem map (consists : Consists tools context acts outcome) (f : α → β) :
    Consists tools context acts (f <$> outcome) := by
  cases outcome <;> exact consists

end Consists

@[simp]
theorem upon_withSource {α : Type} (outcome : Outcome α) (source : String)
    (next : α → List Act) : upon (outcome.withSource source) next = upon outcome next := by
  cases outcome <;> rfl

theorem Consists.own_bind {α : Type} (act : Act) {next : Value → Outcome α}
    {later : Value → List Act}
    (behind : ∀ value, Consists tools context (later value) (next value)) :
    Consists tools context (act :: upon (act.result tools context) later)
      ((act.result tools context).withSource act.source >>= next) := by
  have both := (Consists.own act).bind behind
  rwa [upon_withSource] at both

mutual

theorem consists_evaluate : ∀ x : Expression,
    Consists tools context (x.acts tools context) (x.evaluate tools context)
  | ⟨source, root, steps⟩ => by
      rw [acts, evaluate, withSource, annotate_bind]
      exact Consists.own_bind (.lookup source root) (consists_follow source steps)
termination_by structural x => x

theorem consists_follow (source : String) : ∀ (steps : List Step) (value : Value),
    Consists tools context (actsOfSteps tools context source steps value)
      ((follow tools context steps value).withSource source)
  | [], _ => nofun
  | .field name :: steps, value => by
      rw [actsOfSteps, follow, withSource, annotate_bind]
      exact Consists.own_bind (.field source value name) (consists_follow source steps)
  | .call name arguments :: steps, value => by
      rw [actsOfSteps, follow, withSource, annotate_bind, annotate_bind, bind_assoc]
      -- An argument that fails has been named, so the name of the whole changes nothing.
      have before := (consists_evaluateAll arguments).withSource source
      have both := before.bind fun values =>
        Consists.own_bind (.call source value name values) (consists_follow source steps)
      rwa [upon_withSource] at both
termination_by structural steps => steps

theorem consists_evaluateAll : ∀ arguments : List Argument,
    Consists tools context (actsOfArguments tools context arguments)
      (evaluateAll tools context arguments)
  | [] => nofun
  | .literal _ :: arguments => (consists_evaluateAll arguments).map _
  | .nested x :: arguments =>
      (consists_evaluate x).bind fun _ => (consists_evaluateAll arguments).map _
termination_by structural arguments => arguments

end

/-- An evaluation fails with an error just when its first act that fails gives this error,
which names the expression that the act belongs to. -/
theorem evaluate_eq_error_iff_acts (bare : tools.IsBare) {x : Expression} {e : Error} :
    x.evaluate tools context = .error (.error e) ↔
      ∃ done last, x.acts tools context = done ++ [last] ∧
        (∀ act ∈ done, ∃ value, act.result tools context = .ok value) ∧
          last.result tools context = refuse e.cause ∧ e = ⟨e.cause, some last.source, none⟩ := by
  have consists : Consists tools context (x.acts tools context) (x.evaluate tools context) :=
    consists_evaluate x
  constructor
  · intro failed
    rw [failed] at consists
    obtain ⟨done, last, own, split, succeed, fails, named⟩ := consists
    refine ⟨done, last, split, succeed, ?_⟩
    cases own with
    | fault fault => cases named
    | error inner =>
        have isBare := last.isBare_result tools context bare
        obtain rfl : e = inner.annotate (some last.source) none := Failure.error.inj named
        refine ⟨isBare inner fails, ?_⟩
        rw [isBare.error_eq fails]
        rfl
  · rintro ⟨done, last, split, succeed, fails, shape⟩
    cases evaluated : x.evaluate tools context with
    | ok value =>
        rw [evaluated] at consists
        obtain ⟨value, given⟩ := consists last (split ▸ List.mem_append_right done (by simp))
        cases fails.symm.trans given
    | error failure =>
        rw [evaluated] at consists
        obtain ⟨others, other, own, splitOther, -, failsOther, rfl⟩ := consists
        obtain ⟨-, rfl⟩ := List.append_singleton_inj.mp (split.symm.trans splitOther)
        cases fails.symm.trans failsOther
        rw [shape]
        rfl

/-- An argument that fails, after those before it have got their values, fails the whole
expression with its own error, whatever the method is. -/
theorem evaluate_of_argument (bare : tools.IsBare) {source root name : String}
    {before after : List Step} {earlier later : List Argument} {y : Expression} {value : Value}
    {values : List Value} {e : Error}
    (reached : context.lookup root >>= follow tools context before = .ok value)
    (evaluated : evaluateAll tools context earlier = .ok values)
    (fails : y.evaluate tools context = .error (.error e)) :
    evaluate tools context ⟨source, root, before ++ .call name (earlier ++ .nested y :: later) ::
      after⟩ = .error (.error e) := by
  obtain ⟨inner, shape, -⟩ := (evaluate_eq_error_iff bare).mp fails
  rw [evaluate_of_reached reached, takeStep,
    evaluateAll_append_nested tools context earlier y later evaluated fails]
  change Except.error (Failure.error (e.annotate (some source) none)) = _
  rw [shape]
  rfl

/-- An evaluation folds the steps from the value of the namespace, and it evaluates the
arguments of a call from left to right before it looks the method up.  If it fails with an
error, this is what the first failing act gives, and it names the expression whose own act
that is.  So an argument that fails is named itself, whatever the method and the other
arguments are. -/
theorem evaluate_in_order (bare : tools.IsBare) (x : Expression) :
    (x.evaluate tools context =
      (context.lookup x.root >>= fun start =>
        x.steps.foldlM (fun value step =>
          match step with
          | .field name => value.field tools context name
          | .call name arguments =>
              arguments.mapM (Argument.evaluate tools context) >>=
                value.call tools context name) start).withSource x.source) ∧
      (∀ e, x.evaluate tools context = .error (.error e) ↔
        ∃ done last, x.acts tools context = done ++ [last] ∧
          (∀ act ∈ done, ∃ value, act.result tools context = .ok value) ∧
            last.result tools context = refuse e.cause ∧
              e = ⟨e.cause, some last.source, none⟩) ∧
      ∀ before name earlier y later after value values e,
        x.steps = before ++ .call name (earlier ++ .nested y :: later) :: after →
          context.lookup x.root >>= follow tools context before = .ok value →
            earlier.mapM (Argument.evaluate tools context) = .ok values →
              y.evaluate tools context = .error (.error e) →
                x.evaluate tools context = .error (.error e) := by
  refine ⟨?_, fun e => evaluate_eq_error_iff_acts bare, ?_⟩
  · obtain ⟨source, root, steps⟩ := x
    rw [evaluate]
    congr 1
    refine bind_congr fun start => ?_
    rw [follow_eq_foldlM]
    congr 1
    funext value step
    cases step with
    | field name => rfl
    | call name arguments => rw [takeStep, evaluateAll_eq_mapM]
  · intro before name earlier y later after value values e steps reached evaluated fails
    rw [← evaluateAll_eq_mapM] at evaluated
    obtain ⟨source, root, _⟩ := x
    obtain rfl : _ = _ := steps
    exact evaluate_of_argument bare reached evaluated fails

/-- The second argument of a call fails, and so it is named although there is no such method. -/
theorem evaluate_in_order_missing :
    let context := Context.ofNamespaces [("page", .record [("t", .string "x")])] .default
    let title : Expression := ⟨"$page.t", "page", [.field "t"]⟩
    let missing : Expression := ⟨"$page.gone", "page", [.field "gone"]⟩
    let whole : Expression :=
      ⟨"$page.none($page.t, $page.gone)", "page", [.call "none" [.nested title, .nested missing]]⟩
    Toolbox.builtin.IsBare ∧
      missing.evaluate .builtin context =
        .error (.error ⟨.noField "record" "gone", some "$page.gone", none⟩) ∧
      whole.evaluate .builtin context =
        .error (.error ⟨.noField "record" "gone", some "$page.gone", none⟩) := by
  intro context title missing whole
  have reached : context.lookup "page" >>= follow .builtin context [] =
      .ok (.record [("t", .string "x")]) :=
    rfl
  have evaluated : [Argument.nested title].mapM (Argument.evaluate .builtin context) =
      .ok [.string "x"] :=
    rfl
  have fails : missing.evaluate .builtin context =
      .error (.error ⟨.noField "record" "gone", some "$page.gone", none⟩) :=
    rfl
  exact ⟨Toolbox.isBare_builtin, fails,
    (evaluate_in_order Toolbox.isBare_builtin whole).2.2 [] "none" [.nested title] missing [] [] _
      [.string "x"] _ rfl reached evaluated fails⟩

end Expression

end LayoutBinding
