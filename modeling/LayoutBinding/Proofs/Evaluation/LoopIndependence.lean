import LayoutBinding.Proofs.Evaluation.FurtherNames

/-!
# Evaluation in another loop

The frame of the innermost loop is the value of the loop namespace, and nothing else of an
evaluation with the built-in formatters reads it.  So an expression that starts from another
namespace, as do all the expressions among its arguments, has the same value in every loop and
outside of loops.
-/

namespace LayoutBinding

namespace Context

/-- The context in another loop, or outside of loops. -/
def inFrame (context : Context) (frame : Option LoopFrame) : Context :=
  { context with frame := frame }

variable (context : Context) (frame : Option LoopFrame)

@[simp]
theorem zone?_inFrame : (context.inFrame frame).zone? = context.zone? :=
  rfl

theorem lookup_inFrame {name : String} (other : name ≠ "loop") :
    (context.inFrame frame).lookup name = context.lookup name := by
  rw [lookup, lookup, if_neg other, if_neg other]
  rfl

/-- An inner loop has frames of its own, but the frame around them is another one. -/
theorem enterLoop_inFrame (item : Value) (index count : Int) :
    (context.inFrame frame).enterLoop item index count =
      (context.enterLoop item index count).inFrame (some ⟨item, index, count, frame⟩) :=
  rfl

/-- Contexts that bind the same under the same configuration differ in their frames only. -/
theorem eq_inFrame {first second : Context} (namespaces : first.namespaces = second.namespaces)
    (config : first.config = second.config) : first = second.inFrame first.frame := by
  rw [inFrame, ← namespaces, ← config]

/-- The context in turns of loops, each of which stands inside the ones before. -/
def enterLoops (turns : List (Value × Int × Int)) : Context :=
  turns.foldl (fun context (item, index, count) => context.enterLoop item index count) context

theorem namespaces_enterLoops (turns : List (Value × Int × Int)) :
    (context.enterLoops turns).namespaces = context.namespaces := by
  induction turns generalizing context with
  | nil => rfl
  | cons turn turns ih => exact ih _

theorem config_enterLoops (turns : List (Value × Int × Int)) :
    (context.enterLoops turns).config = context.config := by
  induction turns generalizing context with
  | nil => rfl
  | cons turn turns ih => exact ih _

end Context

/-- No formatter of values reads the frame of a loop. -/
def Toolbox.IgnoresFrames (tools : Toolbox) : Prop :=
  ∀ owner name formatter, tools.formatters.find? owner name = some formatter →
    ∀ (context : Context) (frame : Option LoopFrame) (value : Value) (arguments : List Value),
      formatter.run (context.inFrame frame) value arguments = formatter.run context value arguments

/-- Of the context the built-in formatters read the configuration only. -/
theorem Toolbox.ignoresFrames_withFunctions (functions : FunctionTable) :
    (withFunctions functions).IgnoresFrames := by
  intro owner name formatter found context frame value arguments
  have given := Registry.isBuiltin_of_find?_fresh found
  obtain ⟨_, _, operation, _, _⟩ := formatter
  cases operation with
  | builtin builtin => rfl
  | custom name run => cases given

/-! ### Namespaces of an expression -/

namespace Expression

mutual

/-- The namespaces that an expression and the expressions among its arguments, at any depth,
start from. -/
def roots : Expression → List String
  | ⟨_, root, steps⟩ => root :: rootsOfSteps steps
termination_by structural x => x

def rootsOfSteps : List Step → List String
  | [] => []
  | .field _ :: steps => rootsOfSteps steps
  | .call _ arguments :: steps => rootsOfArguments arguments ++ rootsOfSteps steps
termination_by structural steps => steps

def rootsOfArguments : List Argument → List String
  | [] => []
  | .literal _ :: arguments => rootsOfArguments arguments
  | .nested x :: arguments => roots x ++ rootsOfArguments arguments
termination_by structural arguments => arguments

end

end Expression

/-! ### Fields and methods -/

section

variable {tools : Toolbox} (ignores : tools.IgnoresFrames) (context : Context)
  (frame : Option LoopFrame)

include ignores

namespace Value

theorem field_inFrame (value : Value) (name : String) :
    value.field tools (context.inFrame frame) name = value.field tools context name := by
  unfold field itemField Formatter.apply
  split
  next => rfl
  next =>
    split
    next items isSequence =>
      -- Of the fields of a sequence only the first and the last item ask a formatter.
      cases found : tools.formatters.find? value name with
      | none => rfl
      | some formatter =>
          dsimp only
          rw [ignores value name formatter found context frame]
    next => rfl

theorem callFormatter_inFrame (value : Value) (name : String) (arguments : List Value) :
    value.callFormatter tools (context.inFrame frame) name arguments =
      value.callFormatter tools context name arguments := by
  unfold callFormatter Formatter.apply
  split
  next formatter found => rw [ignores value name formatter found context frame]
  next => rfl

theorem call_inFrame (value : Value) (name : String) (arguments : List Value) :
    value.call tools (context.inFrame frame) name arguments =
      value.call tools context name arguments := by
  have formatters (plain : Value) :=
    callFormatter_inFrame ignores context frame plain name arguments
  -- A page asks the context for its address, but through the namespace of links.
  have pages (path : String) : pageLink (context.inFrame frame) path = pageLink context path := by
    rw [pageLink, pageLink, context.lookup_inFrame frame (by decide)]
  unfold call callPage
  simp only [formatters, pages]

end Value

end

/-! ### Expressions -/

namespace Expression

mutual

/-- The value of an expression does not depend on the frame, unless it starts from the loop
namespace somewhere. -/
theorem evaluate_inFrame {tools : Toolbox} (ignores : tools.IgnoresFrames) (context : Context)
    (frame : Option LoopFrame) : ∀ x : Expression, "loop" ∉ x.roots →
      x.evaluate tools (context.inFrame frame) = x.evaluate tools context
  | ⟨source, root, steps⟩, free => by
      rw [roots, List.mem_cons, not_or] at free
      rw [evaluate, evaluate, context.lookup_inFrame frame (Ne.symm free.1)]
      congr 2
      exact funext (follow_inFrame ignores context frame steps free.2)
termination_by structural x => x

theorem follow_inFrame {tools : Toolbox} (ignores : tools.IgnoresFrames) (context : Context)
    (frame : Option LoopFrame) : ∀ steps : List Step, "loop" ∉ rootsOfSteps steps →
      ∀ value : Value,
        follow tools (context.inFrame frame) steps value = follow tools context steps value
  | [], _, _ => rfl
  | .field name :: steps, free, value => by
      rw [follow, follow, value.field_inFrame ignores context frame name]
      congr 1
      exact funext (follow_inFrame ignores context frame steps free)
  | .call name arguments :: steps, free, value => by
      rw [rootsOfSteps, List.mem_append, not_or] at free
      have called := funext (value.call_inFrame ignores context frame name)
      rw [follow, follow, evaluateAll_inFrame ignores context frame arguments free.1, called]
      congr 1
      exact funext (follow_inFrame ignores context frame steps free.2)
termination_by structural steps => steps

theorem evaluateAll_inFrame {tools : Toolbox} (ignores : tools.IgnoresFrames)
    (context : Context) (frame : Option LoopFrame) : ∀ arguments : List Argument,
      "loop" ∉ rootsOfArguments arguments →
        evaluateAll tools (context.inFrame frame) arguments = evaluateAll tools context arguments
  | [], _ => rfl
  | .literal content :: arguments, free => by
      rw [evaluateAll, evaluateAll, evaluateAll_inFrame ignores context frame arguments free]
  | .nested x :: arguments, free => by
      rw [rootsOfArguments, List.mem_append, not_or] at free
      rw [evaluateAll, evaluateAll, evaluate_inFrame ignores context frame x free.1,
        evaluateAll_inFrame ignores context frame arguments free.2]
termination_by structural arguments => arguments

end

end Expression

end LayoutBinding
