import LayoutBinding.Evaluation.Field
import LayoutBinding.Evaluation.Method
import LayoutBinding.Expression.Basic

/-!
# Evaluation

The steps of an expression are taken from left to right, starting with the
value of its namespace.  The arguments of a call are evaluated in order before
the method is looked up.  An error names the innermost expression that failed.
-/

namespace LayoutBinding

def Literal.value : Literal → Value
  | .text content => .string content
  | .whole n => .whole n
  | .double d => .double d
  | .truth b => .truth b

namespace Expression

mutual

def evaluate (tools : Toolbox) (context : Context) : Expression → Outcome Value
  | ⟨source, root, steps⟩ =>
      (context.lookup root >>= follow tools context steps).withSource source
termination_by structural expression => expression

def follow (tools : Toolbox) (context : Context) : List Step → Value → Outcome Value
  | [], value => .ok value
  | .field name :: steps, value =>
      value.field tools context name >>= follow tools context steps
  | .call name arguments :: steps, value =>
      (evaluateAll tools context arguments >>= value.call tools context name) >>=
        follow tools context steps
termination_by structural steps => steps

def evaluateAll (tools : Toolbox) (context : Context) : List Argument → Outcome (List Value)
  | [] => .ok []
  | .literal content :: arguments =>
      (evaluateAll tools context arguments).map (content.value :: ·)
  | .nested expression :: arguments => do
      let value ← evaluate tools context expression
      (evaluateAll tools context arguments).map (value :: ·)
termination_by structural arguments => arguments

end

end Expression

end LayoutBinding
