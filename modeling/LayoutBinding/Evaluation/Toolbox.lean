import LayoutBinding.Formatter.Builtin

/-!
# Tools of an evaluation

Apart from its context an evaluation uses a registry of formatters and the
functions that records may hold.
-/

namespace LayoutBinding

/-- The functions that records may hold, by their names.  A function has no
answer to arguments that do not fit it. -/
abbrev FunctionTable :=
  String → List Value → Outcome (Option Value)

/-- What an evaluation uses besides its context. -/
structure Toolbox where
  formatters : Registry
  functions : FunctionTable

namespace Toolbox

/-- The built-in formatters and no functions. -/
def builtin : Toolbox :=
  ⟨.fresh, fun _ _ => .ok none⟩

end Toolbox

end LayoutBinding
