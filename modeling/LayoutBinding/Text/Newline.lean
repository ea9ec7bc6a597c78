/-!
# Ends of lines

A carriage return with or without a line feed ends a line as a line feed does.
-/

namespace LayoutBinding

namespace Newline

/-- The characters with every end of a line written as a line feed. -/
def unify : List Char → List Char
  | [] => []
  | '\r' :: '\n' :: cs => '\n' :: unify cs
  | '\r' :: cs => '\n' :: unify cs
  | c :: cs => c :: unify cs

end Newline

/-- The text that bytes encode, with every end of a line written as a line
feed. -/
def readText? (bytes : List UInt8) : Option String :=
  (String.fromUTF8? ⟨bytes.toArray⟩).map fun s => String.ofList (Newline.unify s.toList)

end LayoutBinding
