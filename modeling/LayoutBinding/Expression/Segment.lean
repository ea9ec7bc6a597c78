import LayoutBinding.Expression.Parser

/-!
# Expressions embedded in text

A text is cut into literal runs and expressions.  A doubled dollar sign stands
for one; a dollar sign that no name follows is literal.  The segments tile the
text up to the first expression that cannot be read.
-/

namespace LayoutBinding

/-- A literal run of text or an embedded expression. -/
structure Segment where
  start : Nat
  /-- The place after the last character. -/
  stop : Nat
  text : String
  expression : Option Expression

/-- The segments of a text, up to the first error. -/
structure Scan where
  segments : List Segment
  /-- The error that ended the scan. -/
  failure : Option Error

namespace Segment

/-- The literal text up to the next expression, and the rest of the text. -/
def literalRun : List Char → List Char × List Char
  | [] => ([], [])
  | [c] => ([c], [])
  | c :: d :: cs =>
      if c = '$' then
        if d = '$' then
          let (literal, rest) := literalRun cs
          ('$' :: literal, rest)
        else if Expression.startsName d then
          ([], c :: d :: cs)
        else
          let (literal, rest) := literalRun (d :: cs)
          ('$' :: literal, rest)
      else
        let (literal, rest) := literalRun (d :: cs)
        (c :: literal, rest)

theorem length_literalRun_le (cs : List Char) :
    (literalRun cs).2.length ≤ cs.length := by
  fun_induction literalRun cs <;> simp_all <;> omega

/-- The literal segment of a run, if it is not empty. -/
def literal (start stop : Nat) (text : List Char) : List Segment :=
  if text = [] then [] else [⟨start, stop, String.ofList text, none⟩]

/-- Cut the rest of a text, which starts at a place, into segments. -/
def scanFrom (declared : List String) (start : Nat) (text : List Char) : Scan :=
  have _bound := length_literalRun_le text
  let run := literal start (start + (text.length - (literalRun text).2.length))
    (literalRun text).1
  if (literalRun text).2 = [] then
    ⟨run, none⟩
  else
    let place := start + (text.length - (literalRun text).2.length)
    match Expression.parseFront declared place (literalRun text).2 with
    | .error error => ⟨run, some error⟩
    | .ok (expression, ⟨rest, _⟩) =>
        let stop := start + (text.length - rest.length)
        let after := scanFrom declared stop rest
        ⟨run ++ ⟨place, stop, expression.source, some expression⟩ :: after.segments,
          after.failure⟩
termination_by text.length

/-- Cut a text into segments whose expressions may use `extra` namespaces. -/
def scan (extra : List String) (text : String) : Scan :=
  scanFrom (Expression.declaredWith extra) 0 text.toList

end Segment

namespace Scan

/-- Process the segments in order, then report the error that ended the scan. -/
def process {ε α : Type} (scan : Scan) (failed : Error → ε) (f : Segment → Except ε α) :
    Except ε (List α) := do
  let results ← scan.segments.mapM f
  match scan.failure with
  | some error => throw (failed error)
  | none => pure results

end Scan

def mayHoldExpression (text : String) : Bool :=
  text.toList.contains '$'

/-- Replace every embedded expression by the text that `render` gives for it. -/
def substitute {ε : Type} (extra : List String) (text : String) (failed : Error → ε)
    (render : Expression → Except ε String) : Except ε String := do
  let parts ← (Segment.scan extra text).process failed fun segment =>
    match segment.expression with
    | none => pure segment.text
    | some expression => render expression
  pure (String.join parts)

end LayoutBinding
