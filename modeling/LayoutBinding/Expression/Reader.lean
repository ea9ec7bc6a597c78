import LayoutBinding.Error
import LayoutBinding.Expression.Basic

/-!
# Reading expressions

An expression is read from the start of a text as far as the chain goes on, so
a point that ends a sentence is not part of it.  A whole text is an expression
if such a reading leaves nothing.  Every reader returns what it has left, with
a proof that this is no longer than its input.
-/

namespace LayoutBinding

namespace Expression

/-- A part of the input that is no longer than it. -/
abbrev Rest (input : List Char) :=
  { rest : List Char // rest.length ≤ input.length }

/-- A part of the input that is shorter than it. -/
abbrev Shorter (input : List Char) :=
  { rest : List Char // rest.length < input.length }

/-- Why a text is no expression: a fault where so many characters are left, or
the use of a namespace that is not declared. -/
inductive ReadFault where
  /-- A syntax fault before the last `left` characters. -/
  | syntactic (fault : SyntaxFault) (left : Nat)
  | undeclared (name : String)
deriving DecidableEq

theorem length_dropWhile_le (test : Char → Bool) (cs : List Char) :
    (cs.dropWhile test).length ≤ cs.length :=
  (List.dropWhile_suffix test).length_le

def skipBlanks (input : List Char) : Rest input :=
  ⟨input.dropWhile Character.isBlank, length_dropWhile_le _ input⟩

/-- The name at the start of the input. -/
def leadingName (input : List Char) : String :=
  String.ofList (input.takeWhile continuesName)

def afterName (input : List Char) : Rest input :=
  ⟨input.dropWhile continuesName, length_dropWhile_le _ input⟩

/-- What a backslash and a character stand for in a string. -/
def unescape (c : Char) : List Char :=
  if c = 'n' then
    ['\n']
  else if c = 't' then
    ['\t']
  else if c = '\\' ∨ c = '"' ∨ c = '\'' then
    [c]
  else
    ['\\', c]

/-- Read a string up to its closing quote. -/
def quotedText? (quote : Char) : (input : List Char) → Option (List Char × Shorter input)
  | [] => none
  | c :: cs =>
      if c = quote then
        some ([], ⟨cs, Nat.lt_succ_self cs.length⟩)
      else if c = '\\' then
        match cs with
        | [] => none
        | escaped :: after =>
            match quotedText? quote after with
            | some (text, ⟨rest, shorter⟩) =>
                some (unescape escaped ++ text,
                  ⟨rest, Nat.lt_succ_of_lt (Nat.lt_succ_of_lt shorter)⟩)
            | none => none
      else
        match quotedText? quote cs with
        | some (text, ⟨rest, shorter⟩) =>
            some (c :: text, ⟨rest, Nat.lt_succ_of_lt shorter⟩)
        | none => none

/-- What a string holds and what it leaves, if its quote is closed. -/
def foundText (quote : Char) (input : List Char) : Option (List Char × List Char) :=
  (quotedText? quote input).map fun (text, rest) => (text, rest.1)

theorem foundText_nil (quote : Char) : foundText quote [] = none := by
  rw [foundText, quotedText?.eq_def]
  rfl

theorem foundText_quote (quote : Char) (cs : List Char) :
    foundText quote (quote :: cs) = some ([], cs) := by
  rw [foundText, quotedText?.eq_def]
  simp

theorem foundText_plain {quote c : Char} (notQuote : c ≠ quote) (notEscape : c ≠ '\\')
    (cs : List Char) :
    foundText quote (c :: cs) =
      (foundText quote cs).map fun (text, rest) => (c :: text, rest) := by
  rw [foundText, quotedText?.eq_def]
  simp only [if_neg notQuote, if_neg notEscape, foundText]
  cases quotedText? quote cs <;> rfl

theorem foundText_backslash {quote : Char} (notEscape : '\\' ≠ quote) :
    foundText quote ['\\'] = none := by
  rw [foundText, quotedText?.eq_def]
  simp [notEscape]

theorem foundText_escaped {quote : Char} (notEscape : quote ≠ '\\') (c : Char)
    (cs : List Char) :
    foundText quote ('\\' :: c :: cs) =
      (foundText quote cs).map fun (text, rest) => (unescape c ++ text, rest) := by
  rw [foundText, quotedText?.eq_def]
  simp only [if_neg notEscape.symm, if_pos, foundText]
  cases quotedText? quote cs <;> rfl

def continuesNumber (c : Char) : Bool :=
  Character.isDigit c || c = '.'

/-- Whether a number starts here: a digit, or a sign or a point with a digit or
a point after it. -/
def numberStarts : List Char → Bool
  | [] => false
  | c :: cs =>
      Character.isDigit c ||
        ((c = '-' || c = '+' || c = '.') && cs.head?.any continuesNumber)

/-- Split a number into its sign and the run of its digits and points. -/
def numberChars (input : List Char) : List Char :=
  match input with
  | [] => []
  | c :: cs =>
      if c = '-' ∨ c = '+' then c :: cs.takeWhile continuesNumber
      else input.takeWhile continuesNumber

def afterNumber (input : List Char) : Rest input :=
  match input with
  | [] => ⟨[], by simp⟩
  | c :: cs =>
      if c = '-' ∨ c = '+' then
        ⟨cs.dropWhile continuesNumber, by
          have bound := length_dropWhile_le continuesNumber cs
          simp only [List.length_cons]
          omega⟩
      else
        ⟨(c :: cs).dropWhile continuesNumber, length_dropWhile_le _ _⟩

theorem length_afterNumber_lt {input : List Char} (starts : numberStarts input = true) :
    (afterNumber input).1.length < input.length := by
  cases input with
  | nil => simp [numberStarts] at starts
  | cons c cs =>
      have bound := length_dropWhile_le continuesNumber cs
      by_cases sign : c = '-' ∨ c = '+'
      · simp only [afterNumber, sign, if_true, List.length_cons]
        omega
      · have continues : continuesNumber c = true := by
          simp only [not_or] at sign
          simp only [numberStarts, sign, decide_false, Bool.false_or, Bool.or_eq_true,
            Bool.and_eq_true, decide_eq_true_eq] at starts
          rcases starts with digit | ⟨point, _⟩
          · simp [continuesNumber, digit]
          · simp [continuesNumber, point]
        simp only [afterNumber, sign, if_false, List.dropWhile_cons, continues, if_true,
          List.length_cons]
        omega

/-- The value of a number: with a point it is a double, else a whole number. -/
def numberValue? (written : List Char) : Option Literal :=
  if written.contains '.' then
    (Double.read? written).map .double
  else
    (Numeral.read? written).map .whole

/-- The text of the input before what is left of it. -/
def consumed (input rest : List Char) : String :=
  String.ofList (input.take (input.length - rest.length))

mutual

def readChain (declared : List String) (input : List Char) :
    Except ReadFault (Expression × Shorter input) :=
  match input with
  | '$' :: afterDollar =>
      if nameStarts afterDollar then
        let root := leadingName afterDollar
        if declared.contains root then
          have bound := (afterName afterDollar).2
          match readSteps declared (afterName afterDollar).1 with
          | .ok (steps, ⟨rest, _⟩) =>
              .ok (⟨consumed ('$' :: afterDollar) rest, root, steps⟩,
                ⟨rest, by simp only [List.length_cons]; omega⟩)
          | .error fault => .error fault
        else
          .error (.undeclared root)
      else
        .error (.syntactic .noNamespace afterDollar.length)
  | other => .error (.syntactic .noDollar other.length)
termination_by 4 * input.length
decreasing_by
  simp only [List.length_cons]
  omega

def readSteps (declared : List String) (input : List Char) :
    Except ReadFault (List Step × Rest input) :=
  match input with
  | '.' :: afterPoint =>
      if nameStarts afterPoint then
        let name := leadingName afterPoint
        have bound := (afterName afterPoint).2
        match same : (afterName afterPoint).1 with
        | '(' :: inside =>
            have : inside.length < ('.' :: afterPoint).length := by
              rw [same] at bound
              simp only [List.length_cons] at bound ⊢
              omega
            match readArguments declared name inside with
            | .error fault => .error fault
            | .ok (arguments, ⟨rest, _⟩) =>
                match readSteps declared rest with
                | .ok (steps, ⟨last, _⟩) =>
                    .ok (.call name arguments :: steps, ⟨last, by omega⟩)
                | .error fault => .error fault
        | rest =>
            have : rest.length < ('.' :: afterPoint).length := by
              rw [same] at bound
              simp only [List.length_cons]
              omega
            match readSteps declared rest with
            | .ok (steps, ⟨last, _⟩) => .ok (.field name :: steps, ⟨last, by omega⟩)
            | .error fault => .error fault
      else
        .ok ([], ⟨'.' :: afterPoint, Nat.le_refl _⟩)
  | other => .ok ([], ⟨other, Nat.le_refl _⟩)
termination_by 4 * input.length + 1
decreasing_by all_goals (simp only [List.length_cons] at *; omega)

def readArguments (declared : List String) (name : String) (input : List Char) :
    Except ReadFault (List Argument × Rest input) :=
  have bound := (skipBlanks input).2
  if (skipBlanks input).1.head? = some ')' then
    .ok ([], ⟨(skipBlanks input).1.drop 1, by simp only [List.length_drop]; omega⟩)
  else
    match readMoreArguments declared name (skipBlanks input).1 with
    | .ok (arguments, ⟨rest, _⟩) => .ok (arguments, ⟨rest, by omega⟩)
    | .error fault => .error fault
termination_by 4 * input.length + 3

/-- Read one or more arguments of a call, up to its closing bracket. -/
def readMoreArguments (declared : List String) (name : String) (input : List Char) :
    Except ReadFault (List Argument × Rest input) :=
  match readArgument declared input with
  | .error fault => .error fault
  | .ok (argument, ⟨rest, shorter⟩) =>
      match skipBlanks rest with
      | ⟨[], _⟩ => .error (.syntactic (.unterminatedCall name) 0)
      | ⟨c :: after, bound⟩ =>
          have : after.length < input.length := by
            simp only [List.length_cons] at bound
            omega
          if c = ',' then
            have : (skipBlanks after).1.length < input.length := by
              have next := (skipBlanks after).2
              omega
            match readMoreArguments declared name (skipBlanks after).1 with
            | .ok (arguments, ⟨last, _⟩) => .ok (argument :: arguments, ⟨last, by omega⟩)
            | .error fault => .error fault
          else if c = ')' then
            .ok ([argument], ⟨after, by omega⟩)
          else
            .error (.syntactic (.afterArgument c name) (after.length + 1))
termination_by 4 * input.length + 2

def readArgument (declared : List String) (input : List Char) :
    Except ReadFault (Argument × Shorter input) :=
  match input with
  | [] => .error (.syntactic .missingArgument 0)
  | c :: cs =>
      if c = '"' ∨ c = '\'' then
        match quotedText? c cs with
        | some (text, ⟨rest, shorter⟩) =>
            .ok (.literal (.text (String.ofList text)),
              ⟨rest, by simp only [List.length_cons]; omega⟩)
        | none => .error (.syntactic .unbalancedQuotes 0)
      else if c = '$' then
        match readChain declared (c :: cs) with
        | .ok (expression, rest) => .ok (.nested expression, rest)
        | .error fault => .error fault
      else if starts : numberStarts (c :: cs) then
        match numberValue? (numberChars (c :: cs)) with
        | some value =>
            .ok (.literal value, ⟨(afterNumber (c :: cs)).1, length_afterNumber_lt starts⟩)
        | none =>
            .error (.syntactic (.malformedNumber (String.ofList (numberChars (c :: cs))))
              (afterNumber (c :: cs)).1.length)
      else if startsName c then
        let word := leadingName (c :: cs)
        have shorter : (afterName cs).1.length < (c :: cs).length := by
          have bound := (afterName cs).2
          simp only [List.length_cons]
          omega
        if word = "true" then
          .ok (.literal (.truth true), ⟨(afterName cs).1, shorter⟩)
        else if word = "false" then
          .ok (.literal (.truth false), ⟨(afterName cs).1, shorter⟩)
        else
          .error (.syntactic (.bareWord word) (afterName cs).1.length)
      else if c = ')' then
        .error (.syntactic .emptyArgument (cs.length + 1))
      else
        .error (.syntactic (.unexpectedArgument c) (cs.length + 1))
termination_by 4 * input.length + 1

end

end Expression

end LayoutBinding
