import LayoutBinding.Character.Blank

/-!
# Trimming

Characters are taken off the ends of a text as long as they satisfy a test.
A text without such characters at its ends stays as it is.
-/

namespace LayoutBinding

def trimStart (test : Char → Bool) (cs : List Char) : List Char :=
  cs.dropWhile test

def trimEnd (test : Char → Bool) (cs : List Char) : List Char :=
  (cs.reverse.dropWhile test).reverse

/-- Take off the characters at both ends that satisfy the test. -/
def trim (test : Char → Bool) (cs : List Char) : List Char :=
  trimEnd test (trimStart test cs)

/-- A text without the blanks around it. -/
def trimBlanks (s : String) : String :=
  String.ofList (trim Character.isBlank s.toList)

/-- Whether nothing but blanks is in the text. -/
def isBlankText (s : String) : Bool :=
  s.toList.all Character.isBlank

@[simp]
theorem trimStart_nil (test : Char → Bool) : trimStart test [] = [] :=
  rfl

@[simp]
theorem trimEnd_nil (test : Char → Bool) : trimEnd test [] = [] :=
  rfl

theorem trim_eq_self {test : Char → Bool} {cs : List Char}
    (first : ∀ c ∈ cs.head?, test c = false) (last : ∀ c ∈ cs.getLast?, test c = false) :
    trim test cs = cs := by
  have startKept : trimStart test cs = cs := by
    cases cs with
    | nil => rfl
    | cons c cs => simp [trimStart, first c rfl]
  rw [trim, startKept, trimEnd]
  cases reversed : cs.reverse with
  | nil => simpa using reversed.symm
  | cons c ds =>
      have lastChar : cs.getLast? = some c := by
        rw [← List.head?_reverse, reversed]
        rfl
      rw [List.dropWhile_cons, last c lastChar, ← reversed]
      simp

end LayoutBinding
