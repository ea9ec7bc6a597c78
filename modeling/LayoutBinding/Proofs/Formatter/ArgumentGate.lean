import LayoutBinding.Proofs.Evaluation.SafeValues
import Mathlib.Data.List.Forall2

/-!
# The gate before a formatter

A formatter is run only with arguments of the types that it declares; otherwise the number of
arguments or the first argument from the left that does not suit is reported.  A truth value is a
whole number, too, but it suits neither where a whole number is declared nor where any value is.
The hints of blocks are gated by the same rule.
-/

namespace LayoutBinding

namespace Value

/-- Truth values are whole numbers, and like all values they are of the type of all values. -/
theorem isOf_truth_iff {b : Bool} {type : ValueType} :
    (Value.truth b).isOf type = true ↔ type ∈ [.truth, .whole, .any] := by
  simp [isOf, lineage]

end Value

namespace Formatter

/-! ### Arguments that suit -/

/-- A value is an instance of a declared type, and not a truth value where this is one of the
types that truth values are withheld from. -/
def Suits (withheld : List ValueType) (type : ValueType) (value : Value) : Prop :=
  value.isOf type = true ∧ (value.isTruth = true → type ∉ withheld)

/-- Truth values are withheld from whole numbers and from the type of all values. -/
theorem accepts_iff {type : ValueType} {value : Value} :
    accepts type value = true ↔ Suits [.whole, .any] type value := by
  rw [accepts, Suits, Bool.and_eq_true]
  refine and_congr_right fun instanceOf => ?_
  cases value with
  | truth b =>
      obtain rfl | rfl | rfl : type = .truth ∨ type = .whole ∨ type = .any := by
        simpa using Value.isOf_truth_iff.mp instanceOf
      all_goals simp [Value.isTruth]
  | _ => simp [Value.isTruth]

theorem takes_iff {types : List ValueType} {arguments : List Value} :
    Takes types arguments ↔ List.Forall₂ (Suits [.whole, .any]) types arguments := by
  simp only [Takes, accepts_iff]

/-- Only truth values where any value is declared do not suit because truth values are withheld
from the type of all values. -/
theorem Suits.eq_any {type : ValueType} {value : Value} (suits : Suits [.whole] type value)
    (withheld : ¬Suits [.whole, .any] type value) : type = .any ∧ ∃ b, value = .truth b := by
  obtain ⟨instanceOf, notWhole⟩ := suits
  rw [Suits, and_iff_right instanceOf, Classical.not_imp, not_not] at withheld
  obtain ⟨isTruth, among⟩ := withheld
  have other : type ∉ [ValueType.whole] := notWhole isTruth
  refine ⟨by simpa using (List.mem_cons.mp among).resolve_left (by simpa using other), ?_⟩
  cases value with
  | truth b => exact ⟨b, rfl⟩
  | _ => cases isTruth

theorem Suits.whole {type : ValueType} {value : Value} (suits : Suits [.whole, .any] type value) :
    Suits [.whole] type value :=
  ⟨suits.1, fun isTruth among =>
    suits.2 isTruth (List.mem_cons.mpr ((List.mem_cons.mp among).imp_right nofun))⟩

theorem suits_any_truth (b : Bool) : Suits [.whole] .any (.truth b) :=
  ⟨Value.isOf_truth_iff.mpr (by simp), fun _ => by simp⟩

/-! ### The first argument that does not suit -/

/-- The first argument from the left that does not suit the type declared for it. -/
structure IsFirstRefused (withheld types : List ValueType) (arguments : List Value)
    (position : Nat) (expected : ValueType) (argument : Value) : Prop where
  /-- The type is declared at the position. -/
  declared : types[position]? = some expected
  given : arguments[position]? = some argument
  /-- The argument does not suit. -/
  refused : ¬Suits withheld expected argument
  /-- All arguments before it suit. -/
  earlier : List.Forall₂ (Suits withheld) (types.take position) (arguments.take position)

variable {withheld types : List ValueType} {arguments : List Value} {position : Nat}
  {type expected : ValueType} {first argument : Value}

theorem isFirstRefused_cons_zero :
    IsFirstRefused withheld (type :: types) (first :: arguments) 0 expected argument ↔
      (type = expected ∧ first = argument) ∧ ¬Suits withheld expected argument := by
  constructor
  · rintro ⟨declared, given, refused, -⟩
    exact ⟨⟨Option.some.inj declared, Option.some.inj given⟩, refused⟩
  · rintro ⟨⟨rfl, rfl⟩, refused⟩
    exact ⟨rfl, rfl, refused, .nil⟩

theorem isFirstRefused_cons_succ :
    IsFirstRefused withheld (type :: types) (first :: arguments) (position + 1) expected argument ↔
      Suits withheld type first ∧
        IsFirstRefused withheld types arguments position expected argument := by
  constructor
  · rintro ⟨declared, given, refused, earlier⟩
    obtain ⟨suits, earlier⟩ := List.forall₂_cons.mp earlier
    exact ⟨suits, declared, given, refused, earlier⟩
  · rintro ⟨suits, declared, given, refused, earlier⟩
    exact ⟨declared, given, refused, .cons suits earlier⟩

/-- The first argument that is not accepted is the first that does not suit. -/
theorem firstRefused_eq_some_iff {start number : Nat} :
    firstRefused start types arguments = some (number, expected, argument) ↔
      ∃ position, number = start + position ∧
        IsFirstRefused [.whole, .any] types arguments position expected argument := by
  induction types generalizing arguments start with
  | nil => exact iff_of_false nofun fun ⟨_, _, first⟩ => by cases first.declared
  | cons type types ih =>
      cases arguments with
      | nil => exact iff_of_false nofun fun ⟨_, _, first⟩ => by cases first.given
      | cons first arguments =>
          rw [firstRefused, ← Nat.or_exists_add_one]
          simp only [isFirstRefused_cons_zero, isFirstRefused_cons_succ]
          by_cases suits : Suits [.whole, .any] type first
          · rw [if_pos (accepts_iff.mpr suits), ih]
            simp only [Nat.add_assoc, Nat.add_comm 1, suits, true_and]
            refine (or_iff_right ?_).symm
            rintro ⟨-, ⟨rfl, rfl⟩, refused⟩
            exact refused suits
          · rw [if_neg (mt accepts_iff.mp suits), Option.some.injEq, Prod.mk.injEq, Prod.mk.injEq]
            simp only [suits, false_and, and_false, exists_false, or_false]
            constructor
            · rintro ⟨rfl, rfl, rfl⟩
              exact ⟨rfl, ⟨rfl, rfl⟩, suits⟩
            · rintro ⟨rfl, same, -⟩
              exact ⟨rfl, same⟩

theorem suits_of_forall₂ (all : List.Forall₂ (Suits withheld) types arguments)
    (declared : types[position]? = some expected) (given : arguments[position]? = some argument) :
    Suits withheld expected argument := by
  obtain ⟨inTypes, declared⟩ := List.getElem?_eq_some_iff.mp declared
  obtain ⟨inArguments, given⟩ := List.getElem?_eq_some_iff.mp given
  have suits := all.get inTypes inArguments
  rwa [List.get_eq_getElem, List.get_eq_getElem, declared, given] at suits

theorem IsFirstRefused.not_forall₂
    (first : IsFirstRefused withheld types arguments position expected argument) :
    ¬List.Forall₂ (Suits withheld) types arguments :=
  fun all => first.refused (suits_of_forall₂ all first.declared first.given)

/-- Where the number of arguments is right and not all of them suit, one is the first that does
not. -/
theorem exists_isFirstRefused (count : arguments.length = types.length)
    (refused : ¬List.Forall₂ (Suits [.whole, .any]) types arguments) :
    ∃ position expected argument,
      IsFirstRefused [.whole, .any] types arguments position expected argument := by
  cases first : firstRefused 1 types arguments with
  | none => exact absurd (takes_iff.mp (takes_of_firstRefused first count)) refused
  | some found =>
      obtain ⟨number, expected, argument⟩ := found
      obtain ⟨position, -, first⟩ := firstRefused_eq_some_iff.mp first
      exact ⟨position, expected, argument, first⟩

/-! ### What the gate does -/

/-- The formatter with another operation. -/
def doing (formatter : Formatter) (operation : Operation) : Formatter :=
  { formatter with operation }

/-- Whatever the formatter does is done with the arguments. -/
def Runs (formatter : Formatter) (arguments : List Value) : Prop :=
  ∀ operation context value, (formatter.doing operation).apply context value arguments =
    (formatter.doing operation).run context value arguments

/-- Whatever the formatter does, it is not done with the arguments; there is an error of the kind
instead. -/
def Refuses (formatter : Formatter) (arguments : List Value) (kind : EvalKind) (cause : Cause) :
    Prop :=
  cause.kind = .evaluation kind ∧
    ∀ operation context value,
      (formatter.doing operation).apply context value arguments = .refuse cause

/-- Before a formatter is run, its arguments are counted and compared with the types that are
declared for them, from the left. -/
structure IsGatedBy (withheld : List ValueType) (formatter : Formatter)
    (arguments : List Value) : Prop where
  /-- The formatter is run exactly if all arguments suit. -/
  runs : formatter.Runs arguments ↔
    List.Forall₂ (Suits withheld) formatter.argumentTypes arguments
  /-- Another number of arguments is refused first. -/
  counts : arguments.length ≠ formatter.arity →
    formatter.Refuses arguments .unknownMethod
      (.argumentCount formatter.name formatter.arity arguments.length)
  /-- Otherwise the first argument that does not suit is named. -/
  types : arguments.length = formatter.arity → ¬formatter.Runs arguments →
    ∃ position expected argument,
      IsFirstRefused withheld formatter.argumentTypes arguments position expected argument ∧
        formatter.Refuses arguments .badArgument
          (.argumentType (position + 1) formatter.name expected.name argument.typeName)

variable {formatter : Formatter} {kind otherKind : EvalKind} {cause other : Cause}

theorem runs_of_check (checked : formatter.check arguments = .ok ()) :
    formatter.Runs arguments := by
  intro operation context value
  have same : (formatter.doing operation).check arguments = .ok () := checked
  rw [apply, same]
  rfl

theorem refuses_of_check (checked : formatter.check arguments = .refuse cause)
    (sort : cause.kind = .evaluation kind) : formatter.Refuses arguments kind cause := by
  refine ⟨sort, fun operation context value => ?_⟩
  have same : (formatter.doing operation).check arguments = .refuse cause := checked
  rw [apply, same]
  rfl

/-- An operation that always succeeds shows whether the formatter is run. -/
theorem Refuses.not_runs (refuses : formatter.Refuses arguments kind cause) :
    ¬formatter.Runs arguments := by
  intro runs
  let answer : Operation := .custom "" fun _ _ _ => .ok .absent
  let context : Context := ⟨[], none, .default⟩
  have same := (runs answer context .absent).symm.trans (refuses.2 answer context .absent)
  cases same

theorem Refuses.unique (refuses : formatter.Refuses arguments kind cause)
    (again : formatter.Refuses arguments otherKind other) : cause = other := by
  let answer : Operation := .custom "" fun _ _ _ => .ok .absent
  let context : Context := ⟨[], none, .default⟩
  have same := (refuses.2 answer context .absent).symm.trans (again.2 answer context .absent)
  cases same
  rfl

theorem refuses_of_count (formatter : Formatter) (differs : arguments.length ≠ formatter.arity) :
    formatter.Refuses arguments .unknownMethod
      (.argumentCount formatter.name formatter.arity arguments.length) :=
  refuses_of_check (if_pos differs) rfl

theorem runs_of_forall₂
    (all : List.Forall₂ (Suits [.whole, .any]) formatter.argumentTypes arguments) :
    formatter.Runs arguments := by
  have count : arguments.length = formatter.arity := all.length_eq.symm
  apply runs_of_check
  rw [check, if_neg (not_not.mpr count)]
  cases refused : firstRefused 1 formatter.argumentTypes arguments with
  | none => rfl
  | some found =>
      obtain ⟨number, expected, argument⟩ := found
      obtain ⟨position, -, first⟩ := firstRefused_eq_some_iff.mp refused
      exact absurd all first.not_forall₂

theorem refuses_of_isFirstRefused (count : arguments.length = formatter.arity)
    (first : IsFirstRefused [.whole, .any] formatter.argumentTypes arguments position expected
      argument) :
    formatter.Refuses arguments .badArgument
      (.argumentType (position + 1) formatter.name expected.name argument.typeName) := by
  have refused : firstRefused 1 formatter.argumentTypes arguments =
      some (position + 1, expected, argument) :=
    firstRefused_eq_some_iff.mpr ⟨position, Nat.add_comm position 1, first⟩
  refine refuses_of_check ?_ rfl
  rw [check, if_neg (not_not.mpr count), refused]

theorem refuses_of_not_forall₂ (count : arguments.length = formatter.arity)
    (refused : ¬List.Forall₂ (Suits [.whole, .any]) formatter.argumentTypes arguments) :
    ∃ position expected argument,
      IsFirstRefused [.whole, .any] formatter.argumentTypes arguments position expected argument ∧
        formatter.Refuses arguments .badArgument
          (.argumentType (position + 1) formatter.name expected.name argument.typeName) := by
  obtain ⟨position, expected, argument, first⟩ := exists_isFirstRefused count refused
  exact ⟨position, expected, argument, first, refuses_of_isFirstRefused count first⟩

theorem isGatedBy (formatter : Formatter) (arguments : List Value) :
    IsGatedBy [.whole, .any] formatter arguments := by
  refine ⟨⟨fun runs => ?_, runs_of_forall₂⟩, refuses_of_count formatter, fun count stays =>
    refuses_of_not_forall₂ count (mt runs_of_forall₂ stays)⟩
  by_contra refused
  by_cases count : arguments.length = formatter.arity
  · obtain ⟨_, _, _, -, refuses⟩ := refuses_of_not_forall₂ count refused
    exact refuses.not_runs runs
  · exact (refuses_of_count formatter count).not_runs runs

/-- The first argument refused is a truth value where any value is declared. -/
def RefusesTruth (formatter : Formatter) (arguments : List Value) : Prop :=
  arguments.length = formatter.arity ∧ ∃ position b,
    IsFirstRefused [.whole, .any] formatter.argumentTypes arguments position .any (.truth b)

/-- To withhold truth values from whole numbers alone would make no difference where no truth
value is the first argument refused although any value is declared. -/
theorem isGatedBy_whole_iff (formatter : Formatter) (arguments : List Value) :
    IsGatedBy [.whole] formatter arguments ↔ ¬formatter.RefusesTruth arguments := by
  constructor
  · rintro gated ⟨count, position, b, first⟩
    -- The error names this position, but by the other rule the argument there suits.
    have refuses := refuses_of_isFirstRefused count first
    obtain ⟨again, expected, argument, whole, named⟩ := gated.types count refuses.not_runs
    obtain rfl : position = again := by
      have same := refuses.unique named
      injection same with number
      exact Nat.succ.inj number
    obtain rfl := Option.some.inj (first.declared.symm.trans whole.declared)
    obtain rfl := Option.some.inj (first.given.symm.trans whole.given)
    exact whole.refused (suits_any_truth b)
  · intro never
    have unsuited {position : Nat} {expected : ValueType} {argument : Value}
        (count : arguments.length = formatter.arity)
        (first : IsFirstRefused [.whole, .any] formatter.argumentTypes arguments position expected
          argument) : ¬Suits [.whole] expected argument := by
      intro suits
      obtain ⟨rfl, b, rfl⟩ := suits.eq_any first.refused
      exact never ⟨count, position, b, first⟩
    have gated := isGatedBy formatter arguments
    refine ⟨gated.runs.trans ⟨fun all => all.imp fun _ _ => .whole, fun all => ?_⟩, gated.counts,
      fun count stays => ?_⟩
    · by_contra refused
      have count : arguments.length = formatter.arity := all.length_eq.symm
      obtain ⟨position, expected, argument, first⟩ := exists_isFirstRefused count refused
      exact unsuited count first (suits_of_forall₂ all first.declared first.given)
    · obtain ⟨position, expected, argument, first, refuses⟩ := gated.types count stays
      exact ⟨position, expected, argument, ⟨first.declared, first.given, unsuited count first,
        first.earlier.imp fun _ _ => .whole⟩, refuses⟩

/-! ### Hints of blocks -/

/-- The value of a hint passes if it is the only argument and suits. -/
structure HintIsGatedBy (withheld : List ValueType) (name : String) (expected : ValueType)
    (answer : List Value → Outcome Value) : Prop where
  /-- A value that suits becomes a hint. -/
  accepts : ∀ value, answer [value] = .ok (.hint name value) ↔ Suits withheld expected value
  /-- Another value is refused. -/
  refuses : ∀ value, ¬Suits withheld expected value →
    answer [value] = .refuse (.hintType "block" name expected.name value.typeName)
  /-- Another number of values is refused. -/
  counts : ∀ arguments, arguments.length ≠ 1 →
    answer arguments = .refuse (.noMethod "block" name arguments.length)

theorem hintIsGatedBy {hints : List (String × ValueType)} {name : String}
    (known : Entries.get? hints name = some expected) :
    HintIsGatedBy [.whole, .any] name expected (Value.callBlocks hints name) := by
  have refuses (value : Value) (refused : ¬Suits [.whole, .any] expected value) :
      Value.callBlocks hints name [value] =
        .refuse (.hintType "block" name expected.name value.typeName) := by
    simp only [Value.callBlocks, known, Value.soleArgument]
    rw [if_neg (mt accepts_iff.mp refused)]
    rfl
  refine ⟨fun value => ⟨fun answer => ?_, fun suits => ?_⟩, refuses, fun arguments count => ?_⟩
  · by_contra refused
    rw [refuses value refused] at answer
    cases answer
  · simp only [Value.callBlocks, known, Value.soleArgument]
    rw [if_pos (accepts_iff.mpr suits)]
    rfl
  · rw [Value.callBlocks, known]
    cases arguments with
    | nil => rfl
    | cons first others =>
        cases others with
        | nil => exact absurd rfl count
        | cons second others => rfl

/-- Any value but a truth value can be a hint of which any value is declared. -/
theorem hintIsGatedBy_whole_iff {hints : List (String × ValueType)} {name : String}
    (known : Entries.get? hints name = some expected) :
    HintIsGatedBy [.whole] name expected (Value.callBlocks hints name) ↔ expected ≠ .any := by
  have gated := hintIsGatedBy known
  constructor
  · rintro whole rfl
    have accepted := (gated.accepts _).mp ((whole.accepts _).mpr (suits_any_truth true))
    exact accepted.2 rfl (by simp)
  · intro other
    have same (value : Value) :
        Suits [.whole, .any] expected value ↔ Suits [.whole] expected value :=
      ⟨.whole, fun suits => by_contra fun refused => other (suits.eq_any refused).1⟩
    exact ⟨fun value => (gated.accepts value).trans (same value),
      fun value refused => gated.refuses value (mt (same value).mp refused), gated.counts⟩

/-- A formatter is run, whatever it does, exactly if each argument is of the type declared for it
and no truth value stands where a whole number or any value is declared.  Otherwise a wrong number
of arguments is reported, and else the first argument from the left that does not suit.  The
values of hints are gated by the same rule.  To withhold truth values from whole numbers alone
would make a difference exactly where a truth value is the first argument refused although any
value is declared, and for the hints of which any value is declared. -/
theorem arguments_gated (formatter : Formatter) (arguments : List Value) :
    IsGatedBy [.whole, .any] formatter arguments ∧
      (IsGatedBy [.whole] formatter arguments ↔ ¬formatter.RefusesTruth arguments) ∧
      ∀ tools context hints name expected, Entries.get? hints name = some expected →
        let answer := Value.call tools context (.blocks hints) name
        HintIsGatedBy [.whole, .any] name expected answer ∧
          (HintIsGatedBy [.whole] name expected answer ↔ expected ≠ .any) :=
  ⟨isGatedBy formatter arguments, isGatedBy_whole_iff formatter arguments,
    fun _ _ _ _ _ known => ⟨hintIsGatedBy known, hintIsGatedBy_whole_iff known⟩⟩

/-- A formatter of texts that takes any value. -/
def tagWithAny : Formatter :=
  ⟨.text, "tag", .custom "args" fun _ _ arguments => .ok (.list arguments), [.any], ""⟩

/-- A truth value is refused where any value is declared, by a formatter and for a hint. -/
theorem truth_refused_for_any :
    Suits [.whole] .any (.truth true) ∧
      tagWithAny.Refuses [.truth true] .badArgument (.argumentType 1 "tag" "object" "bool") ∧
      ¬IsGatedBy [.whole] tagWithAny [.truth true] ∧
      ¬HintIsGatedBy [.whole] "any" .any (Value.callBlocks [("any", .any)] "any") := by
  have suits := suits_any_truth true
  have refuses : tagWithAny.Refuses [.truth true] .badArgument
      (.argumentType 1 "tag" "object" "bool") :=
    ⟨rfl, fun _ _ _ => rfl⟩
  refine ⟨suits, refuses, fun gated => ?_, fun gated => ?_⟩
  · exact refuses.not_runs (gated.runs.mpr (.cons suits .nil))
  · cases (gated.accepts (.truth true)).mpr suits

end Formatter

end LayoutBinding
