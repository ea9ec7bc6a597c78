import LayoutBinding.Proofs.Expression.Embedding

/-!
# Texts that are joined

Another text can be written behind a text that ends in a blank.  What is read in the first
text ends where it ended before, for no expression ends in a blank and no reader looks
beyond the blank; and the second text is scanned as if it stood alone.
-/

namespace LayoutBinding

def EndsInBlank (cs : List Char) : Prop :=
  ∃ c ∈ cs.getLast?, Character.isBlank c = true

namespace EndsInBlank

open Expression Grammar

theorem ne_nil {cs : List Char} (ends : EndsInBlank cs) : cs ≠ [] := by
  rintro rfl
  obtain ⟨c, last, -⟩ := ends
  cases last

theorem of_append {before rest : List Char} (ends : EndsInBlank (before ++ rest))
    (given : rest ≠ []) : EndsInBlank rest := by
  rwa [EndsInBlank, List.getLast?_append_of_ne_nil _ given] at ends

theorem behind {word rest : List Char} (ends : EndsInBlank (word ++ rest))
    (mark : EndsInMark word) : EndsInBlank rest := by
  refine ends.of_append ?_
  rintro rfl
  obtain ⟨c, last, blank⟩ := ends
  obtain ⟨front, d, rfl, noBlank⟩ := mark
  rw [List.append_nil, List.getLast?_concat] at last
  cases last
  rw [noBlank] at blank
  cases blank

theorem tail {c : Char} {rest : List Char} (ends : EndsInBlank (c :: rest))
    (mark : Character.isBlank c = false) : EndsInBlank rest := by
  have split : EndsInBlank ([c] ++ rest) := ends
  exact split.behind ⟨[], c, rfl, mark⟩

theorem head?_append {cs : List Char} (ends : EndsInBlank cs) (more : List Char) :
    (cs ++ more).head? = cs.head? :=
  List.head?_append_of_ne_nil _ ends.ne_nil

theorem nameStarts_append {cs : List Char} (ends : EndsInBlank cs) (more : List Char) :
    nameStarts (cs ++ more) = nameStarts cs := by
  cases cs with
  | nil => exact absurd rfl ends.ne_nil
  | cons c cs => rfl

theorem endsRun_append {test : Char → Bool} {cs : List Char} (ends : EndsInBlank cs)
    (run : EndsRun test cs) (more : List Char) : EndsRun test (cs ++ more) := by
  rwa [EndsRun, ends.head?_append more]

theorem afterName {mark : Char} {name next : List Char}
    (ends : EndsInBlank (mark :: (name ++ next))) (named : NameAt name next) :
    EndsInBlank next := by
  have split : EndsInBlank (mark :: name ++ next) := ends
  exact split.behind ((endsInMark_of_nameAt named).append [mark])

theorem nameAt_append {name next : List Char} (ends : EndsInBlank next)
    (named : NameAt name next) (more : List Char) : NameAt name (next ++ more) :=
  nameAt_before named (ends.endsRun_append (nameAt_ends named) more)

end EndsInBlank

namespace Expression

open Grammar

/-! ### Expressions -/

/-- A call is read up to its closing bracket, and the steps after it are read next. -/
theorem exists_of_found_call {declared : List String} {name inside rest : List Char}
    {tree : List Step} (named : NameAt name ('(' :: inside))
    (reads : found (readSteps declared ('.' :: (name ++ '(' :: inside))) = some (tree, rest)) :
    ∃ word next arguments steps, inside = word ++ ')' :: next ∧
      ArgumentsAt declared word (')' :: next) arguments ∧
      found (readSteps declared next) = some (steps, rest) ∧
      tree = .call (String.ofList name) arguments :: steps := by
  rw [found_readSteps_of_call declared named] at reads
  obtain ⟨⟨arguments, next⟩, argumentsRead, reads⟩ := Option.bind_eq_some_iff.mp reads
  obtain ⟨⟨steps, last⟩, stepsRead, same⟩ := Option.map_eq_some_iff.mp reads
  cases same
  obtain ⟨word, split, derived⟩ := argumentsAt_of_found argumentsRead
  exact ⟨word, next, arguments, steps, split, derived, stepsRead, rfl⟩

theorem found_readSteps_of_argumentsAt {declared : List String}
    {name word next before : List Char} {arguments : List Argument}
    (named : NameAt name ('(' :: (word ++ ')' :: next)))
    (derived : ArgumentsAt declared word before arguments) :
    found (readSteps declared ('.' :: (name ++ '(' :: (word ++ ')' :: next)))) =
      (found (readSteps declared next)).map fun (steps, rest) =>
        (.call (String.ofList name) arguments :: steps, rest) := by
  rw [found_readSteps_of_call declared named, found_of_argumentsAt _ next derived]
  rfl

theorem found_readSteps_append {declared : List String} {input rest : List Char}
    {tree : List Step} (ends : EndsInBlank input)
    (reads : found (readSteps declared input) = some (tree, rest)) (more : List Char) :
    found (readSteps declared (input ++ more)) = some (tree, rest ++ more) := by
  by_cases goesOn : ∃ after, input = '.' :: after ∧ nameStarts after = true
  · obtain ⟨_, rfl, starts⟩ := goesOn
    obtain ⟨name, next, rfl, named⟩ := exists_nameAt starts
    have nextEnds := ends.afterName named
    have namedMore := nextEnds.nameAt_append named more
    by_cases call : next.head? = some '('
    · obtain ⟨inside, rfl⟩ := List.head?_eq_some_iff.mp call
      -- What stands between the brackets is closed, so it is read in the same way.
      obtain ⟨word, next, arguments, steps, rfl, derived, stepsRead, rfl⟩ :=
        exists_of_found_call named reads
      have afterEnds : EndsInBlank next := by
        have split : EndsInBlank ('(' :: (word ++ [')']) ++ next) := by simpa using nextEnds
        exact split.behind ⟨'(' :: word, ')', rfl, by decide⟩
      have short : next.length < ('.' :: (name ++ '(' :: (word ++ ')' :: next))).length := by
        simp only [List.length_cons, List.length_append]
        omega
      have stepsMore := found_readSteps_append afterEnds stepsRead more
      have split : '.' :: (name ++ '(' :: (word ++ ')' :: next)) ++ more =
          '.' :: (name ++ '(' :: (word ++ ')' :: (next ++ more))) := by
        simp
      have calls : NameAt name ('(' :: (word ++ ')' :: (next ++ more))) := by
        simpa using namedMore
      rw [split, found_readSteps_of_argumentsAt calls derived, stepsMore]
      rfl
    · rw [found_readSteps_of_field declared named call] at reads
      obtain ⟨⟨steps, last⟩, stepsRead, same⟩ := Option.map_eq_some_iff.mp reads
      cases same
      have short : next.length < ('.' :: (name ++ next)).length := by
        simp only [List.length_cons, List.length_append]
        omega
      have stepsMore := found_readSteps_append nextEnds stepsRead more
      rw [← nextEnds.head?_append more] at call
      rw [List.cons_append, List.append_assoc,
        found_readSteps_of_field declared namedMore call, stepsMore]
      rfl
  · have stop : ∀ after, input = '.' :: after → nameStarts after = false := by
      rintro after rfl
      exact Bool.eq_false_iff.mpr fun starts => goesOn ⟨after, rfl, starts⟩
    rw [found_readSteps_of_stop declared stop] at reads
    cases reads
    refine found_readSteps_of_stop declared fun behind same => ?_
    cases input with
    | nil => exact absurd rfl ends.ne_nil
    | cons c after =>
        obtain ⟨rfl, rfl⟩ := List.cons.inj same
        have afterEnds : EndsInBlank after := ends.tail (by decide)
        exact (afterEnds.nameStarts_append more).trans (stop after rfl)
termination_by input.length

theorem consumed_append_append {input rest : List Char} (short : rest.length ≤ input.length)
    (more : List Char) : consumed (input ++ more) (rest ++ more) = consumed input rest := by
  have count : (input ++ more).length - (rest ++ more).length = input.length - rest.length := by
    simp only [List.length_append]
    omega
  rw [consumed, consumed, count, List.take_append_of_le_length (Nat.sub_le _ _)]

/-- An expression that is read in a text that ends in a blank is read when more follows. -/
theorem found_readChain_append {declared : List String} {input rest : List Char}
    {expression : Expression} (ends : EndsInBlank input)
    (reads : found (readChain declared input) = some (expression, rest)) (more : List Char) :
    found (readChain declared (input ++ more)) = some (expression, rest ++ more) := by
  obtain ⟨short, -⟩ := found_eq_some_iff.mp reads
  obtain ⟨name, next, rfl, named⟩ := exists_of_found_readChain reads
  have nextEnds := ends.afterName named
  have namedMore := nextEnds.nameAt_append named more
  rw [found_readChain_of_name declared named] at reads
  split at reads
  next known =>
    obtain ⟨⟨steps, last⟩, stepsRead, same⟩ := Option.map_eq_some_iff.mp reads
    cases same
    have source := consumed_append_append (Nat.le_of_lt short) more
    rw [List.cons_append, List.append_assoc] at source ⊢
    rw [found_readChain_of_name declared namedMore, if_pos known,
      found_readSteps_append nextEnds stepsRead more]
    simp only [Option.map_some, source]
  next => cases reads

end Expression

namespace Segment

open Expression Grammar

/-! ### Literal runs -/

/-- Where no expression starts before a text, none starts there when more follows. -/
theorem PlainBefore.append {next run : List Char} (plain : PlainBefore next run)
    (ends : EndsInBlank (run ++ next)) (more : List Char) : PlainBefore (next ++ more) run := by
  induction plain with
  | nil => exact .nil
  | @pair cs _ ih =>
      have others : EndsInBlank (cs ++ next) := (ends.tail (by decide)).tail (by decide)
      exact .pair (ih others)
  | @alone cs noPair noName _ ih =>
      have others : EndsInBlank (cs ++ next) := ends.tail (by decide)
      refine .alone ?_ ?_ (ih others)
      · rwa [← List.append_assoc, others.head?_append more]
      · rwa [← List.append_assoc, others.nameStarts_append more]
  | @plain c cs noDollar _ ih =>
      by_cases given : cs ++ next = []
      · obtain ⟨rfl, rfl⟩ := List.append_eq_nil_iff.mp given
        exact .plain noDollar .nil
      · have split : EndsInBlank ([c] ++ (cs ++ next)) := ends
        exact .plain noDollar (ih (split.of_append given))

/-- A text in which no expression starts is the start of the literal run. -/
theorem literalRun_of_plainBefore {next run : List Char} (plain : PlainBefore next run) :
    literalRun (run ++ next) = (undoubled run ++ (literalRun next).1, (literalRun next).2) := by
  induction plain with
  | nil => rfl
  | pair _ ih => simp [literalRun, undoubled, ih]
  | @alone cs noPair noName _ ih =>
      have single : '$' = '$' → cs.head? ≠ some '$' := by
        rintro - doubled
        obtain ⟨ds, rfl⟩ := List.head?_eq_some_iff.mp doubled
        exact noPair rfl
      rw [undoubled_cons single, List.cons_append, List.cons_append]
      cases split : cs ++ next with
      | nil =>
          obtain ⟨rfl, rfl⟩ := List.append_eq_nil_iff.mp split
          rfl
      | cons d ds =>
          rw [split] at noPair noName ih
          have different : d ≠ '$' := by simpa using noPair
          have noStart : startsName d = false := noName
          simp [literalRun, different, noStart, ih]
  | @plain c cs noDollar _ ih =>
      have single : c = '$' → cs.head? ≠ some '$' := fun dollar => absurd dollar noDollar
      rw [undoubled_cons single, List.cons_append, literalRun_cons noDollar, ih]
      rfl

/-- In front of a text, a text in which no expression starts only makes the first literal run
longer. -/
theorem scanFrom_of_plainBefore {next run : List Char} (plain : PlainBefore next run)
    (declared : List String) (start : Nat) :
    ∃ stop segments failure,
      scanFrom declared start (run ++ next) =
          ⟨literal start stop (undoubled run ++ (literalRun next).1) ++ segments, failure⟩ ∧
        scanFrom declared (start + run.length) next =
          ⟨literal (start + run.length) stop (literalRun next).1 ++ segments, failure⟩ := by
  have bound := length_literalRun_le next
  have place : start + ((run ++ next).length - (literalRun next).2.length) =
      start + run.length + (next.length - (literalRun next).2.length) := by
    rw [List.length_append]
    omega
  rw [scanFrom_of_literalRun (literalRun_of_plainBefore plain), scanFrom_of_literalRun rfl]
  simp only [place]
  by_cases finished : (literalRun next).2 = []
  · simp only [if_pos finished]
    exact ⟨_, [], none, by rw [List.append_nil], by rw [List.append_nil]⟩
  · simp only [if_neg finished]
    cases parseFront declared
        (start + run.length + (next.length - (literalRun next).2.length)) (literalRun next).2 with
    | error e => exact ⟨_, [], some e, by rw [List.append_nil], by rw [List.append_nil]⟩
    | ok result =>
        obtain ⟨expression, rest, shorter⟩ := result
        have stop : start + ((run ++ next).length - rest.length) =
            start + run.length + (next.length - rest.length) := by
          rw [List.length_append]
          omega
        simp only [stop]
        exact ⟨_, _, _, rfl, rfl⟩

end Segment

end LayoutBinding
