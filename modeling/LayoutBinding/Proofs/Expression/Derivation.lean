import LayoutBinding.Proofs.Expression.Reading

/-!
# Readings and derivations

What the readers find is derived by the grammar, and what the grammar derives is
found, whatever text follows it, as long as that text cannot continue the chain.
-/

namespace LayoutBinding

namespace Expression

open Grammar

theorem append_dropWhile_blanks (cs : List Char) :
    ∃ blanks, cs = blanks ++ cs.dropWhile Character.isBlank ∧ Blanks blanks :=
  ⟨cs.takeWhile Character.isBlank, List.takeWhile_append_dropWhile.symm, mem_takeWhile⟩

-- A reader calls another one on the same input, so the measure orders the readers of
-- inputs of one length, too: chain, then steps and argument, then list, then arguments.
mutual

/-- What is read as a chain is one by the grammar. -/
theorem chainAt_of_found {declared : List String} {input rest : List Char}
    {expression : Expression}
    (reads : found (readChain declared input) = some (expression, rest)) :
    ∃ word, input = word ++ rest ∧ ChainAt declared word rest expression := by
  obtain ⟨name, next, rfl, named⟩ := exists_of_found_readChain reads
  rw [found_readChain_of_name declared named] at reads
  split at reads
  next known =>
    obtain ⟨⟨steps, last⟩, stepsRead, same⟩ := Option.map_eq_some_iff.mp reads
    cases same
    obtain ⟨word, rfl, derived⟩ := stepsAt_of_found stepsRead
    have split : '$' :: (name ++ (word ++ rest)) = '$' :: (name ++ word) ++ rest := by simp
    refine ⟨'$' :: (name ++ word), split, ?_⟩
    rw [split, consumed_append]
    exact .intro named known derived
  next => cases reads
termination_by 4 * input.length

theorem stepsAt_of_found {declared : List String} {input rest : List Char}
    {tree : List Step}
    (reads : found (readSteps declared input) = some (tree, rest)) :
    ∃ word, input = word ++ rest ∧ StepsAt declared word rest tree := by
  by_cases goesOn : ∃ after, input = '.' :: after ∧ nameStarts after = true
  · obtain ⟨after, rfl, starts⟩ := goesOn
    obtain ⟨name, next, rfl, named⟩ := exists_nameAt starts
    by_cases call : next.head? = some '('
    · obtain ⟨inside, rfl⟩ := List.head?_eq_some_iff.mp call
      rw [found_readSteps_of_call declared named] at reads
      obtain ⟨⟨arguments, middle⟩, argumentsRead, stepsRead⟩ :=
        Option.bind_eq_some_iff.mp reads
      obtain ⟨⟨steps, last⟩, stepsRead, same⟩ := Option.map_eq_some_iff.mp stepsRead
      cases same
      obtain ⟨between, rfl, argumentsDerived⟩ := argumentsAt_of_found argumentsRead
      obtain ⟨word, rfl, stepsDerived⟩ := stepsAt_of_found stepsRead
      refine ⟨'.' :: ((name ++ '(' :: (between ++ [')'])) ++ word), by simp, ?_⟩
      exact .cons (.call named argumentsDerived) stepsDerived
    · rw [found_readSteps_of_field declared named call] at reads
      obtain ⟨⟨steps, last⟩, stepsRead, same⟩ := Option.map_eq_some_iff.mp reads
      cases same
      obtain ⟨word, rfl, derived⟩ := stepsAt_of_found stepsRead
      exact ⟨'.' :: (name ++ word), by simp, .cons (.field named) derived⟩
  · have stop : ∀ after, input = '.' :: after → nameStarts after = false := by
      intro after split
      exact Bool.eq_false_iff.mpr fun starts => goesOn ⟨after, split, starts⟩
    rw [found_readSteps_of_stop declared stop] at reads
    cases reads
    exact ⟨[], rfl, .nil⟩
termination_by 4 * input.length + 1

theorem argumentsAt_of_found {declared : List String} {name : String}
    {input rest : List Char} {arguments : List Argument}
    (reads : found (readArguments declared name input) = some (arguments, rest)) :
    ∃ word, input = word ++ ')' :: rest ∧
      ArgumentsAt declared word (')' :: rest) arguments := by
  obtain ⟨blanks, split, blank⟩ := append_dropWhile_blanks input
  by_cases closing : (input.dropWhile Character.isBlank).head? = some ')'
  · obtain ⟨after, same⟩ := List.head?_eq_some_iff.mp closing
    rw [found_readArguments_of_closing declared name same] at reads
    cases reads
    exact ⟨blanks, by rw [← same]; exact split, .none blank⟩
  · have bound := length_dropWhile_le Character.isBlank input
    rw [found_readArguments_of_not_closing declared name closing] at reads
    obtain ⟨list, after, same, blankAfter, derived⟩ := argumentListAt_of_found reads
    refine ⟨blanks ++ (list ++ after), ?_, .some blank blankAfter derived⟩
    rw [List.append_assoc, List.append_assoc, ← same]
    exact split
termination_by 4 * input.length + 3

theorem argumentListAt_of_found {declared : List String} {name : String}
    {input rest : List Char} {arguments : List Argument}
    (reads : found (readMoreArguments declared name input) = some (arguments, rest)) :
    ∃ list after, input = list ++ (after ++ ')' :: rest) ∧ Blanks after ∧
      ArgumentListAt declared list (after ++ ')' :: rest) arguments := by
  rw [found_readMoreArguments] at reads
  obtain ⟨⟨argument, next⟩, argumentRead, continued⟩ := Option.bind_eq_some_iff.mp reads
  obtain ⟨word, rfl, derived⟩ := argumentAt_of_found argumentRead
  obtain ⟨before, nextEq, blankBefore⟩ := append_dropWhile_blanks next
  dsimp only at continued
  split at continued
  next => cases continued
  next c after left =>
    rw [left] at nextEq
    split at continued
    next comma =>
      subst comma
      obtain ⟨⟨others, last⟩, othersRead, same⟩ := Option.map_eq_some_iff.mp continued
      cases same
      obtain ⟨blanks, afterEq, blank⟩ := append_dropWhile_blanks after
      have shorter : (after.dropWhile Character.isBlank).length < (word ++ next).length := by
        have bound := length_dropWhile_le Character.isBlank after
        rw [nextEq]
        simp only [List.length_append, List.length_cons]
        omega
      obtain ⟨list, closing, listEq, blankClosing, othersDerived⟩ :=
        argumentListAt_of_found othersRead
      have split : next = before ++ ',' :: (blanks ++ (list ++ (closing ++ ')' :: last))) := by
        rw [← listEq, ← afterEq]
        exact nextEq
      rw [split] at derived
      refine ⟨word ++ (before ++ ',' :: (blanks ++ list)), closing, ?_, blankClosing, ?_⟩
      · simp [split]
      · exact .cons derived blankBefore blank othersDerived
    next =>
      split at continued
      next closing =>
        subst closing
        cases continued
        rw [nextEq] at derived
        exact ⟨word, before, by rw [nextEq], blankBefore, .last derived⟩
      next => cases continued
termination_by 4 * input.length + 2

theorem argumentAt_of_found {declared : List String} {input rest : List Char}
    {argument : Argument}
    (reads : found (readArgument declared input) = some (argument, rest)) :
    ∃ word, input = word ++ rest ∧ ArgumentAt declared word rest argument := by
  rcases argumentAt_or_chain_of_found reads with derived | ⟨expression, rfl, chainRead⟩
  · exact derived
  · obtain ⟨word, split, derived⟩ := chainAt_of_found chainRead
    exact ⟨word, split, .nested derived⟩
termination_by 4 * input.length + 1

end

/-! ### What is derived is found -/

theorem stops_nil : Stops [] where
  noName := by simp [EndsRun]
  noBracket := by simp
  noStep := by simp

theorem endsRun_cons {test : Char → Bool} {c : Char} (outside : test c = false)
    (cs : List Char) :
    EndsRun test (c :: cs) := by
  intro d first
  cases first
  exact outside

theorem continuesName_mark (c : Char) (mark : c ∈ [',', ')', '(', '.']) :
    continuesName c = false := by
  have marks : [',', ')', '(', '.'].all fun mark => !continuesName mark := by decide +kernel
  simpa using List.all_eq_true.mp marks c mark

theorem continuesNumber_mark (c : Char) (mark : c ∈ [',', ')']) :
    continuesNumber c = false := by
  have marks : [',', ')'].all fun mark => !continuesNumber mark := by decide +kernel
  simpa using List.all_eq_true.mp marks c mark

/-- Blanks and a comma or a closing bracket end a chain and a number. -/
theorem stops_of_separator {blanks : List Char} (blank : Blanks blanks) {c : Char}
    (separator : c = ',' ∨ c = ')') (cs : List Char) :
    Stops (blanks ++ c :: cs) ∧ EndsRun continuesNumber (blanks ++ c :: cs) := by
  cases blanks with
  | nil =>
      have noName : continuesName c = false := by
        apply continuesName_mark
        rcases separator with rfl | rfl <;> simp
      have noNumber : continuesNumber c = false := by
        apply continuesNumber_mark
        rcases separator with rfl | rfl <;> simp
      refine ⟨⟨endsRun_cons noName cs, ?_, ?_⟩, endsRun_cons noNumber cs⟩
      · rcases separator with rfl | rfl <;> simp
      · rcases separator with rfl | rfl <;> simp
  | cons d ds =>
      have blankHead : Character.isBlank d = true := blank d (by simp)
      have notBracket : d ≠ '(' := by
        rintro rfl
        exact absurd blankHead (by decide)
      have notPoint : d ≠ '.' := by
        rintro rfl
        exact absurd blankHead (by decide)
      have noNumber : continuesNumber d = false := by
        simp [continuesNumber, isDigit_eq_false_of_isBlank blankHead, notPoint]
      refine ⟨⟨?_, ?_, ?_⟩, endsRun_cons noNumber _⟩
      · exact endsRun_cons (continuesName_eq_false_of_isBlank blankHead) _
      · simpa using notBracket
      · intro after same
        exact absurd (List.cons.inj same).1 notPoint

theorem stepsAt_stops {declared : List String} {steps before next : List Char}
    {tree : List Step} (derived : StepsAt declared steps before tree) (stops : Stops next) :
    EndsRun continuesName (steps ++ next) ∧ (steps ++ next).head? ≠ some '(' := by
  cases derived with
  | nil => exact ⟨stops.noName, stops.noBracket⟩
  | cons first others => exact ⟨endsRun_cons (continuesName_mark '.' (by simp)) _, by simp⟩

theorem dropWhile_blanks_append {blanks next : List Char} (blank : Blanks blanks)
    (ends : EndsRun Character.isBlank next) :
    (blanks ++ next).dropWhile Character.isBlank = next :=
  dropWhile_append_of_endsRun blank ends

theorem chainAt_head {declared : List String} {word before : List Char}
    {expression : Expression} (derived : ChainAt declared word before expression) :
    ∃ cs, word = '$' :: cs := by
  cases derived with
  | intro _ _ _ => exact ⟨_, rfl⟩

theorem numberAt_head {word before : List Char} {value : Literal}
    (written : NumberAt word before value) :
    ∃ c cs, word = c :: cs ∧ Character.isBlank c = false ∧ c ≠ ')' := by
  have starts := numberStarts_append written []
  rw [List.append_nil] at starts
  cases word with
  | nil => simp [numberStarts] at starts
  | cons c cs =>
      have digitOrMark : Character.isDigit c = true ∨ c ∈ ['-', '+', '.'] := by
        simp only [numberStarts, Bool.or_eq_true, Bool.and_eq_true, decide_eq_true_eq] at starts
        rcases starts with digit | ⟨(rfl | rfl) | rfl, _⟩
        · exact .inl digit
        all_goals simp
      refine ⟨c, cs, rfl, ?_, ?_⟩
      · rcases digitOrMark with digit | mark
        · refine Bool.eq_false_iff.mpr fun blank => ?_
          simp [isDigit_eq_false_of_isBlank blank] at digit
        · have marks : ['-', '+', '.'].all fun mark => !Character.isBlank mark := by decide
          simpa using List.all_eq_true.mp marks c mark
      · rintro rfl
        exact absurd digitOrMark (by decide)

/-- An argument starts with neither a blank nor a closing bracket. -/
theorem argumentAt_head {declared : List String} {word before : List Char}
    {argument : Argument} (derived : ArgumentAt declared word before argument) :
    ∃ c cs, word = c :: cs ∧ Character.isBlank c = false ∧ c ≠ ')' := by
  cases derived with
  | string quoted =>
      cases quoted with
      | intro isQuote quotes =>
          rcases isQuote with rfl | rfl
          · exact ⟨'"', _, rfl, by decide, by decide⟩
          · exact ⟨'\'', _, rfl, by decide, by decide⟩
  | number written => exact numberAt_head written
  | truth named spelled =>
      subst spelled
      exact ⟨'t', _, rfl, by decide, by decide⟩
  | falsehood named spelled =>
      subst spelled
      exact ⟨'f', _, rfl, by decide, by decide⟩
  | nested derived =>
      obtain ⟨cs, rfl⟩ := chainAt_head derived
      exact ⟨'$', cs, rfl, by decide, by decide⟩

theorem argumentListAt_head {declared : List String} {list before : List Char}
    {arguments : List Argument} (derived : ArgumentListAt declared list before arguments) :
    ∃ c cs, list = c :: cs ∧ Character.isBlank c = false ∧ c ≠ ')' := by
  cases derived with
  | last derived => exact argumentAt_head derived
  | cons first _ _ _ =>
      obtain ⟨c, cs, rfl, notBlank, notClosing⟩ := argumentAt_head first
      exact ⟨c, _, rfl, notBlank, notClosing⟩

-- The recursion is on the derivation.  The text after a word is generalized: inside
-- brackets it starts with the separator that the grammar puts there.
mutual

/-- A derived chain is found before every text that cannot continue it. -/
theorem found_of_chainAt {declared : List String} {next : List Char} (stops : Stops next) :
    {word before : List Char} → {expression : Expression} →
      ChainAt declared word before expression →
        found (readChain declared (word ++ next)) = some (expression, next)
  | _, _, _, @ChainAt.intro _ name steps _ tree named known derived => by
      have ends := (stepsAt_stops derived stops).1
      have split : '$' :: (name ++ (steps ++ next)) = '$' :: (name ++ steps) ++ next := by simp
      rw [← split, found_readChain_of_name declared (nameAt_before named ends),
        if_pos known, found_of_stepsAt stops derived, split]
      simp only [Option.map_some, consumed_append]

theorem found_of_stepsAt {declared : List String} {next : List Char} (stops : Stops next) :
    {word before : List Char} → {tree : List Step} → StepsAt declared word before tree →
      found (readSteps declared (word ++ next)) = some (tree, next)
  | _, _, _, .nil => found_readSteps_of_stop declared stops.noStep
  | _, _, _, .cons first others => by
      obtain ⟨ends, noCall⟩ := stepsAt_stops others stops
      rw [List.cons_append, List.append_assoc, found_of_segmentAt ends noCall first,
        found_of_stepsAt stops others]
      rfl

/-- A derived segment is found before what does not go on with it, and the steps
after it are read next. -/
theorem found_of_segmentAt {declared : List String} {next : List Char}
    (ends : EndsRun continuesName next) (noCall : next.head? ≠ some '(') :
    {word before : List Char} → {step : Step} → SegmentAt declared word before step →
      found (readSteps declared ('.' :: (word ++ next))) =
        (found (readSteps declared next)).map fun (steps, rest) => (step :: steps, rest)
  | _, _, _, .field named =>
      found_readSteps_of_field declared (nameAt_before named ends) noCall
  | _, _, _, @SegmentAt.call _ name inside _ arguments named derived => by
      have opened : EndsRun continuesName ('(' :: (inside ++ ')' :: next)) :=
        endsRun_cons (continuesName_mark '(' (by simp)) _
      have split : name ++ '(' :: (inside ++ [')']) ++ next =
          name ++ '(' :: (inside ++ ')' :: next) := by simp
      rw [split, found_readSteps_of_call declared (nameAt_before named opened),
        found_of_argumentsAt (String.ofList name) next derived, Option.bind_some]

theorem found_of_argumentsAt {declared : List String} (name : String) (next : List Char) :
    {word before : List Char} → {arguments : List Argument} →
      ArgumentsAt declared word before arguments →
        found (readArguments declared name (word ++ ')' :: next)) = some (arguments, next)
  | _, _, _, .none blank => by
      apply found_readArguments_of_closing
      exact dropWhile_blanks_append blank (endsRun_cons (by decide) next)
  | _, _, _, @ArgumentsAt.some _ opening list closing _ _ blankBefore blankAfter derived => by
      have skipped : (opening ++ (list ++ closing) ++ ')' :: next).dropWhile
          Character.isBlank = list ++ (closing ++ ')' :: next) := by
        obtain ⟨c, cs, rfl, notBlank, _⟩ := argumentListAt_head derived
        rw [List.append_assoc, List.append_assoc]
        exact dropWhile_blanks_append blankBefore (endsRun_cons notBlank _)
      have notClosing : (list ++ (closing ++ ')' :: next)).head? ≠ some ')' := by
        obtain ⟨c, cs, rfl, _, notClosing⟩ := argumentListAt_head derived
        simpa using notClosing
      rw [← skipped] at notClosing
      rw [found_readArguments_of_not_closing declared name notClosing, skipped]
      exact found_of_argumentListAt blankAfter name next derived

theorem found_of_argumentListAt {declared : List String} {blanks : List Char}
    (blank : Blanks blanks) (name : String) (next : List Char) :
    {word before : List Char} → {arguments : List Argument} →
      ArgumentListAt declared word before arguments →
        found (readMoreArguments declared name (word ++ (blanks ++ ')' :: next))) =
          some (arguments, next)
  | _, _, _, .last derived => by
      rw [found_readMoreArguments, found_of_argumentAt blank (.inr rfl) next derived,
        Option.bind_some]
      dsimp only
      rw [dropWhile_blanks_append blank (endsRun_cons (by decide) next)]
      simp
  | _, _, _, @ArgumentListAt.cons _ first opening after list _ _ _ derived blankBefore
      blankAfter others => by
      have split : first ++ (opening ++ ',' :: (after ++ list)) ++ (blanks ++ ')' :: next) =
          first ++ (opening ++ ',' :: (after ++ (list ++ (blanks ++ ')' :: next)))) := by simp
      have skipped : (after ++ (list ++ (blanks ++ ')' :: next))).dropWhile Character.isBlank =
          list ++ (blanks ++ ')' :: next) := by
        obtain ⟨c, cs, rfl, notBlank, _⟩ := argumentListAt_head others
        exact dropWhile_blanks_append blankAfter (endsRun_cons notBlank _)
      rw [split, found_readMoreArguments,
        found_of_argumentAt blankBefore (.inl rfl) _ derived, Option.bind_some]
      dsimp only
      rw [dropWhile_blanks_append blankBefore (endsRun_cons (by decide) _)]
      simp only [if_true]
      rw [skipped, found_of_argumentListAt blank name next others]
      rfl

theorem found_of_argumentAt {declared : List String} {blanks : List Char}
    (blank : Blanks blanks) {c : Char} (separator : c = ',' ∨ c = ')') (cs : List Char) :
    {word before : List Char} → {argument : Argument} →
      ArgumentAt declared word before argument →
        found (readArgument declared (word ++ (blanks ++ c :: cs))) =
          some (argument, blanks ++ c :: cs)
  | _, _, _, .string (@StringWord.intro quote body text isQuote quotes) => by
      have notEscape : quote ≠ '\\' := by
        rcases isQuote with rfl | rfl <;> decide
      have split : quote :: (body ++ [quote]) ++ (blanks ++ c :: cs) =
          quote :: (body ++ quote :: (blanks ++ c :: cs)) := by simp
      rw [split, found_readArgument_of_quote declared isQuote,
        foundText_of_quotedBody notEscape quotes]
      rfl
  | _, _, _, .number written =>
      found_readArgument_of_number declared
        (numberAt_before written (stops_of_separator blank separator cs).2)
  | _, _, _, .truth named spelled => by
      subst spelled
      have ends := (stops_of_separator blank separator cs).1.noName
      exact found_readArgument_of_truth declared (nameAt_before named ends)
  | _, _, _, .falsehood named spelled => by
      subst spelled
      have ends := (stops_of_separator blank separator cs).1.noName
      exact found_readArgument_of_falsehood declared (nameAt_before named ends)
  | _, _, _, .nested derived => by
      have chainRead := found_of_chainAt (stops_of_separator blank separator cs).1 derived
      obtain ⟨ds, rfl⟩ := chainAt_head derived
      rw [List.cons_append] at chainRead ⊢
      rw [found_readArgument_of_dollar, chainRead]
      rfl

end

end Expression

end LayoutBinding
