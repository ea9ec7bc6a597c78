import LayoutBinding.Proofs.Expression.Words

/-!
# What the readers of expressions find

Each reader is described by one equation for each way in which its input can
start.  The equations forget the proofs that what is left is short and the
faults of a failed reading, so that later proofs never open a reader.
-/

namespace LayoutBinding

namespace Expression

open Grammar

/-! ### Chains -/

def found {α : Type} {bound : List Char → Prop} :
    Except ReadFault (α × { rest : List Char // bound rest }) → Option (α × List Char)
  | .ok (value, rest) => some (value, rest.1)
  | .error _ => none

theorem found_eq_some_iff {α : Type} {bound : List Char → Prop}
    {reading : Except ReadFault (α × { rest : List Char // bound rest })} {value : α}
    {rest : List Char} :
    found reading = some (value, rest) ↔ ∃ short, reading = .ok (value, ⟨rest, short⟩) := by
  cases reading with
  | error fault => simp [found]
  | ok result =>
      obtain ⟨given, left, short⟩ := result
      simp only [found, Option.some.injEq, Prod.mk.injEq, Except.ok.injEq, Subtype.mk.injEq,
        exists_prop]
      constructor
      · rintro ⟨rfl, rfl⟩
        exact ⟨short, rfl, rfl⟩
      · rintro ⟨_, rfl, rfl⟩
        exact ⟨rfl, rfl⟩

theorem consumed_append (word rest : List Char) :
    consumed (word ++ rest) rest = String.ofList word := by
  simp [consumed]

theorem found_readChain_of_name (declared : List String) {name next : List Char}
    (named : NameAt name next) :
    found (readChain declared ('$' :: (name ++ next))) =
      if String.ofList name ∈ declared then
        (found (readSteps declared next)).map fun (steps, rest) =>
          (⟨consumed ('$' :: (name ++ next)) rest, String.ofList name, steps⟩, rest)
      else
        none := by
  have after : found (readSteps declared (afterName (name ++ next)).1) =
      found (readSteps declared next) := by
    rw [afterName_append named]
  rw [readChain, if_pos (nameStarts_append named next), leadingName_append named]
  by_cases known : String.ofList name ∈ declared
  · rw [if_pos known, ← after]
    simp only [List.contains_eq_mem, known, decide_true, if_true]
    cases readSteps declared (afterName (name ++ next)).1 <;> rfl
  · simp [known, found]

theorem exists_of_found_readChain {declared : List String} {input rest : List Char}
    {expression : Expression}
    (reads : found (readChain declared input) = some (expression, rest)) :
    ∃ name next, input = '$' :: (name ++ next) ∧ NameAt name next := by
  obtain ⟨short, reads⟩ := found_eq_some_iff.mp reads
  rw [readChain.eq_def] at reads
  split at reads
  · split at reads
    next starts =>
      obtain ⟨name, next, rfl, named⟩ := exists_nameAt starts
      exact ⟨name, next, rfl, named⟩
    next => cases reads
  · cases reads

theorem found_readSteps_of_stop (declared : List String) {input : List Char}
    (stop : ∀ after, input = '.' :: after → nameStarts after = false) :
    found (readSteps declared input) = some ([], input) := by
  rw [readSteps.eq_def]
  split
  next after =>
    rw [stop after rfl]
    rfl
  next => rfl

theorem found_readSteps_of_field (declared : List String) {name next : List Char}
    (named : NameAt name next) (noCall : next.head? ≠ some '(') :
    found (readSteps declared ('.' :: (name ++ next))) =
      (found (readSteps declared next)).map fun (steps, rest) =>
        (.field (String.ofList name) :: steps, rest) := by
  have after : found (readSteps declared (afterName (name ++ next)).1) =
      found (readSteps declared next) := by
    rw [afterName_append named]
  rw [readSteps, if_pos (nameStarts_append named next), leadingName_append named, ← after]
  dsimp only
  split
  next inside same =>
    rw [afterName_append named] at same
    simp [same] at noCall
  next =>
    cases readSteps declared (afterName (name ++ next)).1 <;> rfl

theorem found_readSteps_of_call (declared : List String) {name inside : List Char}
    (named : NameAt name ('(' :: inside)) :
    found (readSteps declared ('.' :: (name ++ '(' :: inside))) =
      (found (readArguments declared (String.ofList name) inside)).bind fun (arguments, next) =>
        (found (readSteps declared next)).map fun (steps, rest) =>
          (.call (String.ofList name) arguments :: steps, rest) := by
  rw [readSteps, if_pos (nameStarts_append named _), leadingName_append named]
  dsimp only
  split
  next opened same =>
    rw [afterName_append named] at same
    cases same
    cases readArguments declared (String.ofList name) inside with
    | error fault => rfl
    | ok result =>
        obtain ⟨arguments, next, short⟩ := result
        simp only [found, Option.bind_some]
        cases readSteps declared next <;> rfl
  next notCall =>
    exact absurd (afterName_append named) (notCall inside)

/-! ### Arguments -/

theorem found_readArguments_of_closing (declared : List String) (name : String)
    {input rest : List Char} (closing : input.dropWhile Character.isBlank = ')' :: rest) :
    found (readArguments declared name input) = some ([], rest) := by
  have skipped : (skipBlanks input).1 = ')' :: rest := closing
  rw [readArguments, if_pos (by rw [skipped]; rfl)]
  simp [found, skipped]

theorem found_readArguments_of_not_closing (declared : List String) (name : String)
    {input : List Char} (notClosing : (input.dropWhile Character.isBlank).head? ≠ some ')') :
    found (readArguments declared name input) =
      found (readMoreArguments declared name (input.dropWhile Character.isBlank)) := by
  have skipped : (skipBlanks input).1.head? ≠ some ')' := notClosing
  rw [readArguments, if_neg skipped]
  change _ = found (readMoreArguments declared name (skipBlanks input).1)
  cases readMoreArguments declared name (skipBlanks input).1 <;> rfl

theorem found_readMoreArguments (declared : List String) (name : String)
    (input : List Char) :
    found (readMoreArguments declared name input) =
      (found (readArgument declared input)).bind fun (argument, next) =>
        match next.dropWhile Character.isBlank with
        | [] => none
        | c :: after =>
            if c = ',' then
              (found (readMoreArguments declared name
                (after.dropWhile Character.isBlank))).map fun (arguments, rest) =>
                  (argument :: arguments, rest)
            else if c = ')' then
              some ([argument], after)
            else
              none := by
  rw [readMoreArguments]
  cases readArgument declared input with
  | error fault => rfl
  | ok result =>
      obtain ⟨argument, next, shorter⟩ := result
      simp only [found, Option.bind_some]
      change _ = match (skipBlanks next).1 with
        | [] => none
        | c :: after => _
      cases skipBlanks next with
      | mk left bound =>
          cases left with
          | nil => rfl
          | cons c after =>
              by_cases comma : c = ','
              · simp only [if_pos comma]
                change _ = (found (readMoreArguments declared name (skipBlanks after).1)).map _
                cases readMoreArguments declared name (skipBlanks after).1 <;> rfl
              · by_cases closing : c = ')'
                · simp only [if_neg comma, if_pos closing]
                · simp only [if_neg comma, if_neg closing]

theorem found_readArgument_of_quote (declared : List String) {quote : Char}
    (isQuote : quote = '"' ∨ quote = '\'') (cs : List Char) :
    found (readArgument declared (quote :: cs)) =
      (foundText quote cs).map fun (text, rest) =>
        (.literal (.text (String.ofList text)), rest) := by
  rw [readArgument, if_pos isQuote, foundText]
  cases quotedText? quote cs <;> rfl

theorem found_readArgument_of_dollar (declared : List String) (cs : List Char) :
    found (readArgument declared ('$' :: cs)) =
      (found (readChain declared ('$' :: cs))).map fun (expression, rest) =>
        (.nested expression, rest) := by
  rw [readArgument, if_neg (by decide), if_pos rfl]
  cases readChain declared ('$' :: cs) <;> rfl

/-- No string and no expression starts like a number or like a word. -/
theorem not_quote_of_numberStarts {c : Char} {cs : List Char}
    (starts : numberStarts (c :: cs) = true) :
    ¬(c = '"' ∨ c = '\'') ∧ c ≠ '$' := by
  constructor
  · rintro (rfl | rfl)
    · simp [numberStarts, show Character.isDigit '"' = false by decide] at starts
    · simp [numberStarts, show Character.isDigit '\'' = false by decide] at starts
  · rintro rfl
    simp [numberStarts, show Character.isDigit '$' = false by decide] at starts

theorem found_readArgument_of_number (declared : List String) {word next : List Char}
    {value : Literal} (written : NumberAt word next value) :
    found (readArgument declared (word ++ next)) = some (.literal value, next) := by
  have starts := numberStarts_append written next
  obtain ⟨charsEq, afterEq⟩ := numberChars_append written
  have valueEq : numberValue? (numberChars (word ++ next)) = some value := by
    rw [charsEq, numberValue?_eq_some_iff]
    cases written with
    | intro _ _ _ valued => exact valued
  cases same : word ++ next with
  | nil => simp [same, numberStarts] at starts
  | cons c cs =>
      rw [same] at starts afterEq valueEq
      obtain ⟨notQuote, notDollar⟩ := not_quote_of_numberStarts starts
      rw [readArgument, if_neg notQuote, if_neg notDollar, dif_pos starts]
      simp [found, valueEq, afterEq]

theorem found_readArgument_of_name (declared : List String) {c : Char}
    {cs next : List Char} (named : NameAt (c :: cs) next)
    (notQuote : ¬(c = '"' ∨ c = '\'')) (notDollar : c ≠ '$')
    (noNumber : ¬numberStarts (c :: (cs ++ next)) = true) :
    found (readArgument declared (c :: (cs ++ next))) =
      if String.ofList (c :: cs) = "true" then some (.literal (.truth true), next)
      else if String.ofList (c :: cs) = "false" then some (.literal (.truth false), next)
      else none := by
  have leading : leadingName (c :: (cs ++ next)) = String.ofList (c :: cs) :=
    leadingName_append named
  cases named with
  | intro starts continues maximal =>
      have after : (afterName (cs ++ next)).1 = next :=
        dropWhile_append_of_endsRun continues maximal
      rw [readArgument, if_neg notQuote, if_neg notDollar, dif_neg noNumber, if_pos starts,
        leading]
      dsimp only
      split
      · simp [found, after]
      · split
        · simp [found, after]
        · rfl

theorem found_readArgument_of_truth (declared : List String) {next : List Char}
    (named : NameAt "true".toList next) :
    found (readArgument declared ("true".toList ++ next)) =
      some (.literal (.truth true), next) := by
  have noNumber : ¬numberStarts ('t' :: (['r', 'u', 'e'] ++ next)) = true := by
    simp [numberStarts, show Character.isDigit 't' = false by decide]
  exact found_readArgument_of_name declared named (by decide) (by decide) noNumber

theorem found_readArgument_of_falsehood (declared : List String) {next : List Char}
    (named : NameAt "false".toList next) :
    found (readArgument declared ("false".toList ++ next)) =
      some (.literal (.truth false), next) := by
  have noNumber : ¬numberStarts ('f' :: (['a', 'l', 's', 'e'] ++ next)) = true := by
    simp [numberStarts, show Character.isDigit 'f' = false by decide]
  exact found_readArgument_of_name declared named (by decide) (by decide) noNumber

/-- What is read as an argument is one by the grammar, or it is read as an
expression. -/
theorem argumentAt_or_chain_of_found {declared : List String} {input rest : List Char}
    {argument : Argument}
    (reads : found (readArgument declared input) = some (argument, rest)) :
    (∃ word, input = word ++ rest ∧ ArgumentAt declared word rest argument) ∨
      ∃ expression, argument = .nested expression ∧
        found (readChain declared input) = some (expression, rest) := by
  cases input with
  | nil =>
      rw [readArgument] at reads
      cases reads
  | cons c cs =>
      by_cases isQuote : c = '"' ∨ c = '\''
      · rw [found_readArgument_of_quote declared isQuote] at reads
        obtain ⟨⟨text, last⟩, textReads, same⟩ := Option.map_eq_some_iff.mp reads
        cases same
        have notEscape : c ≠ '\\' := by
          rcases isQuote with rfl | rfl <;> decide
        obtain ⟨body, rfl, quotes⟩ := exists_quotedBody notEscape cs textReads
        refine .inl ⟨c :: (body ++ [c]), by simp, ?_⟩
        exact .string (.intro isQuote quotes)
      by_cases dollar : c = '$'
      · subst dollar
        rw [found_readArgument_of_dollar] at reads
        obtain ⟨⟨expression, last⟩, chainReads, same⟩ := Option.map_eq_some_iff.mp reads
        cases same
        exact .inr ⟨expression, rfl, chainReads⟩
      by_cases number : numberStarts (c :: cs) = true
      · obtain ⟨short, reads⟩ := found_eq_some_iff.mp reads
        rw [readArgument, if_neg isQuote, if_neg dollar, dif_pos number] at reads
        split at reads
        next value valueReads =>
          obtain ⟨word, split, written⟩ := exists_numberAt valueReads
          cases reads
          exact .inl ⟨word, split, .number written⟩
        next => cases reads
      by_cases starts : startsName c = true
      · obtain ⟨ds, next, rfl, named⟩ := exists_nameAt_cons starts cs
        rw [found_readArgument_of_name declared named isQuote dollar number] at reads
        split at reads
        next isTrue =>
          cases reads
          have word : c :: ds = "true".toList := by
            rw [← isTrue, String.toList_ofList]
          exact .inl ⟨c :: ds, rfl, .truth named word⟩
        next =>
          split at reads
          next isFalse =>
            cases reads
            have word : c :: ds = "false".toList := by
              rw [← isFalse, String.toList_ofList]
            exact .inl ⟨c :: ds, rfl, .falsehood named word⟩
          next => cases reads
      · obtain ⟨short, reads⟩ := found_eq_some_iff.mp reads
        rw [readArgument, if_neg isQuote, if_neg dollar, dif_neg number, if_neg starts] at reads
        split at reads <;> cases reads

end Expression

end LayoutBinding
