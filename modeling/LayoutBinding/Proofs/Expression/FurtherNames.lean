import LayoutBinding.Proofs.Expression.Tiling

/-!
# Further namespaces

What is read as an expression is read as the same one where further namespaces are
declared, for a name decides whether an expression can be read and never where it ends.
So a text that can be cut into segments is cut into the same ones.
-/

namespace LayoutBinding

namespace Expression

/-- Only an expression depends on the declared namespaces. -/
theorem readArgument_eq_of_ne_dollar (declared more : List String) {c : Char}
    (noDollar : c ≠ '$') (cs : List Char) :
    readArgument declared (c :: cs) = readArgument more (c :: cs) := by
  rw [readArgument, readArgument, if_neg noDollar, if_neg noDollar]

-- The measure orders the readers of inputs of one length as they call each other.
mutual

theorem found_readChain_mono {declared more : List String} (among : declared ⊆ more)
    {input rest : List Char} {expression : Expression}
    (reads : found (readChain declared input) = some (expression, rest)) :
    found (readChain more input) = some (expression, rest) := by
  obtain ⟨name, next, rfl, named⟩ := exists_of_found_readChain reads
  rw [found_readChain_of_name declared named] at reads
  split at reads
  next known =>
    obtain ⟨⟨steps, last⟩, stepsRead, same⟩ := Option.map_eq_some_iff.mp reads
    rw [found_readChain_of_name more named, if_pos (among known),
      found_readSteps_mono among stepsRead, ← same]
    rfl
  next => cases reads
termination_by 4 * input.length

theorem found_readSteps_mono {declared more : List String} (among : declared ⊆ more)
    {input rest : List Char} {tree : List Step}
    (reads : found (readSteps declared input) = some (tree, rest)) :
    found (readSteps more input) = some (tree, rest) := by
  by_cases goesOn : ∃ after, input = '.' :: after ∧ nameStarts after = true
  · obtain ⟨after, rfl, starts⟩ := goesOn
    obtain ⟨name, next, rfl, named⟩ := exists_nameAt starts
    by_cases call : next.head? = some '('
    · obtain ⟨inside, rfl⟩ := List.head?_eq_some_iff.mp call
      rw [found_readSteps_of_call declared named] at reads
      obtain ⟨⟨arguments, middle⟩, argumentsRead, stepsRead⟩ :=
        Option.bind_eq_some_iff.mp reads
      obtain ⟨⟨steps, last⟩, stepsRead, same⟩ := Option.map_eq_some_iff.mp stepsRead
      obtain ⟨between, insideEq, -⟩ := argumentsAt_of_found argumentsRead
      have shorter : middle.length < inside.length := by
        rw [insideEq, List.length_append, List.length_cons]
        omega
      rw [found_readSteps_of_call more named, found_readArguments_mono among argumentsRead,
        Option.bind_some]
      dsimp only
      rw [found_readSteps_mono among stepsRead, ← same]
      rfl
    · rw [found_readSteps_of_field declared named call] at reads
      obtain ⟨⟨steps, last⟩, stepsRead, same⟩ := Option.map_eq_some_iff.mp reads
      rw [found_readSteps_of_field more named call, found_readSteps_mono among stepsRead, ← same]
      rfl
  · have stop : ∀ after, input = '.' :: after → nameStarts after = false := by
      intro after split
      exact Bool.eq_false_iff.mpr fun starts => goesOn ⟨after, split, starts⟩
    rw [found_readSteps_of_stop declared stop] at reads
    rw [found_readSteps_of_stop more stop, reads]
termination_by 4 * input.length + 1

theorem found_readArguments_mono {declared more : List String} (among : declared ⊆ more)
    {name : String} {input rest : List Char}
    {arguments : List Argument}
    (reads : found (readArguments declared name input) = some (arguments, rest)) :
    found (readArguments more name input) = some (arguments, rest) := by
  by_cases closing : (input.dropWhile Character.isBlank).head? = some ')'
  · obtain ⟨after, same⟩ := List.head?_eq_some_iff.mp closing
    rw [found_readArguments_of_closing declared name same] at reads
    rw [found_readArguments_of_closing more name same, reads]
  · have bound := length_dropWhile_le Character.isBlank input
    rw [found_readArguments_of_not_closing declared name closing] at reads
    rw [found_readArguments_of_not_closing more name closing]
    exact found_readMoreArguments_mono among reads
termination_by 4 * input.length + 3

theorem found_readMoreArguments_mono {declared more : List String} (among : declared ⊆ more)
    {name : String} {input rest : List Char}
    {arguments : List Argument}
    (reads : found (readMoreArguments declared name input) = some (arguments, rest)) :
    found (readMoreArguments more name input) = some (arguments, rest) := by
  rw [found_readMoreArguments] at reads ⊢
  obtain ⟨⟨argument, next⟩, argumentRead, continued⟩ := Option.bind_eq_some_iff.mp reads
  obtain ⟨word, inputEq, -⟩ := argumentAt_of_found argumentRead
  rw [found_readArgument_mono among argumentRead, Option.bind_some]
  dsimp only at continued ⊢
  split at continued
  next => cases continued
  next c after left =>
    split at continued
    next comma =>
      obtain ⟨⟨others, last⟩, othersRead, same⟩ := Option.map_eq_some_iff.mp continued
      have shorter : (after.dropWhile Character.isBlank).length < input.length := by
        have bound := length_dropWhile_le Character.isBlank after
        have blanks := length_dropWhile_le Character.isBlank next
        rw [left, List.length_cons] at blanks
        rw [inputEq, List.length_append]
        omega
      rw [if_pos comma, found_readMoreArguments_mono among othersRead, ← same]
      rfl
    next noComma =>
      rw [if_neg noComma]
      exact continued
termination_by 4 * input.length + 2

theorem found_readArgument_mono {declared more : List String} (among : declared ⊆ more)
    {input rest : List Char} {argument : Argument}
    (reads : found (readArgument declared input) = some (argument, rest)) :
    found (readArgument more input) = some (argument, rest) := by
  cases input with
  | nil =>
      rw [readArgument] at reads
      cases reads
  | cons c cs =>
      by_cases dollar : c = '$'
      · subst dollar
        rw [found_readArgument_of_dollar] at reads ⊢
        obtain ⟨⟨expression, last⟩, chainRead, same⟩ := Option.map_eq_some_iff.mp reads
        rw [found_readChain_mono among chainRead, ← same]
        rfl
      · rwa [← readArgument_eq_of_ne_dollar declared more dollar cs]
termination_by 4 * input.length + 1

end

theorem declaredWith_mono {names more : List String} (among : names ⊆ more) :
    declaredWith names ⊆ declaredWith more := by
  intro name member
  rcases List.mem_append.mp member with default | extra
  · exact List.mem_append_left _ default
  · exact List.mem_append_right _ (among extra)

theorem parseChars_mono {declared more : List String} (among : declared ⊆ more)
    {input : List Char} {expression : Expression}
    (parsed : parseChars declared input = .ok expression) :
    parseChars more input = .ok expression := by
  unfold parseChars at parsed ⊢
  split at parsed
  next => cases parsed
  next read rest reads =>
    have again : found (readChain more input) = some (read, rest.1) :=
      found_readChain_mono among (found_eq_some_iff.mpr ⟨rest.2, reads⟩)
    obtain ⟨short, again⟩ := found_eq_some_iff.mp again
    rw [again]
    exact parsed

theorem parse_mono {names more : List String} (among : names ⊆ more) {text : String}
    {expression : Expression} (parsed : parse names text = .ok expression) :
    parse more text = .ok expression := by
  simp only [parse] at parsed ⊢
  split at parsed
  next read reads =>
    cases parsed
    rw [parseChars_mono (declaredWith_mono among) reads]
  next => cases parsed

end Expression

namespace Segment

open Expression

theorem scanFrom_mono {declared more : List String} (among : declared ⊆ more) {start : Nat}
    {text : List Char} (finished : (scanFrom declared start text).failure = none) :
    scanFrom more start text = scanFrom declared start text := by
  rw [scanFrom] at finished ⊢
  conv_rhs => rw [scanFrom]
  dsimp only at finished ⊢
  by_cases ends : (literalRun text).2 = []
  · rw [if_pos ends, if_pos ends]
  · rw [if_neg ends] at finished ⊢
    rw [if_neg ends]
    cases parsed : parseFront declared (start + (text.length - (literalRun text).2.length))
        (literalRun text).2 with
    | error error => simp [parsed] at finished
    | ok result =>
        obtain ⟨expression, rest, shorter⟩ := result
        have again : parseFront more (start + (text.length - (literalRun text).2.length))
            (literalRun text).2 = .ok (expression, ⟨rest, shorter⟩) :=
          parseFront_eq_ok_iff.mpr (found_readChain_mono among (parseFront_eq_ok_iff.mp parsed))
        simp only [parsed] at finished ⊢
        have shorterRest : rest.length < text.length :=
          Nat.lt_of_lt_of_le shorter (length_literalRun_le text)
        rw [again]
        simp only [scanFrom_mono among finished]
termination_by text.length

/-- A text that can be cut into segments is cut into the same ones with further
namespaces. -/
theorem scan_mono {names more : List String} (among : names ⊆ more) {text : String}
    (finished : (scan names text).failure = none) : scan more text = scan names text :=
  scanFrom_mono (declaredWith_mono among) finished

end Segment

end LayoutBinding
