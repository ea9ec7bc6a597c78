import LayoutBinding.Proofs.Expression.WholeText

/-!
# Expressions at a place of a text

An expression that is read at a place of a text is the same as the one that its
source is as a whole text, and so is every expression inside it.  It ends as late
as possible: no longer part of the text from that place is an expression.
-/

namespace LayoutBinding

def textBetween (text : String) (start stop : Nat) : String :=
  String.ofList ((text.toList.drop start).take (stop - start))

namespace Expression

open Grammar

def IsArgumentOf (inner outer : Expression) : Prop :=
  ∃ name arguments, .call name arguments ∈ outer.steps ∧ .nested inner ∈ arguments

/-- An expression stands at any depth inside another one. -/
def IsInside : Expression → Expression → Prop :=
  Relation.TransGen IsArgumentOf

/-! ### Reading at a place -/

theorem parseFront_eq_ok_iff {declared : List String} {before : Nat} {input : List Char}
    {expression : Expression} {rest : Shorter input} :
    parseFront declared before input = .ok (expression, rest) ↔
      found (readChain declared input) = some (expression, rest.1) := by
  unfold parseFront
  rw [found_eq_some_iff]
  cases readChain declared input with
  | error fault => simp
  | ok result => simp [rest.2]

theorem parseAt_eq_ok_iff {extra : List String} {text : String} {start stop : Nat}
    {expression : Expression} :
    parseAt extra text start = .ok (expression, stop) ↔
      ∃ rest, found (readChain (declaredWith extra) (text.toList.drop start)) =
          some (expression, rest) ∧
        stop = text.length - rest.length := by
  unfold parseAt
  cases parsed : parseFront (declaredWith extra) start (text.toList.drop start) with
  | error error =>
      have notFound : found (readChain (declaredWith extra) (text.toList.drop start)) =
          none := by
        unfold parseFront at parsed
        cases chainRead : readChain (declaredWith extra) (text.toList.drop start) with
        | error fault => rfl
        | ok result => simp [chainRead] at parsed
      simp [notFound]
  | ok result =>
      obtain ⟨read, rest⟩ := result
      rw [parseFront_eq_ok_iff.mp parsed]
      constructor
      · intro same
        cases same
        exact ⟨rest.1, rfl, rfl⟩
      · rintro ⟨left, same, rfl⟩
        cases same
        rfl

theorem source_of_chainAt {declared : List String} {word next : List Char}
    {expression : Expression} (derived : ChainAt declared word next expression) :
    expression.source = String.ofList word := by
  cases derived with
  | intro _ _ _ => rfl

/-! ### The last character of a chain -/

def EndsInMark (word : List Char) : Prop :=
  ∃ front c, word = front ++ [c] ∧ Character.isBlank c = false

theorem EndsInMark.append {word : List Char} (ends : EndsInMark word) (before : List Char) :
    EndsInMark (before ++ word) := by
  obtain ⟨front, c, rfl, mark⟩ := ends
  exact ⟨before ++ front, c, by rw [List.append_assoc], mark⟩

theorem endsInMark_of_nameAt {name next : List Char} (named : NameAt name next) :
    EndsInMark name := by
  rcases List.eq_nil_or_concat name with rfl | ⟨front, c, rfl⟩
  · cases named
  · refine ⟨front, c, List.concat_eq_append, Bool.eq_false_iff.mpr fun blank => ?_⟩
    have continues := nameAt_all named c (by simp)
    rw [continuesName_eq_false_of_isBlank blank] at continues
    cases continues

theorem endsInMark_of_segmentAt {declared : List String} {word next : List Char}
    {step : Step} (derived : SegmentAt declared word next step) :
    EndsInMark word := by
  cases derived with
  | field named => exact endsInMark_of_nameAt named
  | @call name inside _ _ named derived =>
      exact ⟨name ++ '(' :: inside, ')', by simp, by decide⟩

theorem endsInMark_of_stepsAt {declared : List String} {word next : List Char}
    {tree : List Step} (derived : StepsAt declared word next tree) :
    word = [] ∨ EndsInMark word := by
  induction tree generalizing word with
  | nil =>
      cases derived
      exact .inl rfl
  | cons step tree ih =>
      cases derived with
      | @cons segment steps _ _ _ first others =>
          rcases ih others with rfl | ends
          · rw [List.append_nil]
            exact .inr ((endsInMark_of_segmentAt first).append ['.'])
          · exact .inr (ends.append ('.' :: segment))

theorem endsInMark_of_chainAt {declared : List String} {word next : List Char}
    {expression : Expression} (derived : ChainAt declared word next expression) :
    EndsInMark word := by
  cases derived with
  | @intro name steps _ _ named known derived =>
      rcases endsInMark_of_stepsAt derived with rfl | ends
      · rw [List.append_nil]
        exact (endsInMark_of_nameAt named).append ['$']
      · exact ends.append ('$' :: name)

theorem trim_of_chainAt {declared : List String} {word next : List Char}
    {expression : Expression} (derived : ChainAt declared word next expression) :
    trim Character.isBlank word = word := by
  apply trim_eq_self
  · obtain ⟨cs, rfl⟩ := chainAt_head derived
    exact endsRun_cons (by decide) cs
  · obtain ⟨front, c, rfl, mark⟩ := endsInMark_of_chainAt derived
    simpa using mark

/-- A chain at a place is read as a whole text, too. -/
theorem parse_source_of_chainAt {extra : List String} {word next : List Char}
    {expression : Expression} (derived : ChainAt (declaredWith extra) word next expression) :
    parse extra expression.source = .ok expression := by
  rw [parse_eq_ok_iff, Derives, source_of_chainAt derived, String.toList_ofList,
    trim_of_chainAt derived]
  have reads := found_of_chainAt stops_nil derived
  rw [List.append_nil] at reads
  obtain ⟨again, split, derivedAgain⟩ := chainAt_of_found reads
  rw [List.append_nil] at split
  rwa [split]

/-! ### Expressions inside expressions -/

theorem argumentsAt_of_mem {declared : List String} {word next : List Char}
    {tree : List Step} (derived : StepsAt declared word next tree) {name : String}
    {arguments : List Argument} (member : .call name arguments ∈ tree) :
    ∃ inside after, inside <:+: word ∧ ArgumentsAt declared inside after arguments := by
  induction tree generalizing word with
  | nil => simp at member
  | cons step tree ih =>
      cases derived with
      | @cons segment steps _ _ _ first others =>
          rcases List.mem_cons.mp member with same | member
          · subst same
            cases first with
            | @call called inside _ _ named derived =>
                exact ⟨inside, _, ⟨'.' :: (called ++ ['(']), ')' :: steps, by simp⟩, derived⟩
          · obtain ⟨inside, after, ⟨before, behind, rfl⟩, derived⟩ := ih others member
            exact ⟨inside, after, ⟨'.' :: (segment ++ before), behind, by simp⟩, derived⟩

theorem argumentAt_of_mem {declared : List String} {list next : List Char}
    {arguments : List Argument} (derived : ArgumentListAt declared list next arguments)
    {argument : Argument} (member : argument ∈ arguments) :
    ∃ word after, word <:+: list ∧ ArgumentAt declared word after argument := by
  induction arguments generalizing list with
  | nil => simp at member
  | cons given arguments ih =>
      cases derived with
      | last derived =>
          obtain rfl := List.mem_singleton.mp member
          exact ⟨list, next, List.infix_refl list, derived⟩
      | @cons first opening after list _ _ _ derived _ _ others =>
          rcases List.mem_cons.mp member with same | member
          · subst same
            exact ⟨first, _, (List.prefix_append first _).isInfix, derived⟩
          · obtain ⟨word, next, ⟨before, behind, rfl⟩, wordDerived⟩ := ih others member
            refine ⟨word, next, ⟨first ++ (opening ++ ',' :: (after ++ before)), behind, ?_⟩,
              wordDerived⟩
            simp

theorem chainAt_of_isArgumentOf {declared : List String} {word next : List Char}
    {inner outer : Expression} (derived : ChainAt declared word next outer)
    (argument : inner.IsArgumentOf outer) :
    ∃ inside after, inside <:+: word ∧ ChainAt declared inside after inner := by
  obtain ⟨name, arguments, called, member⟩ := argument
  cases derived with
  | @intro root steps _ _ named known derived =>
      obtain ⟨between, _, betweenIn, argumentsDerived⟩ := argumentsAt_of_mem derived called
      have stepsIn : steps <:+: '$' :: (root ++ steps) := ⟨'$' :: root, [], by simp⟩
      cases argumentsDerived with
      | none blank => simp at member
      | @some before list behind _ _ _ _ listDerived =>
          obtain ⟨inside, after, insideIn, derived⟩ := argumentAt_of_mem listDerived member
          have listIn : list <:+: before ++ (list ++ behind) := ⟨before, behind, by simp⟩
          cases derived with
          | nested derived =>
              exact ⟨inside, after,
                ((insideIn.trans listIn).trans betweenIn).trans stepsIn, derived⟩

/-- An expression inside a derived one is derived from a part of the same text. -/
theorem chainAt_of_isInside {declared : List String} {word next : List Char}
    {inner outer : Expression} (derived : ChainAt declared word next outer)
    (inside : inner.IsInside outer) :
    ∃ part after, part <:+: word ∧ ChainAt declared part after inner := by
  induction inside generalizing word next with
  | single argument => exact chainAt_of_isArgumentOf derived argument
  | tail _ argument ih =>
      obtain ⟨middle, _, middleIn, middleDerived⟩ := chainAt_of_isArgumentOf derived argument
      obtain ⟨part, after, partIn, partDerived⟩ := ih middleDerived
      exact ⟨part, after, partIn.trans middleIn, partDerived⟩

/-! ### No longer expression -/

theorem length_le_of_found {α : Type} {input rest : List Char} {value : α}
    {reading : Except ReadFault (α × Rest input)}
    (reads : found reading = some (value, rest)) :
    rest.length ≤ input.length := by
  obtain ⟨short, _⟩ := found_eq_some_iff.mp reads
  exact short

theorem length_le_after_name {declared : List String} {input rest : List Char}
    {tree : List Step} (starts : nameStarts input = true)
    (reads : found (readSteps declared ('.' :: input)) = some (tree, rest)) :
    rest.length ≤ (afterName input).1.length := by
  obtain ⟨name, next, rfl, named⟩ := exists_nameAt starts
  rw [afterName_append named]
  by_cases call : next.head? = some '('
  · obtain ⟨inside, rfl⟩ := List.head?_eq_some_iff.mp call
    rw [found_readSteps_of_call declared named] at reads
    obtain ⟨⟨arguments, middle⟩, argumentsRead, stepsRead⟩ := Option.bind_eq_some_iff.mp reads
    obtain ⟨⟨steps, last⟩, stepsRead, same⟩ := Option.map_eq_some_iff.mp stepsRead
    cases same
    have middleShort := length_le_of_found argumentsRead
    have lastShort := length_le_of_found stepsRead
    simp only [List.length_cons]
    omega
  · rw [found_readSteps_of_field declared named call] at reads
    obtain ⟨⟨steps, last⟩, stepsRead, same⟩ := Option.map_eq_some_iff.mp reads
    cases same
    exact length_le_of_found stepsRead

/-- The characters of a name are never left over, whatever follows the name. -/
theorem length_afterName_append_le {name before : List Char} (named : NameAt name before)
    (next : List Char) :
    (afterName (name ++ next)).1.length ≤ next.length := by
  change ((name ++ next).dropWhile continuesName).length ≤ next.length
  rw [List.dropWhile_append_of_pos (nameAt_all named)]
  exact length_dropWhile_le continuesName next

theorem length_le_of_segmentAt {declared : List String} {word before next rest : List Char}
    {step : Step} {tree : List Step} (derived : SegmentAt declared word before step)
    (reads : found (readSteps declared ('.' :: (word ++ next))) = some (tree, rest)) :
    rest.length ≤ next.length := by
  cases derived with
  | field named =>
      have short := length_le_after_name (nameStarts_append named next) reads
      exact short.trans (length_afterName_append_le named next)
  | @call name inside _ arguments named derived =>
      have split : name ++ '(' :: (inside ++ [')']) ++ next =
          name ++ '(' :: (inside ++ ')' :: next) := by simp
      have opened := endsRun_cons (continuesName_mark '(' (by simp)) (inside ++ ')' :: next)
      rw [split, found_readSteps_of_call declared (nameAt_before named opened),
        found_of_argumentsAt (String.ofList name) next derived, Option.bind_some] at reads
      obtain ⟨⟨steps, last⟩, stepsRead, same⟩ := Option.map_eq_some_iff.mp reads
      cases same
      exact length_le_of_found stepsRead

theorem length_le_of_stepsAt {declared : List String} {word before next rest : List Char}
    {tree read : List Step} (derived : StepsAt declared word before tree)
    (reads : found (readSteps declared (word ++ next)) = some (read, rest)) :
    rest.length ≤ next.length := by
  induction tree generalizing word read with
  | nil =>
      cases derived
      exact length_le_of_found reads
  | cons step tree ih =>
      cases derived with
      | cons first others =>
          rw [List.cons_append, List.append_assoc] at reads
          cases others with
          | nil => exact length_le_of_segmentAt first reads
          | cons second third =>
              have ends := endsRun_cons (continuesName_mark '.' (by simp))
              rw [List.cons_append, found_of_segmentAt (ends _) (by simp) first] at reads
              obtain ⟨⟨steps, last⟩, stepsRead, same⟩ := Option.map_eq_some_iff.mp reads
              cases same
              exact ih (.cons second third) stepsRead

/-- A derived chain is read as far as it goes at least, whatever follows it. -/
theorem length_le_of_chainAt {declared : List String} {word before next rest : List Char}
    {expression read : Expression} (derived : ChainAt declared word before expression)
    (reads : found (readChain declared (word ++ next)) = some (read, rest)) :
    rest.length ≤ next.length := by
  cases derived with
  | @intro name steps _ tree named known derived =>
      rw [List.cons_append, List.append_assoc] at reads
      cases derived with
      | nil =>
          obtain ⟨longer, after, split, longerNamed⟩ := exists_of_found_readChain reads
          have afterShort : after.length ≤ next.length := by
            have same : name ++ next = longer ++ after := (List.cons.inj split).2
            rw [← afterName_append longerNamed, ← same]
            exact length_afterName_append_le named next
          rw [split, found_readChain_of_name declared longerNamed] at reads
          split at reads
          next =>
            obtain ⟨⟨others, last⟩, stepsRead, same⟩ := Option.map_eq_some_iff.mp reads
            cases same
            exact (length_le_of_found stepsRead).trans afterShort
          next => cases reads
      | cons second third =>
          have ends := endsRun_cons (continuesName_mark '.' (by simp))
          rw [List.cons_append, found_readChain_of_name declared (nameAt_before named (ends _)),
            if_pos known] at reads
          obtain ⟨⟨others, last⟩, stepsRead, same⟩ := Option.map_eq_some_iff.mp reads
          cases same
          exact length_le_of_stepsAt (.cons second third) stepsRead

/-! ### Places and whole texts -/

theorem textBetween_of_drop {text : String} {start : Nat} {word rest : List Char}
    (split : text.toList.drop start = word ++ rest) :
    textBetween text start (start + word.length) = String.ofList word := by
  rw [textBetween, split]
  simp

/-- An expression at a place is a chain there, which ends where the reading ends. -/
theorem exists_word_of_parseAt {extra : List String} {text : String} {start stop : Nat}
    {expression : Expression} (parsed : parseAt extra text start = .ok (expression, stop)) :
    ∃ word rest, text.toList.drop start = word ++ rest ∧
      ChainAt (declaredWith extra) word rest expression ∧
      found (readChain (declaredWith extra) (word ++ rest)) = some (expression, rest) ∧
      stop = start + word.length ∧ stop + rest.length = text.length := by
  obtain ⟨rest, reads, rfl⟩ := parseAt_eq_ok_iff.mp parsed
  obtain ⟨word, split, derived⟩ := chainAt_of_found reads
  rw [split] at reads
  have lengths := congrArg List.length split
  obtain ⟨cs, rfl⟩ := chainAt_head derived
  simp only [List.length_drop, String.length_toList, List.length_append,
    List.length_cons] at lengths
  refine ⟨'$' :: cs, rest, split, derived, reads, ?_, ?_⟩
  · simp only [List.length_cons]
    omega
  · omega

/-- No part of the text that is longer than the expression at its start is an
expression, unless it ends with a blank. -/
theorem parse_longer_ne_ok {extra : List String} {text : String} {start stop later : Nat}
    {expression longer : Expression}
    (parsed : parseAt extra text start = .ok (expression, stop))
    (after : stop < later) (within : later ≤ text.length)
    (last : ∀ c ∈ (textBetween text start later).toList.getLast?,
      Character.isBlank c = false) :
    parse extra (textBetween text start later) ≠ .ok longer := by
  intro parsedLonger
  obtain ⟨word, rest, split, derived, reads, rfl, lengthEq⟩ := exists_word_of_parseAt parsed
  obtain ⟨cs, rfl⟩ := chainAt_head derived
  have startBefore : start < later := by
    simp only [List.length_cons] at after
    omega
  have longerEq : (textBetween text start later).toList =
      ('$' :: cs ++ rest).take (later - start) := by
    rw [textBetween, String.toList_ofList, split]
  have first : ∀ c ∈ (textBetween text start later).toList.head?,
      Character.isBlank c = false := by
    rw [longerEq]
    obtain ⟨count, countEq⟩ := Nat.exists_eq_succ_of_ne_zero (Nat.sub_ne_zero_of_lt startBefore)
    rw [countEq]
    exact endsRun_cons (by decide) _
  rw [parse_eq_ok_iff, Derives, trim_eq_self first last, longerEq] at parsedLonger
  rw [← List.take_append_drop (later - start) ('$' :: cs ++ rest)] at reads
  have short := length_le_of_chainAt parsedLonger reads
  simp only [List.length_drop, List.length_append, List.length_cons] at short after lengthEq
  omega

/-- A whole text that is an expression, without blanks around it, is a chain. -/
theorem chainAt_of_parse {extra : List String} {text : String} {expression : Expression}
    (trimmed : trimBlanks text = text) (parsed : parse extra text = .ok expression) :
    ChainAt (declaredWith extra) text.toList [] expression := by
  have sameChars : trim Character.isBlank text.toList = text.toList := by
    have same := congrArg String.toList trimmed
    rwa [trimBlanks, String.toList_ofList] at same
  rwa [parse_eq_ok_iff, Derives, sameChars] at parsed

/-- A whole text that is an expression is the expression at the start of every text
that goes on with something that cannot continue it. -/
theorem parseAt_append {extra : List String} {text next : String} {expression : Expression}
    (trimmed : trimBlanks text = text) (parsed : parse extra text = .ok expression)
    (stops : Stops next.toList) :
    parseAt extra (text ++ next) 0 = .ok (expression, text.length) := by
  refine parseAt_eq_ok_iff.mpr ⟨next.toList, ?_, ?_⟩
  · rw [List.drop_zero, String.toList_append]
    exact found_of_chainAt stops (chainAt_of_parse trimmed parsed)
  · rw [String.length_append, String.length_toList]
    omega

/-- The expression at a place of a text is the part of it up to where the reading
ends; that part is the same expression as a whole text, so are the sources of all
expressions inside it, and no longer part is an expression.  Conversely a whole text
that is an expression is read from the front of every text that does not continue
it. -/
theorem parseAt_agrees_with_parse (extra : List String) :
    (∀ text start expression stop, parseAt extra text start = .ok (expression, stop) →
      start < stop ∧ stop ≤ text.length ∧
      expression.source = textBetween text start stop ∧
      parse extra expression.source = .ok expression ∧
      (∀ inner, IsInside inner expression →
        inner.source.toList <:+: expression.source.toList ∧
          parse extra inner.source = .ok inner) ∧
      ∀ later, stop < later → later ≤ text.length →
        (∀ c ∈ (textBetween text start later).toList.getLast?,
          Character.isBlank c = false) →
        ∀ longer, parse extra (textBetween text start later) ≠ .ok longer) ∧
    ∀ text next expression, trimBlanks text = text → parse extra text = .ok expression →
      Stops next.toList → parseAt extra (text ++ next) 0 = .ok (expression, text.length) := by
  constructor
  · intro text start expression stop parsed
    obtain ⟨word, rest, split, derived, _, stopEq, lengthEq⟩ := exists_word_of_parseAt parsed
    refine ⟨?_, by omega, ?_, parse_source_of_chainAt derived, ?_, ?_⟩
    · obtain ⟨cs, rfl⟩ := chainAt_head derived
      simp only [List.length_cons] at stopEq
      omega
    · rw [stopEq, textBetween_of_drop split, source_of_chainAt derived]
    · intro inner inside
      obtain ⟨part, after, partIn, partDerived⟩ := chainAt_of_isInside derived inside
      refine ⟨?_, parse_source_of_chainAt partDerived⟩
      rwa [source_of_chainAt derived, source_of_chainAt partDerived, String.toList_ofList,
        String.toList_ofList]
    · intro later after within last longer
      exact parse_longer_ne_ok parsed after within last
  · intro text next expression trimmed parsed stops
    exact parseAt_append trimmed parsed stops

/-- The point after a reference in a sentence is not part of the expression. -/
theorem parseAt_agrees_with_parse_in_sentence :
    ∃ expression,
      parseAt [] "see $page.tags.join($loop.it, ', ')." 4 = .ok (expression, 35) ∧
        expression.source = "$page.tags.join($loop.it, ', ')" ∧
        parse [] "$page.tags.join($loop.it, ', ')" = .ok expression ∧
        parseAt [] ("$page.tags.join($loop.it, ', ')" ++ ". Next") 0 =
          .ok (expression, 31) := by
  obtain ⟨expression, parsed⟩ : ∃ expression,
      parseAt [] "see $page.tags.join($loop.it, ', ')." 4 = .ok (expression, 35) := by
    have reads : (parseAt [] "see $page.tags.join($loop.it, ', ')." 4).toOption.map Prod.snd =
        some 35 := by
      decide +kernel
    cases outcome : parseAt [] "see $page.tags.join($loop.it, ', ')." 4 with
    | error error =>
        rw [outcome] at reads
        cases reads
    | ok result =>
        rw [outcome] at reads
        have stopEq : result.2 = 35 := Option.some.inj reads
        exact ⟨result.1, by rw [← stopEq]⟩
  obtain ⟨_, _, sourceEq, whole, _, _⟩ := (parseAt_agrees_with_parse []).1 _ _ _ _ parsed
  have source : expression.source = "$page.tags.join($loop.it, ', ')" := by
    rw [sourceEq]
    decide +kernel
  rw [source] at whole
  refine ⟨expression, parsed, source, whole, ?_⟩
  refine (parseAt_agrees_with_parse []).2 _ _ expression (by decide +kernel) whole ?_
  refine ⟨endsRun_cons (continuesName_mark '.' (by simp)) _, by decide, ?_⟩
  intro after same
  obtain rfl : " Next".toList = after := (List.cons.inj same).2
  decide +kernel

end Expression

end LayoutBinding
