import LayoutBinding.Link.Anchor
import LayoutBinding.Proofs.Expression.Tiling

/-!
# Declared anchors and expressions

Declarations are looked for in the text of a page, while its body is cut into expressions.  A
declaration is found at a plain one among the expressions and nowhere else, if no other
expression holds what starts a declaration.
-/

namespace LayoutBinding

open Expression Grammar Segment

namespace Anchor

/-! ### The search for declarations -/

/-- Whether a dollar sign comes before what follows a text. -/
def dollarAfter (before : Bool) (cs : List Char) : Bool :=
  cs.foldl (fun _ c => decide (c = '$')) before

theorem dollarAfter_eq (cs : List Char) :
    dollarAfter false cs = decide (cs.getLast? = some '$') := by
  rcases List.eq_nil_or_concat cs with rfl | ⟨front, c, rfl⟩
  · rfl
  · simp [dollarAfter]

theorem dollarAfter_append (before : Bool) (first second : List Char) :
    dollarAfter before (first ++ second) = dollarAfter (dollarAfter before first) second :=
  List.foldl_append

section Search

variable {before : Bool} {rest : List Char}

theorem namesFrom_skip (front : List Char) :
    namesFrom front.length before (front ++ rest) =
      namesFrom 0 (dollarAfter before front) rest := by
  induction front generalizing before with
  | nil => rfl
  | cons c front ih =>
      rw [List.cons_append, List.length_cons, namesFrom, if_pos (Nat.succ_pos _),
        Nat.add_sub_cancel, ih]
      rfl

theorem namesFrom_cons_of_none {c : Char} {cs : List Char}
    (nothing : before = true ∨ declaration? (c :: cs) = none) :
    namesFrom 0 before (c :: cs) = namesFrom 0 (decide (c = '$')) cs := by
  have none : (if before = true then none else declaration? (c :: cs)) = none := by
    rcases nothing with rfl | nothing
    · rfl
    · rw [nothing, ite_self]
  rw [namesFrom, if_neg (Nat.lt_irrefl 0), none]

theorem namesFrom_append_of_none {front : List Char}
    (nothing : ∀ part, part ≠ [] → part <:+ front → declaration? (part ++ rest) = none) :
    namesFrom 0 before (front ++ rest) = namesFrom 0 (dollarAfter before front) rest := by
  induction front generalizing before with
  | nil => rfl
  | cons c front ih =>
      have first := nothing (c :: front) (List.cons_ne_nil c front) List.suffix_rfl
      rw [List.cons_append] at first ⊢
      rw [namesFrom_cons_of_none (.inr first), ih fun part given suffix =>
        nothing part given (suffix.trans (List.suffix_cons c front))]
      rfl

theorem declaration?_of_not_prefix {cs : List Char} (other : ¬opening <+: cs) :
    declaration? cs = none := by
  rw [declaration?, if_neg (by rwa [List.isPrefixOf_iff_prefix])]

/-- Nothing is found in literal text: a dollar sign in it is one of a pair, or no name follows
it. -/
theorem namesFrom_plainBefore {run : List Char} (plain : PlainBefore rest run) :
    namesFrom 0 before (run ++ rest) = namesFrom 0 (dollarAfter before run) rest := by
  have opens {c d : Char} {cs : List Char} (starts : opening <+: c :: d :: cs) :
      c = '$' ∧ d = 's' := by
    obtain ⟨more, same⟩ := starts
    obtain ⟨first, same⟩ := List.cons.inj same
    exact ⟨first.symm, (List.cons.inj same).1.symm⟩
  induction plain generalizing before with
  | nil => rfl
  | @pair cs others ih =>
      have first : declaration? ('$' :: '$' :: (cs ++ rest)) = none :=
        declaration?_of_not_prefix fun starts => absurd (opens starts).2 (by decide)
      rw [List.cons_append, List.cons_append, namesFrom_cons_of_none (.inr first),
        namesFrom_cons_of_none (.inl (decide_eq_true rfl)), ih]
      rfl
  | @alone cs noPair noName others ih =>
      have first : declaration? ('$' :: (cs ++ rest)) = none := by
        refine declaration?_of_not_prefix fun starts => ?_
        cases next : cs ++ rest with
        | nil =>
            rw [next] at starts
            exact absurd starts.length_le (by decide)
        | cons d more =>
            rw [next] at starts noName
            obtain rfl := (opens starts).2
            have isName : startsName 's' = true := by decide +kernel
            exact absurd (isName.symm.trans noName) (by decide)
      rw [List.cons_append, namesFrom_cons_of_none (.inr first), ih]
      rfl
  | @plain c cs noDollar others ih =>
      have first : declaration? (c :: (cs ++ rest)) = none := by
        refine declaration?_of_not_prefix fun starts => ?_
        obtain ⟨more, same⟩ := starts
        exact noDollar (List.cons.inj same).1.symm
      rw [List.cons_append, namesFrom_cons_of_none (.inr first), ih]
      rfl

end Search

/-! ### Plain declarations -/

/-- Whether a quoted text stands for itself: no backslash in it starts an escape. -/
def standsForItself : List Char → Bool
  | [] => true
  | ['\\'] => false
  | '\\' :: c :: cs => !(['n', 't', '\\', '"', '\''].contains c) && standsForItself cs
  | _ :: cs => standsForItself cs

/-- The name in a text that is a declaration from its first to its last character, with a name
of one line that stands for itself. -/
def plainName? (cs : List Char) : Option (List Char) :=
  if opening <+: cs then
    match (cs.drop opening.length).dropWhile Character.isBlank with
    | quote :: inside =>
        let name := inside.takeWhile (· ≠ quote)
        if (quote = '"' ∨ quote = '\'') ∧ name ≠ [] ∧ '\n' ∉ name ∧ standsForItself name ∧
            closing? quote (inside.dropWhile (· ≠ quote)) = some [] then
          some name
        else
          none
    | [] => none
  else
    none

/-- A plain declaration has its name between quotes, with blanks around it. -/
theorem of_plainName? {cs name : List Char} (plain : plainName? cs = some name) :
    ∃ front quote back, cs = opening ++ (front ++ quote :: (name ++ quote :: (back ++ [')']))) ∧
      (quote = '"' ∨ quote = '\'') ∧ Blanks front ∧ Blanks back ∧ quote ∉ name ∧ name ≠ [] ∧
      '\n' ∉ name ∧ standsForItself name = true := by
  unfold plainName? at plain
  split at plain
  next starts =>
    obtain ⟨body, rfl⟩ := starts
    rw [List.drop_left] at plain
    split at plain
    next quote inside split =>
      dsimp only at plain
      split at plain
      next facts =>
        obtain ⟨isQuote, given, oneLine, itself, closes⟩ := facts
        cases plain
        obtain ⟨front, whole, blankFront⟩ := append_dropWhile_blanks body
        rw [split] at whole
        have noQuote : quote ∉ inside.takeWhile (· ≠ quote) := fun member =>
          absurd (List.mem_takeWhile_imp member) (by simp)
        obtain ⟨back, after, blankBack⟩ : ∃ back,
            inside.dropWhile (· ≠ quote) = quote :: (back ++ [')']) ∧ Blanks back := by
          unfold closing? at closes
          split at closes
          next c behind same =>
            split at closes
            next isQuote =>
              subst isQuote
              obtain ⟨back, cut, blankBack⟩ := append_dropWhile_blanks behind
              split at closes
              next rest closing =>
                cases closes
                rw [closing] at cut
                exact ⟨back, by rw [same, cut], blankBack⟩
              next => cases closes
            next => cases closes
          next => cases closes
        refine ⟨front, quote, back, ?_, isQuote, blankFront, blankBack, noQuote, given, oneLine,
          itself⟩
        rw [whole, ← after, List.takeWhile_append_dropWhile]
      next => cases plain
    next => cases plain
  next => cases plain

theorem closing?_append {quote : Char} {back : List Char} (blank : Blanks back)
    (rest : List Char) : closing? quote (quote :: (back ++ ')' :: rest)) = some rest := by
  have noBlank : EndsRun Character.isBlank (')' :: rest) := endsRun_cons (by decide) rest
  rw [closing?, if_pos rfl, dropWhile_blanks_append blank noBlank]
  rfl

theorem name?_append {quote : Char} {name stop rest : List Char} (given : name ≠ [])
    (oneLine : '\n' ∉ name) (noQuote : quote ∉ name) (closes : closing? quote stop = some rest) :
    name? quote (name ++ stop) = some (name, rest) := by
  induction name with
  | nil => exact absurd rfl given
  | cons c name ih =>
      rw [List.mem_cons, not_or] at oneLine noQuote
      rw [List.cons_append, name?, if_neg (Ne.symm oneLine.1)]
      cases name with
      | nil => rw [List.nil_append, closes]
      | cons d name =>
          have inside : closing? quote (d :: name ++ stop) = none := by
            have other : d ≠ quote := fun same => noQuote.2 (same ▸ List.mem_cons_self)
            rw [List.cons_append, closing?, if_neg other]
          rw [inside, ih (List.cons_ne_nil d name) oneLine.2 noQuote.2]
          rfl

theorem declaration?_of_plainName? {cs name : List Char} (plain : plainName? cs = some name)
    (rest : List Char) : declaration? (cs ++ rest) = some (name, rest) := by
  obtain ⟨front, quote, back, rfl, isQuote, blankFront, blankBack, noQuote, given, oneLine, -⟩ :=
    of_plainName? plain
  have whole : opening ++ (front ++ quote :: (name ++ quote :: (back ++ [')']))) ++ rest =
      opening ++ (front ++ quote :: (name ++ quote :: (back ++ ')' :: rest))) := by simp
  have noBlank : EndsRun Character.isBlank (quote :: (name ++ quote :: (back ++ ')' :: rest))) := by
    refine endsRun_cons ?_ _
    rcases isQuote with rfl | rfl <;> decide
  have starts : opening.isPrefixOf
      (opening ++ (front ++ quote :: (name ++ quote :: (back ++ ')' :: rest)))) = true :=
    List.isPrefixOf_iff_prefix.mpr (List.prefix_append _ _)
  rw [whole, declaration?, if_pos starts, List.drop_left, dropWhile_blanks_append blankFront noBlank]
  dsimp only
  rw [if_pos isQuote, name?_append given oneLine noQuote (closing?_append blankBack rest)]

theorem namesFrom_of_plainName? {cs name : List Char} (plain : plainName? cs = some name)
    (rest : List Char) :
    namesFrom 0 false (cs ++ rest) = name :: namesFrom 0 (dollarAfter false cs) rest := by
  have found := declaration?_of_plainName? plain rest
  obtain ⟨front, quote, back, same, -⟩ := of_plainName? plain
  obtain ⟨c, body, rfl⟩ : ∃ c body, cs = c :: body := ⟨_, _, same⟩
  have length : (body ++ rest).length - rest.length = body.length := by
    rw [List.length_append, Nat.add_sub_cancel]
  rw [List.cons_append] at found ⊢
  rw [namesFrom, if_neg (Nat.lt_irrefl 0), if_neg Bool.false_ne_true, found]
  dsimp only
  rw [length, namesFrom_skip]
  rfl

/-! ### Expressions without a declaration -/

theorem notMem_of_nameAt {name next : List Char} (named : NameAt name next) : '$' ∉ name := by
  intro member
  have continues := nameAt_all named '$' member
  exact absurd continues (by decide +kernel)

/-- A bracket closes behind every dollar sign. -/
def ClosesDollars (word : List Char) : Prop :=
  ∀ part, part <:+ word → '$' ∈ part → ')' ∈ part

theorem ClosesDollars.of_notMem {word : List Char} (noDollar : '$' ∉ word) : ClosesDollars word :=
  fun _ suffix dollar => absurd (suffix.subset dollar) noDollar

theorem ClosesDollars.append {first second : List Char} (closesFirst : ClosesDollars first)
    (closesSecond : ClosesDollars second) : ClosesDollars (first ++ second) := by
  intro part suffix dollar
  have behind : second <:+ first ++ second := List.suffix_append first second
  rcases List.suffix_or_suffix_of_suffix suffix behind with inSecond | ⟨front, rfl⟩
  · exact closesSecond part inSecond dollar
  rcases List.mem_append.mp dollar with inFront | inSecond
  · have frontSuffix : front <:+ first := by
      obtain ⟨before, same⟩ := suffix
      rw [← List.append_assoc] at same
      exact ⟨before, List.append_cancel_right same⟩
    exact List.mem_append_left second (closesFirst front frontSuffix inFront)
  · exact List.mem_append_right front (closesSecond second List.suffix_rfl inSecond)

theorem closesDollars_of_segmentAt {declared : List String} {word next : List Char} {step : Step}
    (derived : SegmentAt declared word next step) : ClosesDollars word := by
  cases derived with
  | field named => exact .of_notMem (notMem_of_nameAt named)
  | @call name inside _ _ named derived =>
      intro part suffix dollar
      have closed : [')'] <:+ name ++ '(' :: (inside ++ [')']) := ⟨name ++ '(' :: inside, by simp⟩
      rcases List.suffix_or_suffix_of_suffix suffix closed with short | long
      · exact absurd (List.mem_singleton.mp (short.subset dollar)) (by decide)
      · exact long.subset (List.mem_singleton_self ')')

theorem closesDollars_of_stepsAt {declared : List String} {word next : List Char}
    {tree : List Step} (derived : StepsAt declared word next tree) : ClosesDollars word := by
  induction tree generalizing word with
  | nil =>
      cases derived
      exact .of_notMem List.not_mem_nil
  | cons step tree ih =>
      cases derived with
      | @cons segment steps _ _ _ first others =>
          have point : ClosesDollars ['.'] := .of_notMem (by decide)
          exact point.append ((closesDollars_of_segmentAt first).append (ih others))

theorem nameAt_section (cs : List Char) : NameAt "section".toList ('.' :: cs) := by
  have continues : "ection".toList.all continuesName = true := by decide +kernel
  exact .intro (by decide +kernel) (List.all_eq_true.mp continues)
    (endsRun_cons (continuesName_mark '.' (by simp)) cs)

theorem nameAt_id (cs : List Char) : NameAt "id".toList ('(' :: cs) := by
  have continues : "d".toList.all continuesName = true := by decide +kernel
  exact .intro (by decide +kernel) (List.all_eq_true.mp continues)
    (endsRun_cons (continuesName_mark '(' (by simp)) cs)

theorem opening_append (more : List Char) :
    opening ++ more = '$' :: ("section".toList ++ '.' :: ("id".toList ++ '(' :: more)) :=
  rfl

/-- Where a declaration starts with an expression, the expression goes on behind the bracket. -/
theorem length_le_of_opening {declared : List String} {rest more : List Char}
    {expression : Expression}
    (reads : found (readChain declared (opening ++ more)) = some (expression, rest)) :
    rest.length ≤ more.length := by
  rw [opening_append, found_readChain_of_name declared (nameAt_section _)] at reads
  split at reads
  next =>
    obtain ⟨⟨steps, last⟩, stepsRead, same⟩ := Option.map_eq_some_iff.mp reads
    cases same
    rw [found_readSteps_of_call declared (nameAt_id more)] at stepsRead
    obtain ⟨⟨arguments, middle⟩, argumentsRead, stepsRead⟩ := Option.bind_eq_some_iff.mp stepsRead
    obtain ⟨⟨others, last⟩, othersRead, same⟩ := Option.map_eq_some_iff.mp stepsRead
    cases same
    exact (length_le_of_found othersRead).trans (length_le_of_found argumentsRead)
  next => cases reads

/-- What starts a declaration does not start inside of an expression and go on behind it. -/
theorem opening_isPrefix_of_chainAt {declared : List String} {word rest part : List Char}
    {expression : Expression} (derived : ChainAt declared word rest expression)
    (reads : found (readChain declared (word ++ rest)) = some (expression, rest))
    (given : part ≠ []) (suffix : part <:+ word) (starts : opening <+: part ++ rest) :
    opening <+: part := by
  rcases List.prefix_or_prefix_of_prefix starts (List.prefix_append part rest) with inside | short
  · exact inside
  have dollar : '$' ∈ part := by
    obtain ⟨c, cs, rfl⟩ := List.exists_cons_of_ne_nil given
    obtain ⟨more, same⟩ := short
    exact (List.cons.inj same).1 ▸ List.mem_cons_self
  have unclosed : ')' ∉ part := fun member => absurd (short.subset member) (by decide)
  have whole : part = word := by
    cases derived with
    | @intro name steps _ _ named known derived =>
        rcases List.suffix_cons_iff.mp suffix with whole | suffix
        · exact whole
        have closes : ClosesDollars (name ++ steps) :=
          (ClosesDollars.of_notMem (notMem_of_nameAt named)).append
            (closesDollars_of_stepsAt derived)
        exact absurd (closes part suffix dollar) unclosed
  subst whole
  obtain ⟨more, same⟩ := starts
  rw [← same] at reads
  have bound := length_le_of_opening reads
  have lengths := congrArg List.length same
  rw [List.length_append, List.length_append] at lengths
  have longer : opening.length ≤ part.length := by omega
  exact short.eq_of_length_le longer ▸ List.prefix_rfl

/-- Nothing is found in an expression that holds no start of a declaration. -/
theorem namesFrom_of_chainAt {declared : List String} {word rest : List Char}
    {expression : Expression} (derived : ChainAt declared word rest expression)
    (reads : found (readChain declared (word ++ rest)) = some (expression, rest))
    (none : ¬opening <:+: word) (before : Bool) :
    namesFrom 0 before (word ++ rest) = namesFrom 0 (dollarAfter before word) rest := by
  refine namesFrom_append_of_none fun part given suffix => declaration?_of_not_prefix ?_
  intro starts
  have inside := opening_isPrefix_of_chainAt derived reads given suffix starts
  exact none (inside.isInfix.trans suffix.isInfix)

end Anchor

end LayoutBinding
