import LayoutBinding.Proofs.Expression.Words
import LayoutBinding.Proofs.Template.TagReading

/-!
# Text that starts like a tag

An attribute ends where another one can follow, or at a bracket, a slash or an equals sign.
So what starts like a tag is text only where a null character ends the name.
-/

namespace LayoutBinding

namespace StartTag

/-- Whether a tag may close or go on at a character that is no attribute. -/
def isStop (c : Char) : Bool :=
  c = '>' || c = '/' || c = '='

theorem isStop_of_not_continuesAttribute {c : Char} (stops : continuesAttribute c = false)
    (noBlank : Character.isBlank c = false) : isStop c = true := by
  simp only [continuesAttribute, startsAttribute, noBlank, Bool.false_or, Bool.and_eq_false_iff,
    Bool.not_eq_false', Bool.or_eq_true, decide_eq_true_eq, ne_eq, decide_not] at stops
  rcases stops with (rfl | rfl) | rfl <;> rfl

theorem exists_skipped (cs : List Char) :
    ∃ skipped, cs = skipped ++ skipSeparators cs ∧
      (∀ c ∈ skipped, Character.isBlank c = true ∨ c = '/') ∧
      ∀ c ∈ (skipSeparators cs).head?, Character.isBlank c = false := by
  fun_induction skipSeparators cs with
  | case1 => exact ⟨[], rfl, List.forall_mem_nil _, fun _ first => by cases first⟩
  | case2 c skips =>
      refine ⟨[c], rfl, fun d member => ?_, fun _ first => by cases first⟩
      obtain rfl := List.mem_singleton.mp member
      simpa using skips
  | case3 c stays =>
      refine ⟨[], rfl, List.forall_mem_nil _, fun d first => ?_⟩
      obtain rfl := Option.some.inj first
      simp only [Bool.or_eq_true, not_or, Bool.not_eq_true] at stays
      exact stays.1
  | case4 c d cs skips ih =>
      obtain ⟨skipped, whole, separators, noBlank⟩ := ih
      refine ⟨c :: skipped, by rw [List.cons_append, ← whole], ?_, noBlank⟩
      refine List.forall_mem_cons.mpr ⟨?_, separators⟩
      rcases Bool.or_eq_true_iff.mp skips with blank | slash
      · exact .inl blank
      · exact .inr (of_decide_eq_true (Bool.and_eq_true_iff.mp slash).1)
  | case5 c d cs stays =>
      refine ⟨[], rfl, List.forall_mem_nil _, fun e first => ?_⟩
      obtain rfl := Option.some.inj first
      simp only [Bool.or_eq_true, not_or, Bool.not_eq_true] at stays
      exact stays.1

theorem bare_ends (cs : List Char) :
    ∀ c ∈ (bare cs).rest.head?, Character.isBlank c = true ∨ c = '>' := by
  intro c first
  have stops := List.head?_dropWhile_not continuesBare cs
  rw [bare] at first
  rw [Option.mem_def.mp first] at stops
  simpa only [continuesBare, Bool.not_eq_false', Bool.or_eq_true, decide_eq_true_eq] using stops

theorem value?_ends {cs : List Char} {value : Value} (found : value? cs = some value) :
    (∃ quote, isQuote quote = true ∧ quote :: value.rest <:+ cs) ∨
      ∀ c ∈ value.rest.head?, Character.isBlank c = true ∨ c = '>' := by
  simp only [value?] at found
  have afterEquals : (cs.dropWhile Character.isBlank).dropWhile (· = '=') <:+ cs :=
    (List.dropWhile_suffix _).trans (List.dropWhile_suffix _)
  generalize (cs.dropWhile Character.isBlank).dropWhile (fun c => decide (c = '=')) = after
    at afterEquals found
  have blanks := List.takeWhile_append_dropWhile (p := Character.isBlank) (l := after)
  split at found
  · cases found
  · split at found
    · cases found
      exact .inr fun _ first => by cases first
    next c inside starts =>
      have behind : c :: inside <:+ cs :=
        (starts ▸ List.dropWhile_suffix Character.isBlank).trans afterEquals
      split at found
      next quote =>
        split at found
        next d rest closes =>
          cases found
          have stops := List.head?_dropWhile_not (· ≠ c) inside
          rw [closes, List.head?_cons] at stops
          obtain rfl : d = c := by simpa using stops
          have within : d :: rest <:+ inside := closes ▸ List.dropWhile_suffix _
          exact .inl ⟨d, quote, within.trans ((List.suffix_cons d inside).trans behind)⟩
        next =>
          split at found
          next given =>
            cases found
            right
            intro d first
            have last : (after.takeWhile Character.isBlank).length - 1 <
                (after.takeWhile Character.isBlank).length :=
              Nat.sub_lt (List.length_pos_iff.mpr given) Nat.zero_lt_one
            rw [List.head?_drop] at first
            generalize (after.takeWhile Character.isBlank).length - 1 = index at first last
            rw [← blanks, List.getElem?_append_left last] at first
            exact .inl (List.mem_takeWhile_imp (List.mem_of_getElem? first))
          next =>
            split at found
            · cases found
              exact .inr (bare_ends _)
            · cases found
      next =>
        cases found
        exact .inr (bare_ends _)

theorem separates_of_separator {c : Char} (separator : Character.isBlank c = true ∨ c = '/') :
    separates c = true := by
  simp only [separates, Bool.or_eq_true, decide_eq_true_eq]
  exact separator.elim (fun blank => .inl (.inr blank)) .inr

/-- After an attribute another one can follow, or it ends at a stop. -/
theorem separates_or_isStop {before : Char} {cs : List Char} {found : Written}
    (read : attribute? cs = some found) :
    separates (lastBefore before cs (skipSeparators found.rest)) = true ∨
      ∀ c ∈ (skipSeparators found.rest).head?, isStop c = true := by
  obtain ⟨skipped, whole, separators, noBlank⟩ := exists_skipped found.rest
  obtain ⟨used, cut⟩ := (attribute?_suffix read).trans (List.tail_suffix cs)
  rw [← cut]
  generalize skipSeparators found.rest = rest at whole noBlank ⊢
  by_cases something : skipped = []
  · subst something
    rw [List.nil_append] at whole
    subst whole
    rw [lastBefore_append]
    obtain ⟨c, body, rfl, -, made⟩ := attribute?_eq_some_iff.mp read
    have afterName := List.dropWhile_suffix continuesAttribute (l := body)
    split at made
    next value given =>
      rw [congrArg Written.rest made] at cut noBlank ⊢
      rcases value?_ends given with ⟨quote, isQuote, suffix⟩ | ends
      · left
        obtain ⟨front, same⟩ := (suffix.trans afterName).trans (List.suffix_cons c body)
        rw [← same, List.append_cons] at cut
        rw [List.append_cancel_right cut, List.getLast?_concat]
        simp [separates, isQuote]
      · right
        intro d first
        rcases ends d first with blank | rfl
        · exact absurd blank (by rw [noBlank d first]; decide)
        · rfl
    next =>
      right
      rw [congrArg Written.rest made] at noBlank ⊢
      intro d first
      have stops := List.head?_dropWhile_not continuesAttribute body
      rw [Option.mem_def.mp first] at stops
      exact isStop_of_not_continuesAttribute stops (noBlank d first)
  · left
    rw [whole, ← List.append_assoc, lastBefore_append, List.getLast?_append,
      List.getLast?_eq_some_getLast something, Option.some_or]
    exact separates_of_separator (separators _ (List.getLast_mem something))

/-- Attributes are read up to a stop, if one can follow what precedes them. -/
theorem isStop_of_attributesUpTo {fuel : Nat} {before : Char} {cs : List Char}
    (enough : cs.length ≤ fuel) (noBlank : ∀ c ∈ cs.head?, Character.isBlank c = false)
    (starts : separates before = true ∨ ∀ c ∈ cs.head?, isStop c = true) :
    ∀ c ∈ (attributesUpTo fuel before cs).2.head?, isStop c = true := by
  induction fuel generalizing before cs with
  | zero =>
      obtain rfl : cs = [] := List.eq_nil_of_length_eq_zero (Nat.le_zero.mp enough)
      exact fun _ first => by cases first
  | succ fuel ih =>
      cases separated : separates before with
      | false =>
          rw [attributesUpTo_of_joined separated]
          rw [separated] at starts
          exact starts.resolve_left (by decide)
      | true =>
          cases read : attribute? cs with
          | none =>
              rw [attributesUpTo_of_none read]
              intro c first
              obtain ⟨rest, rfl⟩ := List.head?_eq_some_iff.mp first
              have noName : startsAttribute c = false := by
                by_contra starts
                rw [Bool.not_eq_false] at starts
                rw [attribute?, if_pos starts] at read
                dsimp only at read
                split at read <;> cases read
              refine isStop_of_not_continuesAttribute ?_ (noBlank c first)
              rw [continuesAttribute, noName, Bool.false_and]
          | some found =>
              rw [attributesUpTo_of_some separated read]
              obtain ⟨-, -, -, noBlankNext⟩ := exists_skipped found.rest
              have shorter := ((skipSeparators_suffix _).trans (attribute?_suffix read)).length_le
              rw [List.length_tail] at shorter
              exact ih (by omega) noBlankNext (separates_or_isStop read)

/-- Where nothing separates the name of a tag from what follows it, no attribute is read. -/
theorem attributesOf_of_joined {cs : List Char}
    (noSeparators : skipSeparators (afterNameOf cs) = afterNameOf cs)
    (joined : separates ((nameOf cs).getLast?.getD '<') = false) :
    attributesOf cs = ([], afterNameOf cs) := by
  rw [attributesOf, readAttributes, noSeparators, lastBefore_self]
  cases (afterNameOf cs).length with
  | zero => rfl
  | succ fuel => exact attributesUpTo_of_joined joined

theorem eq_null_of_afterNameOf {cs tail : List Char} {d : Char}
    (starts : afterNameOf cs = d :: tail) (noBlank : Character.isBlank d = false)
    (noStop : isStop d = false) : d = '\x00' := by
  have stops := List.head?_dropWhile_not continuesName (cs.drop 1)
  have behind : (cs.drop 1).dropWhile continuesName = d :: tail := starts
  rw [behind] at stops
  simp only [List.head?_cons, continuesName, Bool.not_eq_false', Bool.or_eq_true,
    decide_eq_true_eq] at stops
  rcases stops with ((((((rfl | rfl) | rfl) | rfl) | rfl) | rfl) | rfl) | rfl
  all_goals first | rfl | exact absurd noBlank (by decide) | exact absurd noStop (by decide)

theorem not_isStop_of_read_eq_text {c : Char} {cs : List Char} {length : Nat}
    (found : read (c :: cs) = .text length) :
    ¬∀ d ∈ (attributesOf (c :: cs)).2.head?, isStop d = true := by
  intro stops
  rw [read_eq] at found
  split at found
  · cases found
  · unfold complete at found
    split at found <;> cases found
  · unfold complete at found
    split at found <;> cases found
  next d rest noBracket _ starts =>
    have stop := stops d (by rw [starts]; rfl)
    simp only [isStop, Bool.or_eq_true, decide_eq_true_eq] at stop
    split at found
    · cases found
    next ends =>
      rcases stop with (rfl | rfl) | rfl
      · exact noBracket rfl
      · exact ends (by decide)
      · exact ends (by decide)

/-- The attributes end before a stop, unless nothing separates the name of the tag from what
follows it. -/
theorem joined_of_not_isStop {c : Char} {cs : List Char}
    (noStop : ¬∀ d ∈ (attributesOf (c :: cs)).2.head?, isStop d = true) :
    skipSeparators (afterNameOf (c :: cs)) = afterNameOf (c :: cs) ∧
      separates ((nameOf (c :: cs)).getLast?.getD '<') = false := by
  obtain ⟨skipped, whole, separators, noBlank⟩ := exists_skipped (afterNameOf (c :: cs))
  have joined : separates (lastBefore ((nameOf (c :: cs)).getLast?.getD '<')
      (afterNameOf (c :: cs)) (skipSeparators (afterNameOf (c :: cs)))) = false := by
    by_contra separated
    rw [Bool.not_eq_false] at separated
    exact noStop (isStop_of_attributesUpTo (skipSeparators_suffix _).length_le noBlank
      (.inl separated))
  have nothing : skipped = [] := by
    by_contra something
    have last : lastBefore ((nameOf (c :: cs)).getLast?.getD '<') (afterNameOf (c :: cs))
        (skipSeparators (afterNameOf (c :: cs))) = skipped.getLast something := by
      conv => lhs; arg 2; rw [whole]
      rw [lastBefore_append, List.getLast?_eq_some_getLast something, Option.getD_some]
    rw [last, separates_of_separator (separators _ (List.getLast_mem something))] at joined
    cases joined
  rw [nothing, List.nil_append] at whole
  rw [← whole, lastBefore_self] at joined
  exact ⟨whole.symm, joined⟩

/-- What starts like a tag is text only where a null character ends the name of the tag. -/
theorem read_eq_text {c : Char} {cs : List Char} {length : Nat}
    (found : read (c :: cs) = .text length) :
    (∃ tail, afterNameOf (c :: cs) = '\x00' :: tail) ∧ length = 1 + (nameOf (c :: cs)).length ∧
      separates ((nameOf (c :: cs)).getLast?.getD '<') = false := by
  have noStop := not_isStop_of_read_eq_text found
  obtain ⟨noSeparators, joined⟩ := joined_of_not_isStop noStop
  obtain ⟨-, -, -, noBlank⟩ := exists_skipped (afterNameOf (c :: cs))
  have attributes := attributesOf_of_joined noSeparators joined
  rw [attributes] at noStop
  rw [noSeparators] at noBlank
  obtain ⟨d, tail, starts⟩ : ∃ d tail, afterNameOf (c :: cs) = d :: tail := by
    refine List.exists_cons_of_ne_nil fun nothing => noStop ?_
    rw [nothing]
    exact fun _ first => by cases first
  rw [starts] at noBlank noStop
  have noBlank := noBlank d rfl
  have noStop : isStop d = false := by
    by_contra stop
    rw [Bool.not_eq_false] at stop
    refine noStop fun e first => ?_
    obtain rfl := Option.some.inj first
    exact stop
  obtain rfl := eq_null_of_afterNameOf starts noBlank noStop
  refine ⟨⟨tail, starts⟩, ?_, joined⟩
  have split : nameOf (c :: cs) ++ afterNameOf (c :: cs) = cs := List.takeWhile_append_dropWhile
  have lengths := congrArg List.length split
  rw [read_eq, attributes, starts] at found
  rw [starts, List.length_append] at lengths
  have taken : (c :: cs).length - ('\x00' :: tail).length = length := Reading.text.inj found
  rw [← taken, List.length_cons, ← lengths]
  omega

theorem read_null {c : Char} {name tail : List Char}
    (continues : ∀ d ∈ name, continuesName d = true)
    (joined : separates (name.getLast?.getD '<') = false) :
    read (c :: (name ++ '\x00' :: tail)) = .text (1 + name.length) := by
  have ends : Grammar.EndsRun continuesName ('\x00' :: tail) := fun _ first =>
    Option.some.inj first ▸ (by decide)
  have isName : nameOf (c :: (name ++ '\x00' :: tail)) = name :=
    Expression.takeWhile_append_of_endsRun continues ends
  have behind : afterNameOf (c :: (name ++ '\x00' :: tail)) = '\x00' :: tail :=
    Expression.dropWhile_append_of_endsRun continues ends
  have attributes : attributesOf (c :: (name ++ '\x00' :: tail)) = ([], '\x00' :: tail) := by
    have noSeparators : skipSeparators ('\x00' :: tail) = '\x00' :: tail :=
      skipSeparators_of_starts (by decide)
    rw [← isName] at joined
    rw [attributesOf_of_joined (by rw [behind, noSeparators]) joined, behind]
  have length : (c :: (name ++ '\x00' :: tail)).length - ('\x00' :: tail).length =
      1 + name.length := by
    rw [List.length_cons, List.length_append]
    omega
  rw [read_eq, attributes]
  simp only [length]
  rfl

end StartTag

end LayoutBinding
