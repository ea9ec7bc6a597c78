import LayoutBinding.Proofs.Template.Rereading

/-!
# Raw elements

Inside a raw element everything is text up to its end tag.  Where the end tag stands does not
depend on what follows it, and text in front of it stays text in front of another end tag.
-/

namespace LayoutBinding

open Grammar (EndsRun)

namespace Events

section Ends

variable {name : List Char} {c : Char}

theorem sameLetter_of_isCaseless {letter : Char} (isLetter : letter.isAlpha = true)
    (caseless : Character.isCaseless c = true) : sameLetter letter c = false := by
  have lowers : c.toLower ≠ letter := by
    rintro rfl
    have cased := Character.isCaseless_of_isAlpha isLetter
    rw [(Character.toLower_eq_iff caseless).mpr rfl, caseless] at cased
    cases cased
  have others : c ≠ 'ſ' ∧ c ≠ 'ı' ∧ c ≠ 'İ' := by
    refine ⟨?_, ?_, ?_⟩ <;>
    · rintro rfl
      exact absurd caseless (by decide)
  simp [sameLetter, lowers, others]

theorem sameLetter_toLower (c : Char) : sameLetter c.toLower c = true := by
  simp [sameLetter]

theorem afterLetters?_append (letters : ∀ letter ∈ name, letter.isAlpha = true)
    (caseless : Character.isCaseless c = true) (front tail : List Char) :
    afterLetters? name (front ++ c :: tail) =
      (afterLetters? name front).map (· ++ c :: tail) := by
  induction name generalizing front with
  | nil => rfl
  | cons letter name ih =>
      obtain ⟨isLetter, letters⟩ := List.forall_mem_cons.mp letters
      cases front with
      | nil => simp [afterLetters?, sameLetter_of_isCaseless isLetter caseless]
      | cons d front =>
          rw [List.cons_append, afterLetters?, afterLetters?]
          split
          · exact ih letters front
          · rfl

theorem afterLetters?_map_toLower (written out : List Char) :
    afterLetters? (written.map Char.toLower) (written ++ out) = some out := by
  induction written with
  | nil => rfl
  | cons c written ih => rw [List.map_cons, List.cons_append, afterLetters?, sameLetter_toLower,
      if_pos rfl, ih]

theorem bracket?_append (noBlank : Character.isBlank c = false) (other : c ≠ '>')
    (front tail : List Char) :
    bracket? (front ++ c :: tail) = (bracket? front).map (· ++ c :: tail) := by
  have ends : EndsRun Character.isBlank (c :: tail) := fun _ first =>
    Option.some.inj first ▸ noBlank
  rw [bracket?, bracket?, StartTag.dropWhile_append_of_ends ends]
  cases front.dropWhile Character.isBlank with
  | nil =>
      rw [List.nil_append]
      split
      next same => exact absurd (List.cons.inj same).1 other
      next => rfl
  | cons d rest =>
      rw [List.cons_append]
      by_cases bracket : d = '>'
      · subst bracket
        rfl
      · split
        next same => exact absurd (List.cons.inj same).1 bracket
        next =>
          split
          next same => exact absurd (List.cons.inj same).1 bracket
          next => rfl

theorem bracket?_bracket {front : List Char} (first : '>' ∉ front) (out : List Char) :
    bracket? (front ++ '>' :: out) =
      if front.dropWhile Character.isBlank = [] then some out else none := by
  have ends : EndsRun Character.isBlank ('>' :: out) := fun _ first =>
    Option.some.inj first ▸ (by decide)
  rw [bracket?, StartTag.dropWhile_append_of_ends ends]
  cases cut : front.dropWhile Character.isBlank with
  | nil => rfl
  | cons d rest =>
      have member : d ∈ front :=
        (List.dropWhile_suffix Character.isBlank).subset (cut ▸ List.mem_cons_self)
      rw [if_neg (List.cons_ne_nil d rest), List.cons_append]
      split
      next same =>
        obtain rfl : d = '>' := (List.cons.inj same).1
        exact absurd member first
      next => rfl

/-- The end tag of a raw element does not reach over an angle bracket. -/
theorem rawEnd?_append (letters : ∀ letter ∈ name, letter.isAlpha = true) {part : List Char}
    (given : part ≠ []) (tail : List Char) :
    rawEnd? name (part ++ '<' :: tail) = (rawEnd? name part).map (· ++ '<' :: tail) := by
  have ends : EndsRun Character.isBlank ('<' :: tail) := fun _ first =>
    Option.some.inj first ▸ (by decide)
  match part, given with
  | [d], _ =>
      have nothing : rawEnd? name (d :: '<' :: tail) = none := by
        unfold rawEnd?
        split
        next same => cases same
        next => rfl
      have alone : rawEnd? name [d] = none := by
        unfold rawEnd?
        split
        next same => cases same
        next => rfl
      rw [List.singleton_append, nothing, alone, Option.map_none]
  | d :: e :: part, _ =>
      by_cases opens : d = '<' ∧ e = '/'
      · obtain ⟨rfl, rfl⟩ := opens
        rw [List.cons_append, List.cons_append, rawEnd?, rawEnd?,
          StartTag.dropWhile_append_of_ends ends, afterLetters?_append letters (by decide)]
        cases afterLetters? name (part.dropWhile Character.isBlank) with
        | none => rfl
        | some after => exact bracket?_append (by decide) (by decide) after tail
      · have nothing (rest : List Char) : rawEnd? name (d :: e :: rest) = none := by
          unfold rawEnd?
          split
          next same =>
            obtain ⟨isAngle, same⟩ := List.cons.inj same
            exact absurd ⟨isAngle, (List.cons.inj same).1⟩ opens
          next => rfl
        rw [List.cons_append, List.cons_append, nothing, nothing, Option.map_none]

/-- Whether an end tag closes a raw element shows up to its bracket. -/
theorem rawEnd?_bracket (letters : ∀ letter ∈ name, letter.isAlpha = true)
    {inside : List Char} (first : '>' ∉ inside) (out : List Char) :
    rawEnd? name ('<' :: '/' :: (inside ++ '>' :: out)) =
      match afterLetters? name (inside.dropWhile Character.isBlank) with
      | some after => if after.dropWhile Character.isBlank = [] then some out else none
      | none => none := by
  have ends : EndsRun Character.isBlank ('>' :: out) := fun _ first =>
    Option.some.inj first ▸ (by decide)
  rw [rawEnd?, StartTag.dropWhile_append_of_ends ends, afterLetters?_append letters (by decide)]
  cases found : afterLetters? name (inside.dropWhile Character.isBlank) with
  | none => rfl
  | some after =>
      obtain ⟨matched, whole, -⟩ := exists_of_afterLetters? found
      have suffix : after <:+ inside :=
        (whole ▸ List.suffix_append matched after).trans (List.dropWhile_suffix _)
      exact bracket?_bracket (fun member => first (suffix.subset member)) out

theorem plainEndName?_bracket {inside : List Char} (first : '>' ∉ inside) (out : List Char) :
    plainEndName? ('<' :: '/' :: (inside ++ '>' :: out)) =
      match inside.dropWhile Character.isBlank with
      | [] => none
      | c :: rest =>
          if c.isAlpha ∧ (rest.dropWhile continuesEndName).dropWhile Character.isBlank = [] then
            some (String.ofList ((c :: rest.takeWhile continuesEndName).map Char.toLower))
          else
            none := by
  have blankEnds : EndsRun Character.isBlank ('>' :: out) := fun _ first =>
    Option.some.inj first ▸ (by decide)
  have nameEnds : EndsRun continuesEndName ('>' :: out) := fun _ first =>
    Option.some.inj first ▸ (by decide)
  rw [plainEndName?]
  simp only [List.drop_succ_cons, List.drop_zero]
  rw [StartTag.dropWhile_append_of_ends blankEnds]
  cases cut : inside.dropWhile Character.isBlank with
  | nil => rfl
  | cons c rest =>
      have suffix : rest.dropWhile continuesEndName <:+ inside :=
        (List.dropWhile_suffix _).trans
          ((List.suffix_cons c rest).trans (cut ▸ List.dropWhile_suffix _))
      have behind : '>' ∉ rest.dropWhile continuesEndName := fun member =>
        first (suffix.subset member)
      dsimp only [List.cons_append]
      rw [StartTag.dropWhile_append_of_ends nameEnds, StartTag.takeWhile_append_of_ends nameEnds,
        bracket?_bracket behind]
      by_cases letter : c.isAlpha = true
      · by_cases plain : (rest.dropWhile continuesEndName).dropWhile Character.isBlank = []
        · simp [letter, plain]
        · simp [letter, plain]
      · simp [letter]

end Ends

/-! ### Steps inside a raw element -/

/-- The names of the elements whose content is raw. -/
def IsRawName (name : String) : Prop :=
  name = "script" ∨ name = "style"

theorem IsRawName.isAlpha {name : String} (isRaw : IsRawName name) :
    ∀ letter ∈ name.toList, letter.isAlpha = true ∧ letter ≠ 'k' := by
  have letters : ∀ name ∈ ["script", "style"],
      (name.toList.all fun letter => letter.isAlpha && letter != 'k') = true := by
    decide
  have listed : name ∈ ["script", "style"] := by rcases isRaw with rfl | rfl <;> simp
  intro letter member
  simpa using List.all_eq_true.mp (letters name listed) letter member

theorem IsRawName.ne_nil {name : String} (isRaw : IsRawName name) : name.toList ≠ [] := by
  rcases isRaw with rfl | rfl <;> decide

section Steps

variable {name : String}

theorem inRaw_of_closes {cs rest : List Char} (closes : rawEnd? name.toList cs = some rest) :
    inRaw name cs =
      if plainEndName? cs = some name then
        .advance (some (.endTag name)) (cs.length - rest.length)
      else
        .advance (text (cs.take (cs.length - rest.length))) (cs.length - rest.length) := by
  rw [inRaw, splitAtFirst_of_closes closes]

theorem inRaw_of_text {before stop rest : List Char} (given : before ≠ [])
    (closes : rawEnd? name.toList stop = some rest)
    (inside : ∀ part, part ≠ [] → part <:+ before → rawEnd? name.toList (part ++ stop) = none) :
    inRaw name (before ++ stop) = .advance (text before) before.length := by
  rw [inRaw, splitAtFirst_eq_some_iff.mpr ⟨stop, rfl, closes, inside⟩]
  split
  next same => cases same
  next same =>
    cases same
    exact absurd rfl given
  next same =>
    cases same
    rfl

theorem inRaw_endTag (isRaw : IsRawName name) {written : List Char}
    (lowers : StartTag.lowered written = name) (out : List Char) :
    rawEnd? name.toList (['<', '/'] ++ (written ++ ['>']) ++ out) = some out ∧
      inRaw name (['<', '/'] ++ (written ++ ['>']) ++ out) =
        .advance (some (.endTag name)) (['<', '/'] ++ (written ++ ['>'])).length := by
  have letters := isRaw.isAlpha
  have given : written ≠ [] := by
    rintro rfl
    exact isRaw.ne_nil (congrArg String.toList lowers).symm
  have lowerCase : Character.lowerAll written = name.toList := by
    rw [← lowers, StartTag.lowered, String.toList_ofList]
  have ascii : ∀ c ∈ written, c.toNat < 128 := by
    refine Character.lt_of_mem_lowerAll fun d member => ?_
    obtain ⟨letter, other⟩ := letters d (lowerCase ▸ member)
    exact ⟨Character.lt_of_isAlpha letter, other⟩
  rw [Character.lowerAll_of_ascii ascii] at lowerCase
  have isLetter : ∀ c ∈ written, c.isAlpha = true := fun c member =>
    Character.isAlpha_of_toLower (ascii c member)
      (letters _ (lowerCase ▸ List.mem_map_of_mem member)).1
  obtain ⟨c, others, rfl⟩ := List.exists_cons_of_ne_nil given
  have whole : ['<', '/'] ++ (c :: others ++ ['>']) ++ out =
      '<' :: '/' :: (c :: (others ++ '>' :: out)) := by simp
  have closes : rawEnd? name.toList ('<' :: '/' :: (c :: (others ++ '>' :: out))) = some out := by
    have stays : (c :: (others ++ '>' :: out)).dropWhile Character.isBlank =
        c :: others ++ '>' :: out :=
      List.dropWhile_cons_of_neg (by simp [isBlank_of_isAlpha (isLetter c List.mem_cons_self)])
    rw [rawEnd?, stays, ← lowerCase, afterLetters?_map_toLower]
    rfl
  have isName : isEndName (c :: others) = true := by
    refine Bool.and_eq_true_iff.mpr ⟨isLetter c List.mem_cons_self, List.all_eq_true.mpr ?_⟩
    intro d member
    have letter := isLetter d (List.mem_cons_of_mem c member)
    rw [StartTag.continuesName_of_isAlpha letter, isBlank_of_isAlpha letter]
    rfl
  have plain : others.dropWhile continuesEndName = [] := by
    refine List.dropWhile_eq_nil_iff.mpr fun d member => ?_
    simp [continuesEndName, Char.isAlphanum, isLetter d (List.mem_cons_of_mem c member)]
  have length : ('<' :: '/' :: c :: (others ++ '>' :: out)).length - out.length =
      (['<', '/'] ++ (c :: others ++ ['>'])).length := by
    simp only [List.length_cons, List.length_append, List.length_nil]
    omega
  rw [whole]
  refine ⟨closes, ?_⟩
  rw [inRaw_of_closes closes, plainEndName?_of_isEndName isName, if_pos plain, lowers, if_pos rfl,
    length]

/-- What begins like the rest of a template: inside a raw element, an end tag stays one. -/
def Resembles (raw : Option String) (cs out : List Char) : Prop :=
  match raw with
  | none => out.head? = cs.head?
  | some name => (rawEnd? name.toList cs).isSome → (rawEnd? name.toList out).isSome

/-- Text in a raw element that looks like its end tag stays text. -/
theorem inRaw_end_again (isRaw : IsRawName name) {inside : List Char} (first : '>' ∉ inside)
    {rest : List Char} (closes : rawEnd? name.toList ('<' :: '/' :: (inside ++ '>' :: rest)) = some rest)
    (noEnd : plainEndName? ('<' :: '/' :: (inside ++ '>' :: rest)) ≠ some name)
    (out : List Char) :
    rawEnd? name.toList ('<' :: '/' :: (inside ++ '>' :: out)) = some out ∧
      inRaw name ('<' :: '/' :: (inside ++ '>' :: out)) =
        .advance (text ('<' :: '/' :: (inside ++ ['>']))) (inside.length + 3) := by
  have letters : ∀ letter ∈ name.toList, letter.isAlpha = true := fun letter member =>
    (isRaw.isAlpha letter member).1
  have closesToo : rawEnd? name.toList ('<' :: '/' :: (inside ++ '>' :: out)) = some out := by
    rw [rawEnd?_bracket letters first] at closes ⊢
    split at closes
    next =>
      split at closes
      next blank => rw [if_pos blank]
      next => cases closes
    next => cases closes
  have length : ('<' :: '/' :: (inside ++ '>' :: out)).length - out.length = inside.length + 3 := by
    simp only [List.length_cons, List.length_append]
    omega
  have taken : ('<' :: '/' :: (inside ++ '>' :: out)).take (inside.length + 3) =
      '<' :: '/' :: (inside ++ ['>']) := by
    rw [List.take_succ_cons, List.take_succ_cons, List.take_append, List.take_of_length_le
      (Nat.le_succ _), Nat.add_sub_cancel_left]
    rfl
  refine ⟨closesToo, ?_⟩
  rw [inRaw_of_closes closesToo, length, taken, if_neg]
  rwa [plainEndName?_bracket first] at noEnd ⊢

/-- Text in a raw element stays text, in front of another end tag. -/
theorem inRaw_again (isRaw : IsRawName name) {cs : List Char} {event : Option Event}
    {length : Nat} (moved : inRaw name cs = .advance event length) :
    event = some (.endTag name) ∨
      event = text (cs.take length) ∧ ∀ out, Resembles (some name) (cs.drop length) out →
        inRaw name (cs.take length ++ out) = .advance event (cs.take length).length ∧
          Resembles (some name) cs (cs.take length ++ out) := by
  have letters : ∀ letter ∈ name.toList, letter.isAlpha = true := fun letter member =>
    (isRaw.isAlpha letter member).1
  unfold inRaw at moved
  split at moved
  · cases moved
  next rest split =>
    obtain ⟨_, rfl, closes, -⟩ := splitAtFirst_eq_some_iff.mp split
    obtain ⟨_, rfl, inside, rfl, first⟩ := exists_of_rawEnd? closes
    have first := first fun member => absurd (letters _ member) (by decide)
    have front (out : List Char) : '<' :: '/' :: (inside ++ ['>']) ++ out =
        '<' :: '/' :: (inside ++ '>' :: out) := by simp
    dsimp only at moved
    split at moved
    next isEnd =>
      cases moved
      exact .inl rfl
    next noEnd =>
      cases moved
      rw [List.length_append, Nat.add_sub_cancel, List.take_left, List.drop_left]
      rw [front] at noEnd
      rw [front] at closes
      refine .inr ⟨rfl, fun out _ => ?_⟩
      obtain ⟨closesToo, again⟩ := inRaw_end_again isRaw first closes noEnd out
      rw [front]
      refine ⟨by simpa using again, fun _ => ?_⟩
      rw [closesToo]
      rfl
  next before rest other split =>
    cases moved
    obtain ⟨stop, rfl, closes, inside⟩ := splitAtFirst_eq_some_iff.mp split
    have given : before ≠ [] := by
      rintro rfl
      exact other rfl
    rw [List.take_left, List.drop_left]
    refine .inr ⟨rfl, fun out again => ?_⟩
    obtain ⟨rest', closesToo⟩ := Option.isSome_iff_exists.mp
      (again (Option.isSome_iff_exists.mpr ⟨rest, closes⟩))
    -- Both ends start with an angle bracket, over which no other end reaches.
    have angles {stop rest : List Char} (closes : rawEnd? name.toList stop = some rest) :
        ∃ behind, stop = '<' :: behind := by
      obtain ⟨_, rfl, _, rfl, -⟩ := exists_of_rawEnd? closes
      exact ⟨_, rfl⟩
    obtain ⟨behind, rfl⟩ := angles closes
    obtain ⟨behind', rfl⟩ := angles closesToo
    have insideToo : ∀ part, part ≠ [] → part <:+ before →
        rawEnd? name.toList (part ++ '<' :: behind') = none := by
      intro part some suffix
      have nothing := inside part some suffix
      rw [rawEnd?_append letters some, Option.map_eq_none_iff] at nothing ⊢
      exact nothing
    refine ⟨inRaw_of_text given closesToo insideToo, fun starts => ?_⟩
    rw [inside before given List.suffix_rfl] at starts
    cases starts

end Steps

end Events

end LayoutBinding
