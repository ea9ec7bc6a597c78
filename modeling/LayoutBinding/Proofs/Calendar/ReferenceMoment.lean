import Mathlib.Data.List.Basic
import Mathlib.Data.Option.Basic
import LayoutBinding.Calendar.ReferenceLayout

/-!
# The reference moment

A layout shows how the reference moment is written, so that the reference moment written as
the layout asks is the layout itself.  Four kinds of chunks are exceptions: the day that is
filled up with a space, the offset that may be a `Z`, a fraction that is trimmed, and one
with more than nine places.  They can be told from the text alone, for what they start with
stands in no other chunk.
-/

namespace LayoutBinding

namespace ReferenceLayout

/-- The moment that layouts show, in a zone seven hours behind universal time. -/
def reference : Moment :=
  ⟨⟨2006, 1, 2, by decide⟩, ⟨15, 4, 5, 0, by decide⟩,
    some ⟨-25200000000, some "MST", by decide⟩⟩

/-! ### What the reference moment shows -/

namespace Chunk

/-- The chunks that the reference moment does not show as they are written. -/
def isRewritten : Chunk → Bool
  | .daySpaced => true
  | .universalOffset _ => true
  | .fraction _ true _ => true
  | .fraction _ false places => 9 < places
  | _ => false

/-- What the reference moment shows: a space in front of the day, the sign of the offset, no
fraction if it is trimmed, and at most nine places of another one.  Every other chunk shows
itself. -/
def rewritten : Chunk → List Char
  | .daySpaced => " 2".toList
  | .universalOffset form => '-' :: form.text.toList
  | .fraction _ true _ => []
  | .fraction mark false places => mark :: List.replicate (min places 9) '0'
  | part => part.text

@[simp]
theorem text_fraction (mark : Char) (trimmed : Bool) (places : Nat) :
    (fraction mark trimmed places).text =
      mark :: List.replicate places (if trimmed then '9' else '0') :=
  rfl

@[simp]
theorem rewritten_trimmed (mark : Char) (places : Nat) :
    (fraction mark true places).rewritten = [] :=
  rfl

@[simp]
theorem rewritten_zeros (mark : Char) (places : Nat) :
    (fraction mark false places).rewritten = mark :: List.replicate (min places 9) '0' :=
  rfl

theorem length_rewritten_le (part : Chunk) : part.rewritten.length ≤ part.text.length := by
  cases part with
  | fraction mark trimmed places =>
      cases trimmed
      · simp only [rewritten_zeros, text_fraction, List.length_cons, List.length_replicate]
        omega
      · exact Nat.zero_le _
  | universalOffset form => exact Nat.le_refl _
  | daySpaced => decide
  | _ => exact Nat.le_refl _

theorem rewritten_eq_text_iff (part : Chunk) :
    part.rewritten = part.text ↔ part.isRewritten = false := by
  cases part with
  | fraction mark trimmed places =>
      cases trimmed
      · have whole : min places 9 = places ↔ places ≤ 9 := by omega
        simp [isRewritten, whole]
      · exact iff_of_false nofun nofun
  | universalOffset form =>
      have signs : 'Z' ≠ '-' := by decide
      exact iff_of_false (fun same => signs (List.cons.inj same).1.symm) nofun
  | daySpaced => decide
  | _ => exact iff_of_true rfl rfl

end Chunk

theorem renderFraction_zero (mark : Char) (trimmed : Bool) (places : Nat) :
    renderFraction mark trimmed places 0 = (Chunk.fraction mark trimmed places).rewritten := by
  have known : (Numeral.padded 6 0).toList ++ ['0', '0', '0'] = List.replicate 9 '0' := by decide
  unfold renderFraction
  simp only [known, List.take_replicate]
  cases trimmed <;> simp

theorem render_reference (part : Chunk) : part.render reference = part.rewritten := by
  cases part with
  | fraction mark trimmed places => exact renderFraction_zero mark trimmed places
  | offset form => cases form <;> decide
  | universalOffset form => cases form <;> decide
  | _ => decide

/-! ### What is rewritten in a text -/

/-- How often a figure stands at the start of a text; not at all if another digit follows. -/
def runOf (figure : Char) (cs : List Char) : Nat :=
  if (cs.dropWhile (· = figure)).head?.any Character.isDigit then
    0
  else
    (cs.takeWhile (· = figure)).length

/-- A layout as the reference moment shows it: a space instead of the underscore before a 2
that does not start the year, a minus sign instead of a `Z` before 07, no mark with a run of
nines behind it, and no more than nine zeros of a run behind a mark.  Everything else is
copied. -/
def rewriteText : List Char → List Char
  | [] => []
  | c :: rest =>
      if c = '_' ∧ "2".toList <+: rest ∧ ¬"2006".toList <+: rest then
        ' ' :: rewriteText rest
      else if c = 'Z' ∧ "07".toList <+: rest then
        '-' :: rewriteText rest
      else if (c = '.' ∨ c = ',') ∧ 0 < runOf '9' rest then
        rewriteText (rest.drop (runOf '9' rest))
      else if (c = '.' ∨ c = ',') ∧ 9 < runOf '0' rest then
        c :: (List.replicate 9 '0' ++ rewriteText (rest.drop (runOf '0' rest)))
      else
        c :: rewriteText rest
termination_by cs => cs.length
decreasing_by
  all_goals simp only [List.length_drop, List.length_cons]
  all_goals omega

/-- No chunk that is shown in another way starts with the character. -/
def isPlain (c : Char) : Bool :=
  c ∉ ['_', 'Z', '.', ',']

theorem rewriteText_cons {c : Char} (plain : isPlain c = true) (rest : List Char) :
    rewriteText (c :: rest) = c :: rewriteText rest := by
  simp only [isPlain, decide_eq_true_eq, List.mem_cons, List.not_mem_nil, or_false, not_or]
    at plain
  simp [rewriteText, plain]

theorem rewriteText_append {word : List Char} (plain : word.all isPlain = true)
    (rest : List Char) : rewriteText (word ++ rest) = word ++ rewriteText rest := by
  induction word with
  | nil => rfl
  | cons c word ih =>
      rw [List.all_cons, Bool.and_eq_true] at plain
      rw [List.cons_append, rewriteText_cons plain.1, ih plain.2]
      rfl

/-! ### Fractions -/

theorem replicate_runOf_append (figure : Char) (cs : List Char) :
    List.replicate (runOf figure cs) figure ++ cs.drop (runOf figure cs) = cs := by
  unfold runOf
  split
  next => rfl
  next =>
    have figures : cs.takeWhile (· = figure) =
        List.replicate (cs.takeWhile (· = figure)).length figure := by
      refine List.eq_replicate_iff.mpr ⟨rfl, fun c member => ?_⟩
      exact of_decide_eq_true (List.all_eq_true.mp List.all_takeWhile c member)
    rw [← figures]
    exact List.prefix_iff_eq_append.mp (List.takeWhile_prefix _)

theorem runOf_cons_of_ne {figure c : Char} (other : c ≠ figure) (rest : List Char) :
    runOf figure (c :: rest) = 0 := by
  simp [runOf, other]

theorem runOf_cons_self (figure : Char) (rest : List Char) :
    runOf figure (figure :: rest) =
      if (rest.dropWhile (· = figure)).head?.any Character.isDigit then 0
      else 1 + (rest.takeWhile (· = figure)).length := by
  simp [runOf, Nat.add_comm]

theorem exists_cons_of_runOf_pos {figure : Char} {cs : List Char} (given : 0 < runOf figure cs) :
    ∃ rest, cs = figure :: rest := by
  cases cs with
  | nil => exact absurd given (Nat.lt_irrefl 0)
  | cons c rest =>
      by_cases same : c = figure
      · exact ⟨rest, by rw [same]⟩
      · rw [runOf_cons_of_ne same] at given
        exact absurd given (Nat.lt_irrefl 0)

namespace Chunk

/-- A fraction is a mark and a run of zeros or nines. -/
theorem fractionAt?_eq_some_iff {cs : List Char} {part : Chunk} :
    fractionAt? cs = some part ↔
      ∃ mark figure rest, cs = mark :: rest ∧ (mark = '.' ∨ mark = ',') ∧
        (figure = '0' ∨ figure = '9') ∧ 0 < runOf figure rest ∧
        part = .fraction mark (figure = '9') (runOf figure rest) := by
  constructor
  · intro found
    unfold fractionAt? at found
    split at found
    next mark figure rest =>
      split at found
      next isFraction =>
        split at found
        next => cases found
        next noDigit =>
          cases found
          have count := runOf_cons_self figure rest
          rw [if_neg noDigit] at count
          refine ⟨mark, figure, figure :: rest, rfl, isFraction.1, isFraction.2, ?_, ?_⟩
          · omega
          · rw [count]
      next => cases found
    next => cases found
  · rintro ⟨mark, figure, rest, rfl, isMark, isFigure, given, rfl⟩
    obtain ⟨rest, rfl⟩ := exists_cons_of_runOf_pos given
    rw [runOf_cons_self] at given ⊢
    unfold fractionAt?
    simp only [if_pos (And.intro isMark isFigure)]
    split at given
    next => exact absurd given (Nat.lt_irrefl 0)
    next noDigit => rw [if_neg noDigit, if_neg noDigit]

theorem text_fraction_of {mark figure : Char} (isFigure : figure = '0' ∨ figure = '9')
    (places : Nat) :
    (fraction mark (figure = '9') places).text = mark :: List.replicate places figure := by
  rcases isFigure with rfl | rfl <;> rfl

end Chunk

theorem rewriteText_mark {mark : Char} (isMark : mark = '.' ∨ mark = ',') (rest : List Char) :
    rewriteText (mark :: rest) =
      if 0 < runOf '9' rest then
        rewriteText (rest.drop (runOf '9' rest))
      else if 9 < runOf '0' rest then
        mark :: (List.replicate 9 '0' ++ rewriteText (rest.drop (runOf '0' rest)))
      else
        mark :: rewriteText rest := by
  rcases isMark with rfl | rfl <;> simp [rewriteText]

/-- A fraction of nines is removed, and one of zeros keeps nine of them. -/
theorem rewriteText_fraction {mark figure : Char} (isMark : mark = '.' ∨ mark = ',')
    (isFigure : figure = '0' ∨ figure = '9') {rest : List Char} (given : 0 < runOf figure rest) :
    rewriteText (mark :: rest) =
      (Chunk.fraction mark (figure = '9') (runOf figure rest)).rewritten ++
        rewriteText (rest.drop (runOf figure rest)) := by
  rw [rewriteText_mark isMark]
  rcases isFigure with rfl | rfl
  · have noNines : runOf '9' rest = 0 := by
      obtain ⟨after, rfl⟩ := exists_cons_of_runOf_pos given
      exact runOf_cons_of_ne (by decide) after
    rw [noNines, if_neg (Nat.lt_irrefl 0)]
    change _ = mark :: (List.replicate (min (runOf '0' rest) 9) '0' ++ _)
    by_cases many : 9 < runOf '0' rest
    · rw [if_pos many, Nat.min_eq_right (Nat.le_of_lt many)]
    · rw [if_neg many, Nat.min_eq_left (Nat.le_of_not_lt many)]
      have plain : (List.replicate (runOf '0' rest) '0').all isPlain = true :=
        List.all_eq_true.mpr fun c member => List.eq_of_mem_replicate member ▸ by decide
      rw [← rewriteText_append plain, replicate_runOf_append]
  · rw [if_pos given]
    rfl

theorem rewriteText_fixed {part : Chunk} (fixed : part ∈ Chunk.table) {after : List Char}
    (noYear : part = .daySpaced → ¬"2006".toList <+: '2' :: after) :
    rewriteText (part.text ++ after) = part.rewritten ++ rewriteText after := by
  cases part with
  | daySpaced =>
      change rewriteText ('_' :: '2' :: after) = ' ' :: '2' :: rewriteText after
      rw [rewriteText, if_pos ⟨rfl, ⟨after, rfl⟩, noYear rfl⟩, rewriteText_cons (by decide)]
  | universalOffset form =>
      have plain : form.text.toList.all isPlain = true := by cases form <;> decide
      have starts : "07".toList <+: form.text.toList ++ after := by
        have starts : "07".toList <+: form.text.toList := by cases form <;> decide
        exact starts.trans (List.prefix_append _ _)
      change rewriteText ('Z' :: (form.text.toList ++ after)) =
        '-' :: (form.text.toList ++ rewriteText after)
      rw [rewriteText, if_neg (fun same => absurd same.1 (by decide)), if_pos ⟨rfl, starts⟩,
        rewriteText_append plain]
  | fraction mark trimmed places => simp [Chunk.table] at fixed
  | offset form => exact rewriteText_append (by cases form <;> decide) after
  | _ => exact rewriteText_append (by decide) after

namespace Chunk

theorem at?_eq_some_iff {cs : List Char} {part : Chunk} :
    at? cs = some part ↔ ¬"_2006".toList <+: cs ∧
      (fractionAt? cs = some part ∨
        fractionAt? cs = none ∧ table.find? (startsWith · cs) = some part) := by
  unfold at?
  split
  next year =>
    exact iff_of_false nofun fun given => given.1 (List.isPrefixOf_iff_prefix.mp year)
  next noYear =>
    rw [List.isPrefixOf_iff_prefix] at noYear
    rw [Option.orElse_eq_some, and_iff_right noYear]

theorem exists_of_at? {cs : List Char} {part : Chunk} (found : at? cs = some part) :
    ∃ after, cs = part.text ++ after ∧ rewriteText cs = part.rewritten ++ rewriteText after := by
  obtain ⟨noYear, fraction | ⟨-, fixed⟩⟩ := at?_eq_some_iff.mp found
  · obtain ⟨mark, figure, rest, rfl, isMark, isFigure, given, rfl⟩ :=
      fractionAt?_eq_some_iff.mp fraction
    refine ⟨rest.drop (runOf figure rest), ?_, rewriteText_fraction isMark isFigure given⟩
    rw [text_fraction_of isFigure, List.cons_append, replicate_runOf_append]
  · have starts : startsWith part cs = true := List.find?_some (p := (startsWith · cs)) fixed
    rw [startsWith, Bool.and_eq_true, List.isPrefixOf_iff_prefix] at starts
    obtain ⟨after, rfl⟩ := starts.1
    refine ⟨after, rfl, rewriteText_fixed (List.mem_of_find?_eq_some fixed) ?_⟩
    rintro rfl year
    exact noYear ((List.prefix_cons_inj '_').mpr year)

theorem at?_eq_none_iff {cs : List Char} :
    at? cs = none ↔ "_2006".toList <+: cs ∨
      fractionAt? cs = none ∧ ∀ part ∈ table, startsWith part cs = false := by
  unfold at?
  split
  next year => exact iff_of_true rfl (.inl (List.isPrefixOf_iff_prefix.mp year))
  next noYear =>
    rw [List.isPrefixOf_iff_prefix] at noYear
    rw [Option.orElse_eq_none, List.find?_eq_none, or_iff_right noYear]
    simp

theorem startsWith_of_prefix {part : Chunk} {cs : List Char} (starts : part.text <+: cs)
    (long : part ≠ .monthShort ∧ part ≠ .weekdayShort) : startsWith part cs = true := by
  simp [startsWith, long, List.isPrefixOf_iff_prefix.mpr starts]

theorem rewriteText_of_at?_eq_none {c : Char} {rest : List Char}
    (missing : at? (c :: rest) = none) : rewriteText (c :: rest) = c :: rewriteText rest := by
  rcases at?_eq_none_iff.mp missing with year | ⟨noFraction, noFixed⟩
  · have spelled : '_' :: "2006".toList <+: c :: rest := year
    obtain ⟨rfl, digits⟩ := List.cons_prefix_cons.mp spelled
    rw [rewriteText, if_neg fun given => given.2.2 digits]
    simp
  · have noDay : ¬(c = '_' ∧ "2".toList <+: rest ∧ ¬"2006".toList <+: rest) := by
      rintro ⟨rfl, day, -⟩
      have written : text .daySpaced <+: '_' :: rest := (List.prefix_cons_inj '_').mpr day
      have starts := startsWith_of_prefix written (by decide)
      rw [noFixed .daySpaced (by decide)] at starts
      cases starts
    have noOffset : ¬(c = 'Z' ∧ "07".toList <+: rest) := by
      rintro ⟨rfl, offset⟩
      have written : text (.universalOffset .hours) <+: 'Z' :: rest :=
        (List.prefix_cons_inj 'Z').mpr offset
      have starts := startsWith_of_prefix written (by decide)
      rw [noFixed (.universalOffset .hours) (by decide)] at starts
      cases starts
    have noRun (figure : Char) (isFigure : figure = '0' ∨ figure = '9') :
        ¬((c = '.' ∨ c = ',') ∧ 0 < runOf figure rest) := by
      rintro ⟨isMark, given⟩
      have fraction := fractionAt?_eq_some_iff.mpr
        ⟨c, figure, rest, rfl, isMark, isFigure, given, rfl⟩
      rw [noFraction] at fraction
      cases fraction
    have noZeros : ¬((c = '.' ∨ c = ',') ∧ 9 < runOf '0' rest) := fun given =>
      noRun '0' (.inl rfl) ⟨given.1, Nat.zero_lt_of_lt given.2⟩
    rw [rewriteText, if_neg noDay, if_neg noOffset, if_neg (noRun '9' (.inr rfl)),
      if_neg noZeros]

theorem text_ne_nil (part : Chunk) : part.text ≠ [] := by
  cases part with
  | fraction mark trimmed places => exact List.cons_ne_nil _ _
  | offset form => exact List.cons_ne_nil _ _
  | universalOffset form => exact List.cons_ne_nil _ _
  | _ => decide

end Chunk

/-! ### Pieces and tokens -/

/-- A copied character, or what is written for a chunk. -/
def Piece.withChunks (write : Chunk → List Char) : Piece → List Char
  | .char c => [c]
  | .chunk part => write part

/-- Copied characters, or what is written for a chunk. -/
def Token.withChunks (write : Chunk → List Char) : Token → List Char
  | .literal text => text
  | .chunk part => write part

theorem Token.text_eq : Token.text = withChunks Chunk.text := by
  funext token
  cases token <;> rfl

theorem Token.render_eq (m : Moment) : Token.render m = withChunks (Chunk.render m) := by
  funext token
  cases token <;> rfl

theorem flatMap_withChunks_group (write : Chunk → List Char) (parts : List Piece) :
    (group parts).flatMap (Token.withChunks write) = parts.flatMap (Piece.withChunks write) := by
  fun_induction group parts with
  | case1 => rfl
  | case2 part rest ih =>
      rw [List.flatMap_cons, List.flatMap_cons, ih]
      rfl
  | case3 c rest text tokens grouped ih =>
      rw [grouped, List.flatMap_cons] at ih
      rw [List.flatMap_cons, List.flatMap_cons, ← ih]
      rfl
  | case4 c rest notLiteral ih =>
      rw [List.flatMap_cons, List.flatMap_cons, ih]
      rfl

/-- The pieces of a layout are written as the layout, and rewritten as it is rewritten. -/
theorem flatMap_withChunks_pieces (cs : List Char) :
    (pieces cs).flatMap (Piece.withChunks Chunk.text) = cs ∧
      (pieces cs).flatMap (Piece.withChunks Chunk.rewritten) = rewriteText cs := by
  fun_induction pieces cs with
  | case1 => exact ⟨rfl, by rw [rewriteText]; rfl⟩
  | case2 c rest part found ih =>
      obtain ⟨after, split, rewrites⟩ := Chunk.exists_of_at? found
      obtain ⟨d, word, spelled⟩ := List.exists_cons_of_ne_nil part.text_ne_nil
      have behind : rest.drop (part.text.length - 1) = after := by
        rw [spelled, List.cons_append] at split
        rw [(List.cons.inj split).2, spelled, List.length_cons, Nat.add_sub_cancel,
          List.drop_left]
      rw [behind] at ih ⊢
      rw [List.flatMap_cons, List.flatMap_cons, ih.1, ih.2]
      exact ⟨split.symm, rewrites.symm⟩
  | case3 c rest missing ih =>
      rw [List.flatMap_cons, List.flatMap_cons, ih.1, ih.2,
        Chunk.rewriteText_of_at?_eq_none missing]
      exact ⟨rfl, rfl⟩

theorem flatMap_text_tokens (layout : String) :
    (tokens layout).flatMap Token.text = layout.toList := by
  rw [Token.text_eq, tokens, flatMap_withChunks_group, (flatMap_withChunks_pieces _).1]

namespace Token

/-- What the reference moment shows of a token. -/
def rewritten : Token → List Char :=
  withChunks Chunk.rewritten

/-- Whether the reference moment shows the token in another way than it is written. -/
def isRewritten : Token → Bool
  | .literal _ => false
  | .chunk part => part.isRewritten

theorem length_rewritten_le (token : Token) : token.rewritten.length ≤ token.text.length := by
  cases token with
  | literal text => exact Nat.le_refl _
  | chunk part => exact part.length_rewritten_le

theorem rewritten_eq_text_iff (token : Token) :
    token.rewritten = token.text ↔ token.isRewritten = false := by
  cases token with
  | literal text => exact iff_of_true rfl rfl
  | chunk part => exact part.rewritten_eq_text_iff

end Token

theorem flatMap_rewritten_tokens (layout : String) :
    (tokens layout).flatMap Token.rewritten = rewriteText layout.toList := by
  rw [Token.rewritten, tokens, flatMap_withChunks_group, (flatMap_withChunks_pieces _).2]

theorem length_flatMap_rewritten_le (tokens : List Token) :
    (tokens.flatMap Token.rewritten).length ≤ (tokens.flatMap Token.text).length := by
  induction tokens with
  | nil => exact Nat.le_refl _
  | cons token tokens ih =>
      rw [List.flatMap_cons, List.flatMap_cons, List.length_append, List.length_append]
      exact Nat.add_le_add token.length_rewritten_le ih

/-- Nothing that is shown is longer than it is written, so that a shorter token cannot be made
up for by another one. -/
theorem flatMap_rewritten_eq_iff (tokens : List Token) :
    tokens.flatMap Token.rewritten = tokens.flatMap Token.text ↔
      ∀ token ∈ tokens, token.isRewritten = false := by
  induction tokens with
  | nil => exact iff_of_true rfl nofun
  | cons token tokens ih =>
      rw [List.flatMap_cons, List.flatMap_cons, List.forall_mem_cons, ← ih,
        ← token.rewritten_eq_text_iff]
      constructor
      · intro same
        have lengths := congrArg List.length same
        rw [List.length_append, List.length_append] at lengths
        have first := token.length_rewritten_le
        have others := length_flatMap_rewritten_le tokens
        exact List.append_inj same (by omega)
      · rintro ⟨first, others⟩
        rw [first, others]

/-! ### The layout as it is shown -/

/-- The reference moment shows a layout with its tokens rewritten.  What is rewritten can be
told from the text alone, and nothing is if no token is of a kind that is rewritten. -/
theorem format_reference (layout : String) :
    (tokens layout).flatMap Token.text = layout.toList ∧
      reference.format layout = String.ofList ((tokens layout).flatMap Token.rewritten) ∧
      reference.format layout = String.ofList (rewriteText layout.toList) ∧
      (reference.format layout = layout ↔
        ∀ token ∈ tokens layout, token.isRewritten = false) := by
  have tiles := flatMap_text_tokens layout
  have shown : reference.format layout =
      String.ofList ((tokens layout).flatMap Token.rewritten) := by
    rw [Moment.format, Token.render_eq, funext render_reference]
    rfl
  refine ⟨tiles, shown, ?_, ?_⟩
  · rw [shown, flatMap_rewritten_tokens]
  · rw [shown, ← flatMap_rewritten_eq_iff, tiles, ← String.toList_inj, String.toList_ofList]

example : reference.format "Mon Jan _2 15:04:05.000 Z07:00 2006 (_2006, January 02)" =
    "Mon Jan  2 15:04:05.000 -07:00 2006 (_2006, January 02)" := by
  decide +kernel

end ReferenceLayout

end LayoutBinding
