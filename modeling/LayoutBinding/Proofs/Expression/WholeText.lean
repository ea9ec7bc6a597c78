import LayoutBinding.Proofs.Expression.Derivation
import LayoutBinding.Proofs.Text.Trimming

/-!
# Whole texts as expressions

A text is read as an expression exactly if the grammar derives it, blanks around
it aside, and every other text is refused with an error of syntax.
-/

namespace LayoutBinding

namespace Expression

open Grammar

theorem trailingCause?_eq_none_iff {input rest : List Char} :
    trailingCause? input rest = none ↔ Blanks rest := by
  have blanksIff : Blanks rest ↔ rest.dropWhile Character.isBlank = [] :=
    List.dropWhile_eq_nil_iff.symm
  rw [blanksIff]
  unfold trailingCause?
  split
  next after =>
    have kept : ('.' :: after).dropWhile Character.isBlank = '.' :: after := by
      rw [List.dropWhile_cons, show Character.isBlank '.' = false by decide]
      rfl
    simp [kept]
  next =>
    split
    next allBlank => simp [allBlank]
    next c more left => simp [left]

/-- A text that does not end with a blank is read as an expression if the chain at
its start leaves nothing. -/
theorem parseChars_eq_ok_iff {declared : List String} {input : List Char}
    (last : ∀ c ∈ input.getLast?, Character.isBlank c = false) {expression : Expression} :
    parseChars declared input = .ok expression ↔
      found (readChain declared input) = some (expression, []) := by
  unfold parseChars
  cases chainRead : readChain declared input with
  | error fault => simp [found]
  | ok result =>
      obtain ⟨read, rest, shorter⟩ := result
      have reads : found (readChain declared input) = some (read, rest) := by
        rw [chainRead]
        rfl
      obtain ⟨word, rfl, _⟩ := chainAt_of_found reads
      have restNil : Blanks rest → rest = [] := by
        intro blank
        cases lastChar : rest.getLast? with
        | none => exact List.getLast?_eq_none_iff.mp lastChar
        | some c =>
            have notBlank := last c (by simp [List.getLast?_append, lastChar])
            simp [blank c (List.mem_of_getLast? lastChar)] at notBlank
      dsimp only [found]
      cases trailing : trailingCause? (word ++ rest) rest with
      | some cause =>
          have notNil : rest ≠ [] := by
            rintro rfl
            have noCause : trailingCause? (word ++ []) [] = none :=
              trailingCause?_eq_none_iff.mpr (by simp [Blanks])
            rw [noCause] at trailing
            cases trailing
          simp [notNil]
      | none =>
          have empty := restNil (trailingCause?_eq_none_iff.mp trailing)
          simp [empty]

/-- Whatever keeps a text from being an expression is an error of syntax. -/
theorem kind_of_parseChars_eq_error {declared : List String} {input : List Char}
    {cause : Cause} (refused : parseChars declared input = .error cause) :
    cause.kind = .parse := by
  unfold parseChars at refused
  split at refused
  next fault _ =>
    cases refused
    cases fault <;> rfl
  next expression rest _ =>
    split at refused
    next found trailing =>
      cases refused
      unfold trailingCause? at trailing
      split at trailing
      · cases trailing
        rfl
      · split at trailing <;> cases trailing
        rfl
    next => cases refused

theorem parse_eq_ok_iff {extra : List String} {text : String} {expression : Expression} :
    parse extra text = .ok expression ↔ Derives extra text expression := by
  have parsed : parse extra text = .ok expression ↔
      parseChars (declaredWith extra) (trim Character.isBlank text.toList) =
        .ok expression := by
    unfold parse
    dsimp only
    cases parseChars (declaredWith extra) (trim Character.isBlank text.toList) <;> simp
  rw [parsed, parseChars_eq_ok_iff (getLast?_trim Character.isBlank text.toList), Derives]
  constructor
  · intro reads
    obtain ⟨word, split, derived⟩ := chainAt_of_found reads
    rw [split, List.append_nil]
    exact derived
  · intro derived
    have reads := found_of_chainAt stops_nil derived
    rwa [List.append_nil] at reads

theorem kind_of_parse_eq_error {extra : List String} {text : String} {error : Error}
    (refused : parse extra text = .error error) :
    error.kind = .parse := by
  unfold parse at refused
  dsimp only at refused
  split at refused
  next => cases refused
  next cause causeRead =>
    cases refused
    exact kind_of_parseChars_eq_error causeRead

/-- Reading a whole text gives the expression that the grammar derives from it, and
for every text from which none is derived an error of syntax. -/
theorem parse_decides_derives (extra : List String) (text : String) :
    (∀ expression, parse extra text = .ok expression ↔ Derives extra text expression) ∧
      ((∃ error, parse extra text = .error error ∧ error.kind = .parse) ↔
        ∀ expression, ¬Derives extra text expression) := by
  refine ⟨fun expression => parse_eq_ok_iff, ?_⟩
  constructor
  · rintro ⟨error, refused, _⟩ expression derived
    rw [parse_eq_ok_iff.mpr derived] at refused
    cases refused
  · intro underivable
    cases outcome : parse extra text with
    | error error => exact ⟨error, rfl, kind_of_parse_eq_error outcome⟩
    | ok expression => exact absurd (parse_eq_ok_iff.mp outcome) (underivable expression)

end Expression

end LayoutBinding
