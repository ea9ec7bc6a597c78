import LayoutBinding.Proofs.Expression.Grammar

/-!
# Words of expressions

Names, strings and numbers are read up to the first character that is not part of
them.  What is cut off in this way is the word of the grammar, and every word of
the grammar is cut off in this way.
-/

namespace LayoutBinding

namespace Character

def blankCodes : List Nat :=
  [9, 10, 11, 12, 13, 28, 29, 30, 31, 32, 133, 160, 5760, 8192, 8193, 8194, 8195, 8196, 8197,
    8198, 8199, 8200, 8201, 8202, 8232, 8233, 8239, 8287, 12288]

theorem toNat_mem_blankCodes {c : Char} (blank : isBlank c = true) :
    c.toNat ∈ blankCodes := by
  simp only [isBlank, listed, blankRanges, List.any_cons, List.any_nil, Bool.or_eq_true,
    Bool.and_eq_true, decide_eq_true_eq, Bool.or_false] at blank
  simp only [blankCodes, List.mem_cons, List.not_mem_nil, or_false]
  omega

theorem isAlphanumeric_ofNat_of_mem_blankCodes :
    ∀ code ∈ blankCodes, isAlphanumeric (Char.ofNat code) = false := by
  decide +kernel

theorem isAlphanumeric_eq_false_of_isBlank {c : Char} (blank : isBlank c = true) :
    isAlphanumeric c = false := by
  have listed := isAlphanumeric_ofNat_of_mem_blankCodes c.toNat (toNat_mem_blankCodes blank)
  rwa [Char.ofNat_toNat] at listed

end Character

namespace Expression

open Grammar

theorem continuesName_eq_false_of_isBlank {c : Char} (blank : Character.isBlank c = true) :
    continuesName c = false := by
  have notUnderscore : c ≠ '_' := by
    rintro rfl
    exact absurd blank (by decide)
  simp [continuesName, Character.isAlphanumeric_eq_false_of_isBlank blank, notUnderscore]

theorem isDigit_eq_false_of_isBlank {c : Char} (blank : Character.isBlank c = true) :
    Character.isDigit c = false := by
  have numeral := Character.isAlphanumeric_eq_false_of_isBlank blank
  simp only [Character.isAlphanumeric, Bool.or_eq_false_iff] at numeral
  exact numeral.1.2

/-! ### Runs of characters -/

theorem takeWhile_append_of_endsRun {test : Char → Bool} {run next : List Char}
    (inside : ∀ c ∈ run, test c = true) (ends : EndsRun test next) :
    (run ++ next).takeWhile test = run := by
  rw [List.takeWhile_append_of_pos inside]
  cases next with
  | nil => simp
  | cons c cs => simp [ends c rfl]

theorem dropWhile_append_of_endsRun {test : Char → Bool} {run next : List Char}
    (inside : ∀ c ∈ run, test c = true) (ends : EndsRun test next) :
    (run ++ next).dropWhile test = next := by
  rw [List.dropWhile_append_of_pos inside]
  cases next with
  | nil => rfl
  | cons c cs => simp [ends c rfl]

theorem endsRun_dropWhile (test : Char → Bool) (cs : List Char) :
    EndsRun test (cs.dropWhile test) := by
  intro c first
  have stopped := List.head?_dropWhile_not test cs
  rw [Option.mem_def.mp first] at stopped
  simpa using stopped

theorem mem_takeWhile {test : Char → Bool} {cs : List Char} :
    ∀ c ∈ cs.takeWhile test, test c = true :=
  List.all_eq_true.mp List.all_takeWhile

/-! ### Names -/

theorem nameAt_all {name next : List Char} (named : NameAt name next) :
    ∀ c ∈ name, continuesName c = true := by
  cases named with
  | intro starts continues maximal =>
      intro c member
      rcases List.mem_cons.mp member with rfl | member
      · exact continuesName_of_startsName starts
      · exact continues c member

theorem nameAt_ends {name next : List Char} (named : NameAt name next) :
    EndsRun continuesName next := by
  cases named with
  | intro _ _ maximal => exact maximal

theorem nameAt_before {name next other : List Char} (named : NameAt name next)
    (ends : EndsRun continuesName other) :
    NameAt name other := by
  cases named with
  | intro starts continues _ => exact .intro starts continues ends

theorem nameStarts_append {name next : List Char} (named : NameAt name next)
    (rest : List Char) :
    nameStarts (name ++ rest) = true := by
  cases named with
  | intro starts _ _ => exact starts

theorem leadingName_append {name next : List Char} (named : NameAt name next) :
    leadingName (name ++ next) = String.ofList name := by
  rw [leadingName, takeWhile_append_of_endsRun (nameAt_all named) (nameAt_ends named)]

theorem afterName_append {name next : List Char} (named : NameAt name next) :
    (afterName (name ++ next)).1 = next :=
  dropWhile_append_of_endsRun (nameAt_all named) (nameAt_ends named)

theorem exists_nameAt_cons {c : Char} (starts : startsName c = true) (cs : List Char) :
    ∃ ds next, cs = ds ++ next ∧ NameAt (c :: ds) next :=
  ⟨cs.takeWhile continuesName, cs.dropWhile continuesName,
    List.takeWhile_append_dropWhile.symm,
    .intro starts mem_takeWhile (endsRun_dropWhile continuesName cs)⟩

theorem exists_nameAt {input : List Char} (starts : nameStarts input = true) :
    ∃ name next, input = name ++ next ∧ NameAt name next := by
  cases input with
  | nil => simp [nameStarts] at starts
  | cons c cs =>
      obtain ⟨ds, next, rfl, named⟩ := exists_nameAt_cons starts cs
      exact ⟨c :: ds, next, rfl, named⟩

/-! ### Strings -/

theorem escapeMeans_unescape (c : Char) :
    EscapeMeans c (unescape c) := by
  by_cases known : c ∈ ['n', 't', '\\', '"', '\'']
  · simp only [List.mem_cons, List.not_mem_nil, or_false] at known
    rcases known with rfl | rfl | rfl | rfl | rfl
    · exact .newline
    · exact .tab
    · exact .backslash
    · exact .doubleQuote
    · exact .singleQuote
  · have kept : unescape c = ['\\', c] := by
      simp only [List.mem_cons, List.not_mem_nil, or_false, not_or] at known
      simp [unescape, known]
    rw [kept]
    exact .other known

theorem eq_unescape {c : Char} {meaning : List Char} (means : EscapeMeans c meaning) :
    meaning = unescape c := by
  cases means with
  | other plain =>
      simp only [List.mem_cons, List.not_mem_nil, or_false, not_or] at plain
      simp [unescape, plain]
  | _ => decide

theorem foundText_of_quotedBody {quote : Char} (notEscape : quote ≠ '\\')
    {body text : List Char} (quotes : QuotedBody quote body text) (rest : List Char) :
    foundText quote (body ++ quote :: rest) = some (text, rest) := by
  induction quotes with
  | nil => exact foundText_quote quote rest
  | plain notQuote notBackslash _ ih =>
      rw [List.cons_append, foundText_plain notQuote notBackslash, ih]
      rfl
  | escaped means _ ih =>
      rw [List.cons_append, List.cons_append, foundText_escaped notEscape, ih,
        eq_unescape means]
      rfl

theorem exists_quotedBody {quote : Char} (notEscape : quote ≠ '\\') :
    (input : List Char) → {text rest : List Char} →
      foundText quote input = some (text, rest) →
        ∃ body, input = body ++ quote :: rest ∧ QuotedBody quote body text
  | [], _, _, reads => by simp [foundText_nil] at reads
  | c :: cs, text, rest, reads => by
      by_cases closes : c = quote
      · subst closes
        rw [foundText_quote] at reads
        cases reads
        exact ⟨[], rfl, .nil⟩
      · by_cases escape : c = '\\'
        · subst escape
          cases cs with
          | nil => simp [foundText_backslash closes] at reads
          | cons d cs =>
              rw [foundText_escaped notEscape] at reads
              obtain ⟨⟨inner, last⟩, innerReads, same⟩ := Option.map_eq_some_iff.mp reads
              cases same
              obtain ⟨body, split, quotes⟩ := exists_quotedBody notEscape cs innerReads
              refine ⟨'\\' :: d :: body, ?_, .escaped (escapeMeans_unescape d) quotes⟩
              rw [split, List.cons_append, List.cons_append]
        · rw [foundText_plain closes escape] at reads
          obtain ⟨⟨inner, last⟩, innerReads, same⟩ := Option.map_eq_some_iff.mp reads
          cases same
          obtain ⟨body, split, quotes⟩ := exists_quotedBody notEscape cs innerReads
          exact ⟨c :: body, by rw [split, List.cons_append], .plain closes escape quotes⟩
termination_by input => input.length

/-! ### Numbers -/

theorem numberValue?_eq_some_iff {word : List Char} {value : Literal} :
    numberValue? word = some value ↔ NumeralValue word value := by
  constructor
  · intro valued
    by_cases point : '.' ∈ word
    · rw [numberValue?, if_pos (by simpa using point)] at valued
      obtain ⟨d, reads, rfl⟩ := Option.map_eq_some_iff.mp valued
      exact .double point reads
    · rw [numberValue?, if_neg (by simpa using point)] at valued
      obtain ⟨n, reads, rfl⟩ := Option.map_eq_some_iff.mp valued
      exact .whole point reads
  · intro valued
    cases valued with
    | whole noPoint reads => simp [numberValue?, noPoint, reads]
    | double point reads => simp [numberValue?, point, reads]

/-- A sign alone and a point alone are no numerals. -/
theorem not_numeralValue {word : List Char} {value : Literal}
    (bare : word ∈ [[], ['-'], ['+'], ['.']]) :
    ¬NumeralValue word value := by
  intro valued
  have none : ∀ word ∈ [[], ['-'], ['+'], ['.']], numberValue? word = none := by
    decide +kernel
  rw [← numberValue?_eq_some_iff, none word bare] at valued
  cases valued

theorem continuesNumber_ne_sign {c : Char} (continues : continuesNumber c = true) :
    ¬(c = '-' ∨ c = '+') := by
  rintro (rfl | rfl)
  · exact absurd continues (by decide)
  · exact absurd continues (by decide)

theorem numberAt_before {word next other : List Char} {value : Literal}
    (written : NumberAt word next value) (ends : EndsRun continuesNumber other) :
    NumberAt word other value := by
  cases written with
  | intro signed continues _ valued => exact .intro signed continues ends valued

theorem numberStarts_append {word next : List Char} {value : Literal}
    (written : NumberAt word next value) (rest : List Char) :
    numberStarts (word ++ rest) = true := by
  cases written with
  | @intro sign run _ _ signed continues maximal valued =>
      cases run with
      | nil =>
          refine absurd valued (not_numeralValue ?_)
          rcases signed with rfl | rfl | rfl <;> simp
      | cons c cs =>
          have first : continuesNumber c = true := continues c (by simp)
          rcases signed with rfl | rfl | rfl
          · simp only [continuesNumber, Bool.or_eq_true, decide_eq_true_eq] at first
            rcases first with digit | rfl
            · simp [numberStarts, digit]
            · cases cs with
              | nil => exact absurd valued (not_numeralValue (by simp))
              | cons d ds => simp [numberStarts, continues d (by simp)]
          · simp [numberStarts, first]
          · simp [numberStarts, first]

theorem numberChars_append {word next : List Char} {value : Literal}
    (written : NumberAt word next value) :
    numberChars (word ++ next) = word ∧ (afterNumber (word ++ next)).1 = next := by
  have starts := numberStarts_append written next
  cases written with
  | @intro sign run _ _ signed continues maximal valued =>
      have taken := takeWhile_append_of_endsRun continues maximal
      have dropped := dropWhile_append_of_endsRun continues maximal
      rcases signed with rfl | rfl | rfl
      · cases run with
        | nil => exact absurd valued (not_numeralValue (by simp))
        | cons c cs =>
            have unsigned := continuesNumber_ne_sign (continues c (by simp))
            rw [List.cons_append] at taken dropped
            simp [numberChars, afterNumber, unsigned, taken, dropped]
      · simp [numberChars, afterNumber, taken, dropped]
      · simp [numberChars, afterNumber, taken, dropped]

theorem exists_numberAt {input : List Char} {value : Literal}
    (reads : numberValue? (numberChars input) = some value) :
    ∃ word, input = word ++ (afterNumber input).1 ∧
      NumberAt word (afterNumber input).1 value := by
  rw [numberValue?_eq_some_iff] at reads
  refine ⟨numberChars input, ?_⟩
  cases input with
  | nil => exact absurd reads (not_numeralValue (by simp [numberChars]))
  | cons c cs =>
      by_cases sign : c = '-' ∨ c = '+'
      · simp only [numberChars, afterNumber, if_pos sign] at reads ⊢
        refine ⟨by rw [List.cons_append, List.takeWhile_append_dropWhile], ?_⟩
        refine @NumberAt.intro [c] (cs.takeWhile continuesNumber) _ _ ?_ mem_takeWhile
          (endsRun_dropWhile _ cs) reads
        rcases sign with rfl | rfl <;> simp
      · simp only [numberChars, afterNumber, if_neg sign] at reads ⊢
        refine ⟨by rw [List.takeWhile_append_dropWhile], ?_⟩
        exact @NumberAt.intro [] ((c :: cs).takeWhile continuesNumber) _ _ (.inl rfl)
          mem_takeWhile (endsRun_dropWhile _ (c :: cs)) reads

end Expression

end LayoutBinding
