import LayoutBinding.Proofs.Expression.Words
import LayoutBinding.Proofs.Template.TagReading

/-!
# Tags and what follows them

A start tag is read in the same way whatever follows it, except where a quote is opened in it
and not closed: what follows must not close this quote.  Such a quote shows in an attribute
whose name starts with a quote or an equals sign, or whose value starts with an equals sign
and a quote.
-/

namespace LayoutBinding

open Grammar (EndsRun)

namespace StartTag

/-! ### Runs in front of other texts -/

section Runs

variable {test : Char → Bool} {front rest : List Char}

theorem dropWhile_append_of_stops (stops : front.dropWhile test ≠ []) :
    (front ++ rest).dropWhile test = front.dropWhile test ++ rest := by
  rw [List.dropWhile_append, if_neg (by simpa using stops)]

theorem takeWhile_append_of_stops (stops : front.dropWhile test ≠ []) :
    (front ++ rest).takeWhile test = front.takeWhile test := by
  rw [List.takeWhile_append, if_neg]
  intro length
  have split := congrArg List.length (List.takeWhile_append_dropWhile (p := test) (l := front))
  rw [List.length_append, length] at split
  exact stops (List.eq_nil_of_length_eq_zero (by omega))

theorem dropWhile_append_of_ends (ends : EndsRun test rest) :
    (front ++ rest).dropWhile test = front.dropWhile test ++ rest := by
  by_cases stops : front.dropWhile test = []
  · rw [stops, List.nil_append]
    exact Expression.dropWhile_append_of_endsRun (List.dropWhile_eq_nil_iff.mp stops) ends
  · exact dropWhile_append_of_stops stops

theorem takeWhile_append_of_ends (ends : EndsRun test rest) :
    (front ++ rest).takeWhile test = front.takeWhile test := by
  by_cases stops : front.dropWhile test = []
  · have inside := List.dropWhile_eq_nil_iff.mp stops
    rw [Expression.takeWhile_append_of_endsRun inside ends, eq_comm]
    exact List.takeWhile_eq_self_iff.mpr inside
  · exact takeWhile_append_of_stops stops

theorem exists_dropWhile_of_mem {c : Char} (member : c ∈ front) :
    ∃ after, front.dropWhile (· ≠ c) = c :: after := by
  cases same : front.dropWhile (· ≠ c) with
  | nil =>
      have all := List.dropWhile_eq_nil_iff.mp same c member
      exact absurd rfl (of_decide_eq_true all)
  | cons d after =>
      have stops := List.head?_dropWhile_not (· ≠ c) front
      rw [same, List.head?_cons] at stops
      obtain rfl : d = c := by simpa using stops
      exact ⟨after, rfl⟩

theorem dropWhile_of_notMem {c : Char} (absent : c ∉ front) :
    front.dropWhile (· ≠ c) = [] := by
  rw [List.dropWhile_eq_nil_iff]
  intro d member
  apply decide_eq_true
  rintro rfl
  exact absent member

end Runs

variable {selfClosing : Bool} {front tail other more : List Char}

theorem stop_endsRun {test : Char → Bool} (noSlash : test '/' = false)
    (noBracket : test '>' = false) (tail : List Char) :
    EndsRun test (stop selfClosing ++ tail) := by
  intro c first
  cases selfClosing with
  | false =>
      obtain rfl := Option.some.inj first
      exact noBracket
  | true =>
      obtain rfl := Option.some.inj first
      exact noSlash

theorem exists_stop_eq (selfClosing : Bool) : ∃ c behind, stop selfClosing = c :: behind ∧
    (c = '/' ∨ c = '>') := by
  cases selfClosing with
  | false => exact ⟨'>', [], rfl, .inr rfl⟩
  | true => exact ⟨'/', ['>'], rfl, .inl rfl⟩

theorem exists_skipSeparators (front : List Char) (selfClosing : Bool) :
    ∃ kept, kept <:+ front ∧ ∀ tail,
      skipSeparators (front ++ (stop selfClosing ++ tail)) =
        kept ++ (stop selfClosing ++ tail) := by
  induction front with
  | nil =>
      refine ⟨[], List.suffix_rfl, fun tail => ?_⟩
      cases selfClosing with
      | false => cases tail <;> rfl
      | true => rfl
  | cons c front ih =>
      obtain ⟨kept, suffix, same⟩ := ih
      obtain ⟨d, behind, stops, -⟩ := exists_stop_eq selfClosing
      -- The next character is the same whatever follows the tag.
      obtain ⟨next, after, cut⟩ : ∃ next, ∃ after : List Char → List Char, ∀ tail,
          front ++ (stop selfClosing ++ tail) = next :: after tail := by
        cases front with
        | nil => exact ⟨d, (behind ++ ·), fun tail => by rw [stops]; rfl⟩
        | cons e front => exact ⟨e, fun tail => front ++ (stop selfClosing ++ tail), fun _ => rfl⟩
      by_cases skips : (Character.isBlank c || (c = '/' && next ≠ '>')) = true
      · refine ⟨kept, suffix.trans (List.suffix_cons c front), fun tail => ?_⟩
        rw [List.cons_append, cut, skipSeparators, if_pos skips, ← cut, same]
      · refine ⟨c :: front, List.suffix_rfl, fun tail => ?_⟩
        rw [List.cons_append, cut, skipSeparators, if_neg skips, ← cut]

theorem bare_replace (keeps : (bare (front ++ (stop selfClosing ++ tail))).rest =
      more ++ (stop selfClosing ++ tail)) (other : List Char) :
    bare (front ++ (stop selfClosing ++ other)) =
      ⟨(bare (front ++ (stop selfClosing ++ tail))).text, more ++ (stop selfClosing ++ other)⟩ := by
  simp only [bare] at keeps ⊢
  by_cases inside : ∀ c ∈ front, continuesBare c = true
  · cases selfClosing with
    | false =>
        have ends (tail : List Char) : EndsRun continuesBare (stop false ++ tail) := by
          intro c first
          obtain rfl := Option.some.inj first
          decide
        rw [dropWhile_append_of_ends (ends tail)] at keeps
        rw [takeWhile_append_of_ends (ends other), takeWhile_append_of_ends (ends tail),
          dropWhile_append_of_ends (ends other), List.append_cancel_right keeps]
    | true =>
        -- The slash would be a part of the value.
        have length := congrArg List.length keeps
        rw [List.dropWhile_append_of_pos inside] at length
        have slash : continuesBare '/' = true := by decide
        have bracket : continuesBare '>' = false := by decide
        simp [stop, slash, bracket] at length
        omega
  · have stops : front.dropWhile continuesBare ≠ [] :=
      fun nothing => inside (List.dropWhile_eq_nil_iff.mp nothing)
    rw [dropWhile_append_of_stops stops] at keeps
    rw [takeWhile_append_of_stops stops, takeWhile_append_of_stops stops,
      dropWhile_append_of_stops stops, List.append_cancel_right keeps]

theorem quote_notMem_stop {c : Char} (quote : isQuote c = true) (selfClosing : Bool) :
    c ∉ stop selfClosing := by
  intro member
  have isStop : c = '/' ∨ c = '>' := by
    cases selfClosing
    · exact .inr (List.mem_singleton.mp member)
    · simpa [stop] using member
  rcases isStop with rfl | rfl <;> cases quote

/-- What follows the name of an attribute, cut at the equals signs. -/
theorem value?_append (front tail : List Char) (selfClosing : Bool) :
    value? (front ++ (stop selfClosing ++ tail)) =
      let fromEquals := front.dropWhile Character.isBlank
      let afterEquals := fromEquals.dropWhile (· = '=')
      let blanks := afterEquals.takeWhile Character.isBlank
      if fromEquals.takeWhile (· = '=') = [] then
        none
      else
        match afterEquals.dropWhile Character.isBlank with
        | [] => some (bare (stop selfClosing ++ tail))
        | c :: inside =>
            if isQuote c then
              match (inside ++ (stop selfClosing ++ tail)).dropWhile (· ≠ c) with
              | _ :: rest =>
                  some ⟨(inside ++ (stop selfClosing ++ tail)).takeWhile (· ≠ c), rest⟩
              | [] =>
                  if blanks ≠ [] then
                    some ⟨[], afterEquals.drop (blanks.length - 1) ++ (stop selfClosing ++ tail)⟩
                  else if 2 ≤ (fromEquals.takeWhile (· = '=')).length then
                    some (bare ('=' :: c :: inside ++ (stop selfClosing ++ tail)))
                  else
                    none
            else
              some (bare (c :: inside ++ (stop selfClosing ++ tail))) := by
  have blanksEnd : EndsRun Character.isBlank (stop selfClosing ++ tail) :=
    stop_endsRun (by decide) (by decide) tail
  have equalsEnd : EndsRun (fun c => decide (c = '=')) (stop selfClosing ++ tail) :=
    stop_endsRun (by decide) (by decide) tail
  simp only [value?]
  rw [dropWhile_append_of_ends blanksEnd, dropWhile_append_of_ends equalsEnd,
    takeWhile_append_of_ends equalsEnd, dropWhile_append_of_ends blanksEnd,
    takeWhile_append_of_ends blanksEnd]
  generalize (front.dropWhile Character.isBlank).takeWhile (fun c => decide (c = '=')) = signs
  generalize (front.dropWhile Character.isBlank).dropWhile (fun c => decide (c = '=')) = after
  by_cases noSign : signs = []
  · rw [if_pos noSign, if_pos noSign]
  · rw [if_neg noSign, if_neg noSign]
    cases starts : after.dropWhile Character.isBlank with
    | nil =>
        obtain ⟨c, behind, same, isStop⟩ := exists_stop_eq selfClosing
        have noQuote : isQuote c = false := by
          rcases isStop with rfl | rfl <;> rfl
        rw [same]
        simp [noQuote]
    | cons c inside =>
        have atMost : (after.takeWhile Character.isBlank).length - 1 ≤ after.length :=
          Nat.le_trans (Nat.sub_le _ _) (List.takeWhile_prefix _).length_le
        rewrite [List.drop_append_of_le_length atMost]
        rfl

/-- A quote that what follows the tag closed would make the tag longer. -/
theorem notMem_of_keeps {c : Char} {inside : List Char} (quote : isQuote c = true)
    (closes : c ∉ inside)
    (keeps : ∀ rest, (inside ++ (stop selfClosing ++ tail)).dropWhile (· ≠ c) = c :: rest →
      stop selfClosing ++ tail <:+ rest) : c ∉ tail := by
  intro member
  obtain ⟨rest, cut⟩ := exists_dropWhile_of_mem member
  have before : ∀ d ∈ inside ++ stop selfClosing, decide (d ≠ c) = true := by
    intro d among
    apply decide_eq_true
    rintro rfl
    exact (List.mem_append.mp among).elim closes (quote_notMem_stop quote selfClosing)
  have length : (stop selfClosing ++ tail).length ≤ rest.length := by
    refine (keeps rest ?_).length_le
    rw [← List.append_assoc, List.dropWhile_append_of_pos before, cut]
  have shorter := (List.dropWhile_suffix (· ≠ c) (l := tail)).length_le
  rw [List.length_append] at length
  rw [cut, List.length_cons] at shorter
  omega

/-- Whether a quote is opened after the name of an attribute and not closed. -/
def opensQuote (front : List Char) : Bool :=
  let fromEquals := front.dropWhile Character.isBlank
  fromEquals.takeWhile (· = '=') ≠ [] &&
    match (fromEquals.dropWhile (· = '=')).dropWhile Character.isBlank with
    | c :: inside => isQuote c && c ∉ inside
    | [] => false

/-- How the value of an attribute is read, whatever follows the end of the tag.  Of a quote that
is opened and not closed in the tag, this depends on whether what follows closes it. -/
inductive ValueReading (selfClosing : Bool) (front : List Char) : Prop
  | absent (closed : opensQuote front = false)
      (reads : ∀ tail, value? (front ++ (stop selfClosing ++ tail)) = none)
  | quoted (text more : List Char) (closed : opensQuote front = false)
      (reads : ∀ tail, value? (front ++ (stop selfClosing ++ tail)) =
        some ⟨text, more ++ (stop selfClosing ++ tail)⟩)
  | bare (more : List Char) (closed : opensQuote front = false)
      (reads : ∀ tail, value? (front ++ (stop selfClosing ++ tail)) =
        some (bare (more ++ (stop selfClosing ++ tail))))
  | unclosed {quote : Char} {inside : List Char} (opens : opensQuote front = true)
      (isQuote : isQuote quote = true)
      (notInside : quote ∉ inside)
      (closes : ∀ tail rest,
        (inside ++ (stop selfClosing ++ tail)).dropWhile (· ≠ quote) = quote :: rest →
          ∃ text, value? (front ++ (stop selfClosing ++ tail)) = some ⟨text, rest⟩)
      (opened : (∃ blank, Character.isBlank blank = true ∧ ∀ tail, quote ∉ tail →
          value? (front ++ (stop selfClosing ++ tail)) =
            some ⟨[], blank :: quote :: inside ++ (stop selfClosing ++ tail)⟩) ∨
        (∀ tail, quote ∉ tail → value? (front ++ (stop selfClosing ++ tail)) =
          some (StartTag.bare ('=' :: quote :: inside ++ (stop selfClosing ++ tail)))) ∨
        ∃ blanks rest, (∀ c ∈ blanks, Character.isBlank c = true) ∧ front = blanks ++ '=' :: rest ∧
          ∀ tail, quote ∉ tail → value? (front ++ (stop selfClosing ++ tail)) = none)

/-- The last of the blanks in front of something else, and what it stands before. -/
theorem exists_drop_blanks {cs rest : List Char} (given : cs.takeWhile Character.isBlank ≠ [])
    (behind : cs.dropWhile Character.isBlank = rest) :
    ∃ blank, Character.isBlank blank = true ∧
      cs.drop ((cs.takeWhile Character.isBlank).length - 1) = blank :: rest := by
  refine ⟨_, List.mem_takeWhile_imp (List.getLast_mem given), ?_⟩
  have split := List.takeWhile_append_dropWhile (p := Character.isBlank) (l := cs)
  have cut : cs = (cs.takeWhile Character.isBlank).dropLast ++
      ((cs.takeWhile Character.isBlank).getLast given :: rest) := by
    rw [← behind, List.append_cons, List.dropLast_concat_getLast, split]
  rw [← List.length_dropLast]
  exact (congrArg (List.drop _) cut).trans List.drop_left

theorem valueReading (selfClosing : Bool) (front : List Char) :
    ValueReading selfClosing front := by
  have reads (tail : List Char) := value?_append front tail selfClosing
  have opens := opensQuote.eq_def front
  have lead := List.takeWhile_append_dropWhile (p := Character.isBlank) (l := front)
  have leadBlank : ∀ c ∈ front.takeWhile Character.isBlank, Character.isBlank c = true :=
    fun c member => List.mem_takeWhile_imp member
  dsimp only at reads opens
  generalize front.dropWhile Character.isBlank = fromEquals at reads opens lead
  have signs := List.takeWhile_append_dropWhile (p := fun c => decide (c = '=')) (l := fromEquals)
  have signsOnly : ∀ c ∈ fromEquals.takeWhile (fun c => decide (c = '=')), c = '=' :=
    fun c member => of_decide_eq_true (List.mem_takeWhile_imp (p := fun c => decide (c = '=')) member)
  generalize fromEquals.takeWhile (fun c => decide (c = '=')) = equals at reads opens signs signsOnly
  generalize fromEquals.dropWhile (fun c => decide (c = '=')) = after at reads opens signs
  by_cases noSign : equals = []
  · exact .absent (by simp [opens, noSign]) fun tail => by rw [reads, if_pos noSign]
  simp only [if_neg noSign] at reads
  cases starts : after.dropWhile Character.isBlank with
  | nil =>
      rw [starts] at opens
      simp only [starts] at reads
      exact .bare [] (by simp [opens]) reads
  | cons c inside =>
      rw [starts] at opens
      simp only [starts] at reads
      by_cases quote : isQuote c = true
      · simp only [if_pos quote] at reads
        by_cases closes : c ∈ inside
        · obtain ⟨rest, cut⟩ := exists_dropWhile_of_mem closes
          have stops : inside.dropWhile (· ≠ c) ≠ [] := by
            rw [cut]
            exact List.cons_ne_nil c rest
          refine .quoted (inside.takeWhile (· ≠ c)) rest (by simp [opens, closes]) fun tail => ?_
          rw [reads, dropWhile_append_of_stops stops, takeWhile_append_of_stops stops, cut]
          rfl
        · have unclosed (tail : List Char) (absent : c ∉ tail) :
              (inside ++ (stop selfClosing ++ tail)).dropWhile (· ≠ c) = [] :=
            dropWhile_of_notMem (by simp [closes, absent, quote_notMem_stop quote selfClosing])
          have opens : opensQuote front = true := by simp [opens, noSign, quote, closes]
          refine .unclosed opens quote closes (fun tail rest cut => ?_) ?_
          · rw [reads, cut]
            exact ⟨_, rfl⟩
          by_cases blanks : after.takeWhile Character.isBlank ≠ []
          · obtain ⟨blank, isBlank, last⟩ := exists_drop_blanks blanks starts
            refine .inl ⟨blank, isBlank, fun tail absent => ?_⟩
            rw [reads, unclosed tail absent]
            dsimp only
            rw [if_pos blanks, last]
          · by_cases several : 2 ≤ equals.length
            · refine .inr (.inl fun tail absent => ?_)
              rw [reads, unclosed tail absent]
              dsimp only
              rw [if_neg blanks, if_pos several]
            · obtain ⟨sign, others, rfl⟩ := List.exists_cons_of_ne_nil noSign
              obtain rfl := signsOnly sign List.mem_cons_self
              refine .inr (.inr ⟨_, others ++ after, leadBlank, ?_, fun tail absent => ?_⟩)
              · rw [← List.cons_append, signs, lead]
              · rw [reads, unclosed tail absent]
                dsimp only
                rw [if_neg blanks, if_neg several]
      · simp only [if_neg quote] at reads
        exact .bare (c :: inside) (by simp [opens, quote]) reads

theorem notMem_tail {quote : Char} {inside : List Char} (isQuote : isQuote quote = true)
    (notInside : quote ∉ inside)
    (closes : ∀ tail rest,
      (inside ++ (stop selfClosing ++ tail)).dropWhile (· ≠ quote) = quote :: rest →
        ∃ text, value? (front ++ (stop selfClosing ++ tail)) = some ⟨text, rest⟩)
    (keeps : ∀ value ∈ value? (front ++ (stop selfClosing ++ tail)),
      stop selfClosing ++ tail <:+ value.rest) : quote ∉ tail := by
  apply notMem_of_keeps isQuote notInside
  intro rest cut
  obtain ⟨text, value⟩ := closes tail rest cut
  exact keeps _ value

theorem value?_replace
    (keeps : ∀ value ∈ value? (front ++ (stop selfClosing ++ tail)),
      stop selfClosing ++ tail <:+ value.rest)
    (closed : opensQuote front = true → ∀ c, isQuote c = true → c ∈ other → c ∈ tail) :
    value? (front ++ (stop selfClosing ++ tail)) = none ∧
        value? (front ++ (stop selfClosing ++ other)) = none ∨
      ∃ text more,
        value? (front ++ (stop selfClosing ++ tail)) =
            some ⟨text, more ++ (stop selfClosing ++ tail)⟩ ∧
          value? (front ++ (stop selfClosing ++ other)) =
            some ⟨text, more ++ (stop selfClosing ++ other)⟩ := by
  have withoutQuotes {more : List Char} (same : value? (front ++ (stop selfClosing ++ tail)) =
        some (bare (more ++ (stop selfClosing ++ tail))))
      (sameToo : value? (front ++ (stop selfClosing ++ other)) =
        some (bare (more ++ (stop selfClosing ++ other)))) :
      ∃ text more,
        value? (front ++ (stop selfClosing ++ tail)) =
            some ⟨text, more ++ (stop selfClosing ++ tail)⟩ ∧
          value? (front ++ (stop selfClosing ++ other)) =
            some ⟨text, more ++ (stop selfClosing ++ other)⟩ := by
    obtain ⟨kept, cut⟩ := keeps _ same
    refine ⟨(bare (more ++ (stop selfClosing ++ tail))).text, kept, ?_, ?_⟩
    · rw [same, cut]
    · rw [sameToo, bare_replace cut.symm]
  cases valueReading selfClosing front with
  | absent _ reads => exact .inl ⟨reads tail, reads other⟩
  | quoted text more _ reads => exact .inr ⟨text, more, reads tail, reads other⟩
  | bare more _ reads => exact .inr (withoutQuotes (reads tail) (reads other))
  | @unclosed quote inside opens isQuote notInside closes opened =>
      have absent := notMem_tail isQuote notInside closes keeps
      have absentToo : quote ∉ other := fun member => absent (closed opens quote isQuote member)
      rcases opened with ⟨blank, -, reads⟩ | reads | ⟨_, _, _, _, reads⟩
      · exact .inr ⟨[], blank :: quote :: inside, reads tail absent, reads other absentToo⟩
      · exact .inr (withoutQuotes (reads tail absent) (reads other absentToo))
      · exact .inl ⟨reads tail absent, reads other absentToo⟩

/-- A quote that is not closed shows: after the value, in it, or in front of it. -/
theorem value?_of_opensQuote
    (keeps : ∀ value ∈ value? (front ++ (stop selfClosing ++ tail)),
      stop selfClosing ++ tail <:+ value.rest)
    (opens : opensQuote front = true) :
    ∃ quote, isQuote quote = true ∧
      ((∃ blank inside, Character.isBlank blank = true ∧
          value? (front ++ (stop selfClosing ++ tail)) = some ⟨[], blank :: quote :: inside⟩) ∨
        (∃ text rest, value? (front ++ (stop selfClosing ++ tail)) =
          some ⟨'=' :: quote :: text, rest⟩) ∨
        (∃ blanks rest, (∀ c ∈ blanks, Character.isBlank c = true) ∧
          front ++ (stop selfClosing ++ tail) = blanks ++ '=' :: rest ∧
          value? (front ++ (stop selfClosing ++ tail)) = none)) := by
  cases valueReading selfClosing front with
  | absent closed _ => exact absurd opens (by simp [closed])
  | quoted _ _ closed _ => exact absurd opens (by simp [closed])
  | bare _ closed _ => exact absurd opens (by simp [closed])
  | @unclosed quote inside _ quoted notInside closes opened =>
      have absent := notMem_tail quoted notInside closes keeps
      refine ⟨quote, quoted, ?_⟩
      rcases opened with ⟨blank, isBlank, reads⟩ | reads | ⟨blanks, rest, blank, rfl, reads⟩
      · exact .inl ⟨blank, inside ++ (stop selfClosing ++ tail), isBlank, reads tail absent⟩
      · have first : continuesBare '=' = true := by decide
        have second : continuesBare quote = true := by
          simp only [isQuote, Bool.or_eq_true, decide_eq_true_eq] at quoted
          rcases quoted with rfl | rfl <;> decide
        refine .inr (.inl ⟨(inside ++ (stop selfClosing ++ tail)).takeWhile continuesBare,
          (inside ++ (stop selfClosing ++ tail)).dropWhile continuesBare, ?_⟩)
        rw [reads tail absent]
        simp [bare, first, second]
      · refine .inr (.inr ⟨blanks, rest ++ (stop selfClosing ++ tail), blank, ?_,
          reads tail absent⟩)
        rw [List.append_assoc, List.cons_append]

theorem attribute?_replace {written : Written}
    (found : attribute? (front ++ (stop selfClosing ++ tail)) = some written)
    (keeps : stop selfClosing ++ tail <:+ written.rest)
    (closed : opensQuote (front.tail.dropWhile continuesAttribute) = true →
      ∀ c, isQuote c = true → c ∈ other → c ∈ tail) :
    ∃ more, written.rest = more ++ (stop selfClosing ++ tail) ∧
      attribute? (front ++ (stop selfClosing ++ other)) =
        some ⟨written.name, written.value, more ++ (stop selfClosing ++ other)⟩ := by
  obtain ⟨c, body, rfl⟩ : ∃ c body, front = c :: body := by
    refine List.exists_cons_of_ne_nil ?_
    rintro rfl
    rw [List.nil_append, attribute?_stop] at found
    cases found
  have ends (tail : List Char) : EndsRun continuesAttribute (stop selfClosing ++ tail) :=
    stop_endsRun (by decide) (by decide) tail
  rw [List.cons_append] at found ⊢
  obtain ⟨_, _, same, starts, rfl⟩ := attribute?_eq_some_iff.mp found
  obtain ⟨rfl, rfl⟩ := List.cons.inj same
  rw [takeWhile_append_of_ends (ends tail), dropWhile_append_of_ends (ends tail)] at keeps ⊢
  have keepsValue : ∀ value ∈ value? (body.dropWhile continuesAttribute ++
      (stop selfClosing ++ tail)), stop selfClosing ++ tail <:+ value.rest := by
    intro value given
    rwa [Option.mem_def.mp given] at keeps
  rcases value?_replace keepsValue closed with ⟨noValue, noneToo⟩ | ⟨text, more, value, valueToo⟩
  · rw [noValue]
    refine ⟨_, rfl, attribute?_eq_some_iff.mpr ⟨c, _, rfl, starts, ?_⟩⟩
    rw [takeWhile_append_of_ends (ends other), dropWhile_append_of_ends (ends other), noneToo]
  · rw [value]
    refine ⟨more, rfl, attribute?_eq_some_iff.mpr ⟨c, _, rfl, starts, ?_⟩⟩
    rw [takeWhile_append_of_ends (ends other), dropWhile_append_of_ends (ends other), valueToo]

/-- Whether nothing in an attribute shows a quote that is opened and not closed. -/
def Written.isClosed (written : Written) : Bool :=
  !(written.name.head?.any fun c => isQuote c || c = '=') &&
    match written.value with
    | some ('=' :: c :: _) => !isQuote c
    | _ => true

theorem skipSeparators_blanks {blanks : List Char}
    (blank : ∀ c ∈ blanks, Character.isBlank c = true) (c : Char) (cs : List Char) :
    skipSeparators (blanks ++ c :: cs) = skipSeparators (c :: cs) := by
  induction blanks with
  | nil => rfl
  | cons d blanks ih =>
      obtain ⟨first, others⟩ := List.forall_mem_cons.mp blank
      obtain ⟨e, rest, same⟩ : ∃ e rest, blanks ++ c :: cs = e :: rest :=
        List.exists_cons_of_ne_nil (by simp)
      rw [List.cons_append, same, skipSeparators, if_pos (by rw [first, Bool.true_or]), ← same,
        ih others]

theorem exists_head_of_ne {fuel : Nat} {before c : Char} {cs : List Char}
    (taken : (attributesUpTo fuel before (c :: cs)).2.head? ≠ some c) :
    ∃ written ∈ (attributesUpTo fuel before (c :: cs)).1, written.name.head? = some c := by
  cases fuel with
  | zero => exact absurd rfl taken
  | succ fuel =>
      rw [attributesUpTo] at taken ⊢
      split at taken
      next separated =>
        rw [if_pos separated]
        split at taken
        next found read =>
          exact ⟨found, List.mem_cons_self, head?_name_of_attribute? read⟩
        next => exact absurd rfl taken
      next => exact absurd rfl taken

theorem head?_stop_ne {c : Char} (starts : startsAttribute c = true) (tail : List Char) :
    (stop selfClosing ++ tail).head? ≠ some c := by
  intro same
  cases selfClosing <;>
  · obtain rfl := Option.some.inj same
    cases starts

theorem startsAttribute_of_isQuote {c : Char} (quote : isQuote c = true) :
    startsAttribute c = true := by
  simp only [isQuote, Bool.or_eq_true, decide_eq_true_eq] at quote
  rcases quote with rfl | rfl <;> decide

/-- A quote that is not closed shows in an attribute. -/
theorem exists_not_isClosed {fuel : Nat} {before : Char} {found : Written}
    (read : attribute? (front ++ (stop selfClosing ++ tail)) = some found)
    (stops : (attributesUpTo fuel before (skipSeparators found.rest)).2 =
      stop selfClosing ++ tail)
    (opens : opensQuote (front.tail.dropWhile continuesAttribute) = true) :
    ∃ written ∈ found :: (attributesUpTo fuel before (skipSeparators found.rest)).1,
      written.isClosed = false := by
  have named (c : Char) (cs : List Char) (starts : startsAttribute c = true)
      (shows : isQuote c = true ∨ c = '=') (rest : skipSeparators found.rest = c :: cs) :
      ∃ written ∈ found :: (attributesUpTo fuel before (skipSeparators found.rest)).1,
        written.isClosed = false := by
    rw [rest] at stops ⊢
    obtain ⟨written, member, first⟩ := @exists_head_of_ne fuel before c cs
      (by rw [stops]; exact head?_stop_ne starts tail)
    refine ⟨written, List.mem_cons_of_mem found member, ?_⟩
    rw [Written.isClosed, first]
    rcases shows with quote | rfl
    · simp [quote]
    · rfl
  obtain ⟨c, body, rfl⟩ : ∃ c body, front = c :: body := by
    refine List.exists_cons_of_ne_nil ?_
    rintro rfl
    rw [List.nil_append, attribute?_stop] at read
    cases read
  have ends : EndsRun continuesAttribute (stop selfClosing ++ tail) :=
    stop_endsRun (by decide) (by decide) tail
  have behind : stop selfClosing ++ tail <:+ found.rest :=
    (stops ▸ attributesUpTo_suffix _ _ _).trans (skipSeparators_suffix _)
  rw [List.cons_append] at read
  obtain ⟨_, _, same, starts, made⟩ := attribute?_eq_some_iff.mp read
  obtain ⟨rfl, rfl⟩ := List.cons.inj same
  rw [takeWhile_append_of_ends ends, dropWhile_append_of_ends ends] at made
  have keeps : ∀ value ∈ value? (body.dropWhile continuesAttribute ++
      (stop selfClosing ++ tail)), stop selfClosing ++ tail <:+ value.rest := by
    intro value given
    rw [Option.mem_def.mp given] at made
    rwa [made] at behind
  obtain ⟨quote, isQuote, shown⟩ := value?_of_opensQuote keeps opens
  have startsQuote := startsAttribute_of_isQuote isQuote
  rcases shown with ⟨blank, inside, isBlank, value⟩ | ⟨text, rest, value⟩ |
    ⟨blanks, rest, blank, whole, noValue⟩
  · rw [value] at made
    apply named quote inside startsQuote (.inl isQuote)
    have blanks : ∀ d ∈ [blank], Character.isBlank d = true := by simpa using isBlank
    have skipped := skipSeparators_blanks blanks quote inside
    rw [skipSeparators_of_starts startsQuote] at skipped
    rw [made]
    exact skipped
  · rw [value] at made
    refine ⟨found, List.mem_cons_self, ?_⟩
    rw [made]
    simp [Written.isClosed, isQuote]
  · rw [noValue] at made
    apply named '=' rest (by decide) (.inr rfl)
    rw [made]
    dsimp only
    rw [whole, skipSeparators_blanks blank, skipSeparators_of_starts (by decide)]

/-! ### All attributes -/

theorem attributesUpTo_stop (fuel : Nat) (before : Char) (tail : List Char) :
    attributesUpTo fuel before (stop selfClosing ++ tail) = ([], stop selfClosing ++ tail) := by
  cases fuel with
  | zero => rfl
  | succ fuel => exact attributesUpTo_of_none (attribute?_stop selfClosing tail)

/-- What follows a tag closes no quote that is opened in the tag. -/
def ClosesNothing (tail other : List Char) (written : List Written) : Prop :=
  (∀ c, isQuote c = true → c ∈ other → c ∈ tail) ∨ ∀ w ∈ written, w.isClosed = true

theorem attributesUpTo_replace {fuel enough : Nat} {before : Char}
    (stops : (attributesUpTo fuel before (front ++ (stop selfClosing ++ tail))).2 =
      stop selfClosing ++ tail)
    (closed : ClosesNothing tail other
      (attributesUpTo fuel before (front ++ (stop selfClosing ++ tail))).1)
    (atLeast : (attributesUpTo fuel before (front ++ (stop selfClosing ++ tail))).1.length ≤
      enough) :
    ∃ written, attributesUpTo enough before (front ++ (stop selfClosing ++ other)) =
        (written, stop selfClosing ++ other) ∧
      written.map Written.parts =
        (attributesUpTo fuel before (front ++ (stop selfClosing ++ tail))).1.map Written.parts := by
  have atEnd {front : List Char} {enough : Nat} {before : Char}
      (same : front ++ (stop selfClosing ++ tail) = stop selfClosing ++ tail) :
      attributesUpTo enough before (front ++ (stop selfClosing ++ other)) =
        ([], stop selfClosing ++ other) := by
    obtain rfl : front = [] := by simpa using same
    exact attributesUpTo_stop enough before other
  induction fuel generalizing before front enough with
  | zero => exact ⟨[], atEnd stops, rfl⟩
  | succ fuel ih =>
      cases separated : separates before with
      | false =>
          rw [attributesUpTo_of_joined separated] at stops ⊢
          exact ⟨[], atEnd stops, rfl⟩
      | true =>
          cases read : attribute? (front ++ (stop selfClosing ++ tail)) with
          | none =>
              rw [attributesUpTo_of_none read] at stops ⊢
              exact ⟨[], atEnd stops, rfl⟩
          | some found =>
              rw [attributesUpTo_of_some separated read] at stops closed atLeast ⊢
              dsimp only at stops closed atLeast ⊢
              have behind : stop selfClosing ++ tail <:+ found.rest :=
                (stops ▸ attributesUpTo_suffix _ _ _).trans (skipSeparators_suffix _)
              obtain ⟨more, rest, readToo⟩ :=
                @attribute?_replace _ _ _ other _ read behind fun opens => by
                  rcases closed with fewer | closed
                  · exact fewer
                  · obtain ⟨w, member, opened⟩ := exists_not_isClosed read stops opens
                    exact absurd (closed w member) (by rw [opened]; decide)
              obtain ⟨kept, within, skipped⟩ := exists_skipSeparators more selfClosing
              -- What is left is an end of what stood before the end of the tag.
              obtain ⟨used, cut⟩ : kept <:+ front := by
                have suffix := (attribute?_suffix read).trans (List.tail_suffix _)
                rw [rest] at suffix
                obtain ⟨used, same⟩ := suffix
                rw [← List.append_assoc] at same
                exact within.trans ⟨used, List.append_cancel_right same⟩
              have last (tail : List Char) : lastBefore before (front ++ (stop selfClosing ++ tail))
                  (kept ++ (stop selfClosing ++ tail)) = used.getLast?.getD before := by
                rw [← cut, List.append_assoc, lastBefore_append]
              rw [rest, skipped, last] at stops closed atLeast ⊢
              obtain ⟨enough, rfl⟩ : ∃ fewer, enough = fewer + 1 :=
                Nat.exists_eq_succ_of_ne_zero (by rintro rfl; exact absurd atLeast (by simp))
              have closedLater := closed.imp id fun all => (List.forall_mem_cons.mp all).2
              obtain ⟨written, later, parts⟩ :=
                ih stops closedLater (Nat.le_of_succ_le_succ atLeast)
              rw [attributesUpTo_of_some separated readToo]
              dsimp only
              rw [skipped, last, later]
              exact ⟨_, rfl, congrArg (found.parts :: ·) parts⟩

theorem readAttributes_replace {before : Char}
    (stops : (readAttributes before (front ++ (stop selfClosing ++ tail))).2 =
      stop selfClosing ++ tail)
    (closed : ClosesNothing tail other
      (readAttributes before (front ++ (stop selfClosing ++ tail))).1) :
    ∃ written, readAttributes before (front ++ (stop selfClosing ++ other)) =
        (written, stop selfClosing ++ other) ∧
      written.map Written.parts =
        (readAttributes before (front ++ (stop selfClosing ++ tail))).1.map Written.parts := by
  obtain ⟨kept, ⟨used, cut⟩, skipped⟩ := exists_skipSeparators front selfClosing
  have last (tail : List Char) : lastBefore before (front ++ (stop selfClosing ++ tail))
      (kept ++ (stop selfClosing ++ tail)) = used.getLast?.getD before := by
    rw [← cut, List.append_assoc, lastBefore_append]
  simp only [readAttributes, skipped, last] at stops closed ⊢
  refine attributesUpTo_replace stops closed ?_
  have length := length_attributesUpTo_le
    (front ++ (stop selfClosing ++ tail)).length (used.getLast?.getD before)
    (kept ++ (stop selfClosing ++ tail))
  have shorter : kept.length ≤ front.length := by
    rw [← cut, List.length_append]
    omega
  rw [stops] at length
  simp only [List.length_append] at length ⊢
  omega

theorem exists_cons_of_attributesOf
    (stops : (attributesOf (front ++ (stop selfClosing ++ tail))).2 = stop selfClosing ++ tail) :
    ∃ c body, front = c :: body := by
  refine List.exists_cons_of_ne_nil ?_
  rintro rfl
  have suffix : (attributesOf (stop selfClosing ++ tail)).2 <:+
      (stop selfClosing ++ tail).drop 1 :=
    (readAttributes_suffix _ _).trans (List.dropWhile_suffix _)
  have length := suffix.length_le
  rw [List.nil_append] at stops
  rw [stops, List.length_drop] at length
  have given : 0 < (stop selfClosing ++ tail).length := by
    cases selfClosing <;> exact Nat.succ_pos _
  omega

theorem nameOf_cons (c : Char) (body : List Char) (selfClosing : Bool) (tail : List Char) :
    nameOf (c :: body ++ (stop selfClosing ++ tail)) = body.takeWhile continuesName :=
  takeWhile_append_of_ends (stop_endsRun (by decide) (by decide) tail)

theorem afterNameOf_cons (c : Char) (body : List Char) (selfClosing : Bool) (tail : List Char) :
    afterNameOf (c :: body ++ (stop selfClosing ++ tail)) =
      body.dropWhile continuesName ++ (stop selfClosing ++ tail) :=
  dropWhile_append_of_ends (stop_endsRun (by decide) (by decide) tail)

/-- The name of a tag and its attributes do not depend on what follows the tag. -/
theorem attributesOf_replace
    (stops : (attributesOf (front ++ (stop selfClosing ++ tail))).2 = stop selfClosing ++ tail)
    (closed : ClosesNothing tail other (attributesOf (front ++ (stop selfClosing ++ tail))).1) :
    nameOf (front ++ (stop selfClosing ++ other)) = nameOf (front ++ (stop selfClosing ++ tail)) ∧
      ∃ written, attributesOf (front ++ (stop selfClosing ++ other)) =
          (written, stop selfClosing ++ other) ∧
        written.map Written.parts =
          (attributesOf (front ++ (stop selfClosing ++ tail))).1.map Written.parts := by
  obtain ⟨c, body, rfl⟩ := exists_cons_of_attributesOf stops
  simp only [attributesOf, nameOf_cons, afterNameOf_cons] at stops closed ⊢
  exact ⟨trivial, readAttributes_replace stops closed⟩

/-! ### Tags -/

theorem toAttribute?_eq_of_parts {first second : Written} (same : first.parts = second.parts) :
    first.toAttribute? = second.toAttribute? := by
  obtain ⟨name, value⟩ := Prod.mk.inj same
  rw [Written.toAttribute?, Written.toAttribute?, name, value]

theorem mapM_toAttribute?_eq_of_parts {first second : List Written}
    (same : first.map Written.parts = second.map Written.parts) :
    first.mapM Written.toAttribute? = second.mapM Written.toAttribute? := by
  induction first generalizing second with
  | nil =>
      obtain rfl : second = [] := List.map_eq_nil_iff.mp same.symm
      rfl
  | cons w first ih =>
      obtain ⟨v, rest, rfl, one, others⟩ := List.map_eq_cons_iff.mp same.symm
      rw [List.mapM_cons, List.mapM_cons, toAttribute?_eq_of_parts one, ih others.symm]

/-- A tag is read in front of another text, if this closes no quote in the tag. -/
theorem read_replace {cs : List Char} {tag : StartTag} (found : read cs = .tag tag) :
    ∃ tail, cs = tag.raw.toList ++ tail ∧ ∀ other, ClosesNothing tail other (attributesOf cs).1 →
      read (tag.raw.toList ++ other) = .tag tag := by
  obtain ⟨front, tail, selfClosing, attributes, rfl, stops, decoded, made⟩ :=
    read_eq_tag_iff.mp found
  have raw : tag.raw.toList = front ++ stop selfClosing := by
    rw [made]
    exact String.toList_ofList
  refine ⟨tail, by rw [raw, List.append_assoc], fun other closed => ?_⟩
  obtain ⟨name, written, read, parts⟩ := attributesOf_replace stops closed
  rw [raw, List.append_assoc]
  refine read_eq_tag_iff.mpr ⟨front, other, selfClosing, attributes, rfl, ?_, ?_, ?_⟩
  · rw [read]
  · rw [read]
    dsimp only
    rw [mapM_toAttribute?_eq_of_parts parts, decoded]
  · rw [name, made]

end StartTag

end LayoutBinding
