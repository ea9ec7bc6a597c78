import LayoutBinding.Character.Blank
import LayoutBinding.Character.Case

/-!
# Texts in lower case

A text in lower case is its own lower-case form.  Blanks and the ASCII characters in front
of the letters have no case: lower-casing neither takes them out of a text nor brings them
in, so a text can be cut at them before or after it.
-/

namespace LayoutBinding

namespace Character

/-- Whether lower-casing leaves the character alone and gives it for no other one. -/
def isCaseless (c : Char) : Bool :=
  c.toNat < 65 || isBlank c

namespace Run

/-- The last code point that a run gives. -/
def lastImage (run : Run) : Nat :=
  run.image + (run.last - run.first)

/-- Whether a run maps characters that are no blanks to letters, the dotted capital i
aside. -/
def mapsLetters (run : Run) : Bool :=
  97 ≤ run.image && (run.lastImage < 304 || 304 < run.image) &&
    (run.lastImage < 55296 || 57343 < run.image && run.lastImage < 1114112) &&
    blankRanges.all fun range =>
      (run.lastImage < range.1 || range.2 < run.image) &&
        (run.last < range.1 || range.2 < run.first)

/-- Whether the code points that another run gives are not mapped by a run. -/
def leaves (run other : Run) : Bool :=
  Nat.blt other.lastImage run.first || Nat.blt run.last other.image ||
    (run.step == 2 && (other.step == 2 || other.first == other.last) &&
      (run.first + other.image) % 2 == 1)

variable {run other : Run} {code result : Nat}

theorem image?_eq_some_iff : run.image? code = some result ↔
    run.first ≤ code ∧ code ≤ run.last ∧ (code - run.first) % run.step = 0 ∧
      run.image + (code - run.first) = result := by
  unfold image?
  split
  · simp_all
  · simp_all

theorem isValidChar_of_mapsLetters (letters : run.mapsLetters = true)
    (image : run.image? code = some result) : result.isValidChar := by
  obtain ⟨atLeast, atMost, -, rfl⟩ := image?_eq_some_iff.mp image
  simp only [mapsLetters, Bool.and_eq_true, Bool.or_eq_true, decide_eq_true_eq] at letters
  unfold lastImage at letters
  unfold Nat.isValidChar
  omega

theorem le_of_mapsLetters (letters : run.mapsLetters = true)
    (image : run.image? code = some result) : 97 ≤ result ∧ result ≠ 304 := by
  obtain ⟨atLeast, atMost, -, rfl⟩ := image?_eq_some_iff.mp image
  simp only [mapsLetters, Bool.and_eq_true, Bool.or_eq_true, decide_eq_true_eq] at letters
  unfold lastImage at letters
  omega

theorem not_listed_of_mapsLetters (letters : run.mapsLetters = true) {c d : Char}
    (image : run.image? c.toNat = some d.toNat) :
    listed blankRanges c = false ∧ listed blankRanges d = false := by
  obtain ⟨atLeast, atMost, -, same⟩ := image?_eq_some_iff.mp image
  simp only [mapsLetters, Bool.and_eq_true, List.all_eq_true, Bool.or_eq_true,
    decide_eq_true_eq] at letters
  unfold lastImage at letters
  constructor
  · rw [listed, List.any_eq_false]
    intro range member
    have beside := (letters.2 range member).2
    simp only [Bool.and_eq_true, decide_eq_true_eq]
    omega
  · rw [listed, List.any_eq_false]
    intro range member
    have beside := (letters.2 range member).1
    simp only [Bool.and_eq_true, decide_eq_true_eq]
    omega

theorem image?_eq_none_of_leaves (apart : run.leaves other = true)
    (image : other.image? code = some result) : run.image? result = none := by
  obtain ⟨atLeast, atMost, even, rfl⟩ := image?_eq_some_iff.mp image
  rw [Option.eq_none_iff_forall_ne_some]
  intro next given
  obtain ⟨reached, passed, onStep, -⟩ := image?_eq_some_iff.mp given
  simp only [leaves, lastImage, Bool.or_eq_true, Bool.and_eq_true, Nat.blt_eq, beq_iff_eq]
    at apart
  rcases apart with (before | behind) | ⟨⟨step, otherStep | single⟩, odd⟩
  · omega
  · omega
  · rw [step] at onStep
    rw [otherStep] at even
    omega
  · rw [step] at onStep
    omega

end Run

theorem lowerRuns_map_letters : lowerRuns.all Run.mapsLetters = true := by
  decide +kernel

theorem lowerRuns_leave : (lowerRuns.all fun run => lowerRuns.all run.leaves) = true := by
  decide +kernel

theorem eq_ofNat_of_lt {c : Char} {P : Char → Prop}
    (all : ∀ code < 128, P (Char.ofNat code)) (ascii : c.toNat < 128) : P c := by
  have holds := all c.toNat ascii
  rwa [Char.ofNat_toNat] at holds

theorem isBlank_eq_listed {c : Char} (beyond : 33 ≤ c.toNat) :
    isBlank c = listed blankRanges c := by
  have noAscii : ¬c.toNat ≤ 13 ∧ ¬c.toNat ≤ 32 := by omega
  simp [isBlank, noAscii.1, noAscii.2]

/-- A character that is mapped is no blank, and what it is mapped to is a letter, which is
its own lower-case form. -/
theorem mapped_lowerRuns (c : Char) : mapped lowerRuns c = c ∨
    listed blankRanges c = false ∧ isCaseless (mapped lowerRuns c) = false ∧
      lower (mapped lowerRuns c) = [mapped lowerRuns c] := by
  cases found : lowerRuns.findSome? (Run.image? · c.toNat) with
  | none =>
      left
      rw [mapped, found]
  | some code =>
      right
      obtain ⟨run, member, image⟩ := List.exists_of_findSome?_eq_some found
      have letters := List.all_eq_true.mp lowerRuns_map_letters run member
      have valid := Run.isValidChar_of_mapsLetters letters image
      have last : lowerRuns.findSome? (Run.image? · code) = none := by
        rw [List.findSome?_eq_none_iff]
        intro next among
        have apart := List.all_eq_true.mp (List.all_eq_true.mp lowerRuns_leave next among)
        exact Run.image?_eq_none_of_leaves (apart run member) image
      have given : mapped lowerRuns c = Char.ofNat code := by rw [mapped, found]
      have result : (Char.ofNat code).toNat = code := by
        rw [Char.ofNat, dif_pos valid]
        rfl
      rw [given]
      generalize Char.ofNat code = d at result
      rw [← result] at image last
      obtain ⟨atLeast, other⟩ := Run.le_of_mapsLetters letters image
      have noBlanks := Run.not_listed_of_mapsLetters letters image
      refine ⟨noBlanks.1, ?_, ?_⟩
      · rw [isCaseless, isBlank_eq_listed (by omega), noBlanks.2]
        simp only [Bool.or_false, decide_eq_false_iff_not]
        omega
      · unfold lower
        split
        next ascii =>
          have same := eq_ofNat_of_lt (P := fun d => 97 ≤ d.toNat → d.toLower = d)
            (by decide) ascii
          rw [same atLeast]
        · rw [mapped, last]

/-! ### One character -/

theorem lower_ne_nil (c : Char) : lower c ≠ [] := by
  unfold lower
  split
  · exact List.cons_ne_nil _ _
  · split <;> exact List.cons_ne_nil _ _

theorem eq_or_of_mem_lower {c x : Char} (member : x ∈ lower c) :
    x = c ∨ isCaseless x = false := by
  unfold lower at member
  split at member
  next ascii =>
    obtain rfl := List.mem_singleton.mp member
    exact eq_ofNat_of_lt (P := fun c => c.toLower = c ∨ isCaseless c.toLower = false)
      (by decide) ascii
  · split at member
    · right
      rcases List.mem_cons.mp member with rfl | member
      · decide
      · obtain rfl := List.mem_singleton.mp member
        decide
    · obtain rfl := List.mem_singleton.mp member
      exact (mapped_lowerRuns c).imp id fun given => given.2.1

theorem lower_of_isCaseless {c : Char} (caseless : isCaseless c = true) : lower c = [c] := by
  unfold lower
  split
  next ascii =>
    have same := eq_ofNat_of_lt (P := fun c => isCaseless c = true → c.toLower = c)
      (by decide) ascii
    rw [same caseless]
  next beyond =>
    split
    next dotted =>
      obtain rfl : c = 'İ' := Char.toNat_inj.mp dotted
      exact absurd caseless (by decide)
    next =>
      rw [isCaseless, isBlank_eq_listed (by omega), decide_eq_false (by omega)] at caseless
      rcases mapped_lowerRuns c with same | ⟨noBlank, -⟩
      · rw [same]
      · exact absurd (noBlank.symm.trans caseless) (by decide)

theorem mem_lower_iff {c x : Char} (caseless : isCaseless x = true) : x ∈ lower c ↔ x = c := by
  constructor
  · intro member
    rcases eq_or_of_mem_lower member with same | cased
    · exact same
    · exact absurd (cased.symm.trans caseless) (by decide)
  · rintro rfl
    rw [lower_of_isCaseless caseless]
    exact List.mem_singleton_self x

theorem lower_of_ascii {c : Char} (ascii : c.toNat < 128) : lower c = [c.toLower] := by
  rw [lower, if_pos ascii]

theorem toLower_eq_iff {c x : Char} (caseless : isCaseless x = true) :
    c.toLower = x ↔ c = x := by
  by_cases ascii : c.toNat < 128
  · have member : x ∈ lower c ↔ x = c := mem_lower_iff caseless
    rw [lower_of_ascii ascii, List.mem_singleton] at member
    rw [eq_comm, member, eq_comm]
  · have same : c.toLower = c := by
      unfold Char.toLower
      split
      next upper =>
        have atMost := UInt32.le_iff_toNat_le.mp upper.2
        change c.toNat ≤ 90 at atMost
        omega
      next => rfl
    rw [same]

theorem lower_of_mem_lower {c x : Char} (member : x ∈ lower c) : lower x = [x] := by
  unfold lower at member
  split at member
  next ascii =>
    obtain rfl := List.mem_singleton.mp member
    exact eq_ofNat_of_lt (P := fun c => lower c.toLower = [c.toLower]) (by decide) ascii
  next beyond =>
    split at member
    · rcases List.mem_cons.mp member with rfl | member
      · decide
      · obtain rfl := List.mem_singleton.mp member
        decide
    next other =>
      obtain rfl := List.mem_singleton.mp member
      rcases mapped_lowerRuns c with same | given
      · rw [same, lower, if_neg beyond, if_neg other, same]
      · exact given.2.2

/-- Beyond ASCII only the sign of the kelvin has an ASCII letter as its lower-case form. -/
theorem lowerRuns_beyond : (lowerRuns.all fun run =>
    128 ≤ run.image || run.image == 107 && run.first == run.last) = true := by
  decide +kernel

theorem exists_mem_lower {c : Char} (beyond : ¬c.toNat < 128) :
    ∃ d ∈ lower c, ¬d.toNat < 128 ∨ d = 'k' := by
  rw [lower, if_neg beyond]
  split
  · exact ⟨Char.ofNat 775, by simp, .inl (by decide)⟩
  · refine ⟨_, List.mem_singleton_self _, ?_⟩
    rw [mapped]
    split
    next code found =>
      obtain ⟨run, member, image⟩ := List.exists_of_findSome?_eq_some found
      have valid := Run.isValidChar_of_mapsLetters
        (List.all_eq_true.mp lowerRuns_map_letters run member) image
      have result : (Char.ofNat code).toNat = code := by
        rw [Char.ofNat, dif_pos valid]
        rfl
      have far := List.all_eq_true.mp lowerRuns_beyond run member
      simp only [Bool.or_eq_true, decide_eq_true_eq, Bool.and_eq_true, beq_iff_eq] at far
      obtain ⟨atLeast, atMost, -, rfl⟩ := Run.image?_eq_some_iff.mp image
      rcases far with far | ⟨kelvin, single⟩
      · left
        rw [result]
        omega
      · right
        have code : run.image + (c.toNat - run.first) = 107 := by omega
        rw [code]
    next => exact .inl beyond

/-! ### Texts -/

theorem lowerAfter_cons (before : List Char) (c : Char) (after : List Char) :
    ∃ form, (form = lower c ∨ c = 'Σ' ∧ form = ['ς']) ∧
      lowerAfter before (c :: after) = form ++ lowerAfter (c :: before) after := by
  refine ⟨_, ?_, lowerAfter.eq_2 before c after⟩
  split
  next isSigma =>
    split
    · exact .inr ⟨isSigma, rfl⟩
    · left
      rw [isSigma]
      decide
  next => exact .inl rfl

theorem length_lowerAfter (before cs : List Char) :
    (lowerAfter before cs).length = (cs.flatMap lower).length := by
  induction cs generalizing before with
  | nil => rfl
  | cons c cs ih =>
      obtain ⟨form, given, whole⟩ := lowerAfter_cons before c cs
      have length : form.length = (lower c).length := by
        rcases given with rfl | ⟨rfl, rfl⟩
        · rfl
        · decide
      rw [whole, List.flatMap_cons, List.length_append, List.length_append, ih, length]

/-- Only the capital i with a dot has a lower-case form of two characters. -/
theorem length_lower {c : Char} (other : c ≠ 'İ') : (lower c).length = 1 := by
  unfold lower
  split
  · rfl
  · split
    next dotted => exact absurd (Char.toNat_inj.mp dotted) other
    next => rfl

theorem length_flatMap_lower {cs : List Char} (noDotted : 'İ' ∉ cs) :
    (cs.flatMap lower).length = cs.length := by
  induction cs with
  | nil => rfl
  | cons c cs ih =>
      rw [List.mem_cons, not_or] at noDotted
      rw [List.flatMap_cons, List.length_append, length_lower (Ne.symm noDotted.1),
        ih noDotted.2, List.length_cons, Nat.add_comm]

theorem length_le_flatMap_lower (cs : List Char) : cs.length ≤ (cs.flatMap lower).length := by
  induction cs with
  | nil => exact Nat.le_refl 0
  | cons c cs ih =>
      have positive := List.length_pos_iff.mpr (lower_ne_nil c)
      rw [List.flatMap_cons, List.length_append, List.length_cons]
      omega

theorem mem_lowerAfter_iff {x : Char} (caseless : isCaseless x = true) (before cs : List Char) :
    x ∈ lowerAfter before cs ↔ x ∈ cs := by
  induction cs generalizing before with
  | nil => rfl
  | cons c cs ih =>
      obtain ⟨form, given, whole⟩ := lowerAfter_cons before c cs
      have first : x ∈ form ↔ x = c := by
        rcases given with rfl | ⟨rfl, rfl⟩
        · exact mem_lower_iff caseless
        · constructor
          · intro member
            obtain rfl := List.mem_singleton.mp member
            exact absurd caseless (by decide)
          · rintro rfl
            exact absurd caseless (by decide)
      rw [whole, List.mem_append, List.mem_cons, ih, first]

theorem mem_lowerAll_iff {x : Char} (caseless : isCaseless x = true) {cs : List Char} :
    x ∈ lowerAll cs ↔ x ∈ cs :=
  mem_lowerAfter_iff caseless [] cs

theorem notMem_tail_lowerAll {x : Char} (caseless : isCaseless x = true) {cs : List Char}
    (absent : x ∉ cs.tail) : x ∉ (lowerAll cs).tail := by
  cases cs with
  | nil => exact absent
  | cons c cs =>
      obtain ⟨form, given, whole⟩ := lowerAfter_cons [] c cs
      have alone : x ∉ form.tail ∧ form ≠ [] := by
        rcases given with rfl | ⟨rfl, rfl⟩
        · refine ⟨fun member => ?_, lower_ne_nil c⟩
          obtain rfl := (mem_lower_iff caseless).mp (List.mem_of_mem_tail member)
          rw [lower_of_isCaseless caseless] at member
          cases member
        · exact ⟨List.not_mem_nil, List.cons_ne_nil _ _⟩
      rw [lowerAll, whole, List.tail_append_of_ne_nil alone.2, List.mem_append, not_or]
      exact ⟨alone.1, fun member => absent ((mem_lowerAfter_iff caseless [c] cs).mp member)⟩

theorem head?_lowerAll_iff {x : Char} (caseless : isCaseless x = true) {cs : List Char} :
    (lowerAll cs).head? = some x ↔ cs.head? = some x := by
  cases cs with
  | nil => rfl
  | cons c cs =>
      obtain ⟨form, given, whole⟩ := lowerAfter_cons [] c cs
      rw [lowerAll, whole, List.head?_cons, Option.some_inj]
      rcases given with rfl | ⟨rfl, rfl⟩
      · obtain ⟨first, others, same⟩ := List.exists_cons_of_ne_nil (lower_ne_nil c)
        rw [same, List.cons_append, List.head?_cons, Option.some_inj]
        constructor
        · rintro rfl
          exact ((mem_lower_iff caseless).mp (same ▸ List.mem_cons_self)).symm
        · rintro rfl
          rw [lower_of_isCaseless caseless] at same
          exact (List.cons.inj same).1.symm
      · constructor
        · intro same
          obtain rfl := Option.some.inj same
          exact absurd caseless (by decide)
        · rintro rfl
          exact absurd caseless (by decide)

theorem lower_of_mem_lowerAll {x : Char} {cs : List Char} (member : x ∈ lowerAll cs) :
    lower x = [x] := by
  have general (before cs : List Char) (member : x ∈ lowerAfter before cs) :
      lower x = [x] := by
    induction cs generalizing before with
    | nil => cases member
    | cons c cs ih =>
        obtain ⟨form, given, whole⟩ := lowerAfter_cons before c cs
        rw [whole, List.mem_append] at member
        rcases member with first | member
        · rcases given with rfl | ⟨rfl, rfl⟩
          · exact lower_of_mem_lower first
          · obtain rfl := List.mem_singleton.mp first
            decide
        · exact ih _ member
  exact general [] cs member

theorem lowerAll_eq_map {f : Char → Char} {cs : List Char}
    (each : ∀ c ∈ cs, c ≠ 'Σ' ∧ lower c = [f c]) : lowerAll cs = cs.map f := by
  have general (before : List Char) : lowerAfter before cs = cs.map f := by
    induction cs generalizing before with
    | nil => rfl
    | cons c cs ih =>
        obtain ⟨⟨other, first⟩, others⟩ := List.forall_mem_cons.mp each
        rw [lowerAfter, if_neg other, first, ih others, List.singleton_append, List.map_cons]
  exact general []

theorem lowerAll_eq_self {cs : List Char} (fixed : ∀ c ∈ cs, lower c = [c]) :
    lowerAll cs = cs := by
  have same : lowerAll cs = cs.map id := by
    refine lowerAll_eq_map fun c member => ⟨?_, fixed c member⟩
    rintro rfl
    exact absurd (fixed 'Σ' member) (by decide)
  rwa [List.map_id] at same

theorem lowerAll_of_ascii {cs : List Char} (ascii : ∀ c ∈ cs, c.toNat < 128) :
    lowerAll cs = cs.map Char.toLower := by
  refine lowerAll_eq_map fun c member => ⟨?_, lower_of_ascii (ascii c member)⟩
  rintro rfl
  exact absurd (ascii 'Σ' member) (by decide)

/-- A text whose lower-case form is plain ASCII is plain ASCII, the letter k aside. -/
theorem lt_of_mem_lowerAll {cs : List Char}
    (ascii : ∀ d ∈ lowerAll cs, d.toNat < 128 ∧ d ≠ 'k') : ∀ c ∈ cs, c.toNat < 128 := by
  have general (before cs : List Char)
      (ascii : ∀ d ∈ lowerAfter before cs, d.toNat < 128 ∧ d ≠ 'k') : ∀ c ∈ cs, c.toNat < 128 := by
    induction cs generalizing before with
    | nil => exact List.forall_mem_nil _
    | cons c cs ih =>
        obtain ⟨form, given, whole⟩ := lowerAfter_cons before c cs
        rw [whole, List.forall_mem_append] at ascii
        refine List.forall_mem_cons.mpr ⟨?_, ih (c :: before) ascii.2⟩
        refine Decidable.byContradiction fun beyond => ?_
        rcases given with rfl | ⟨-, rfl⟩
        · obtain ⟨d, member, far⟩ := exists_mem_lower beyond
          obtain ⟨near, other⟩ := ascii.1 d member
          rcases far with far | rfl
          · exact far near
          · exact other rfl
        · exact absurd (ascii.1 'ς' (List.mem_singleton_self _)).1 (by decide)
  exact general [] cs ascii

theorem lowerAll_lowerAll (cs : List Char) : lowerAll (lowerAll cs) = lowerAll cs :=
  lowerAll_eq_self fun _ => lower_of_mem_lowerAll

/-! ### Letters -/

theorem lt_of_isAlpha {c : Char} (letter : c.isAlpha = true) : c.toNat < 128 := by
  unfold Char.isAlpha Char.isUpper Char.isLower at letter
  simp only [Bool.or_eq_true, Bool.and_eq_true, decide_eq_true_eq, ge_iff_le,
    UInt32.le_iff_toNat_le] at letter
  change c.val.toNat < 128
  rcases letter with ⟨-, atMost⟩ | ⟨-, atMost⟩
  · exact Nat.lt_of_le_of_lt atMost (by decide)
  · exact Nat.lt_of_le_of_lt atMost (by decide)

theorem isCaseless_of_isAlpha {c : Char} (letter : c.isAlpha = true) : isCaseless c = false :=
  eq_ofNat_of_lt (P := fun c => c.isAlpha = true → isCaseless c = false) (by decide)
    (lt_of_isAlpha letter) letter

theorem isAlpha_toLower {c : Char} (letter : c.isAlpha = true) : c.toLower.isAlpha = true :=
  eq_ofNat_of_lt (P := fun c => c.isAlpha = true → c.toLower.isAlpha = true) (by decide)
    (lt_of_isAlpha letter) letter

theorem isAlpha_of_toLower {c : Char} (ascii : c.toNat < 128)
    (letter : c.toLower.isAlpha = true) : c.isAlpha = true :=
  eq_ofNat_of_lt (P := fun c => c.toLower.isAlpha = true → c.isAlpha = true) (by decide)
    ascii letter

theorem exists_cons_lowerAll {c : Char} (letter : c.isAlpha = true) (cs : List Char) :
    ∃ d rest, lowerAll (c :: cs) = d :: rest ∧ d.isAlpha = true := by
  obtain ⟨form, given, whole⟩ := lowerAfter_cons [] c cs
  rcases given with rfl | ⟨rfl, -⟩
  · rw [lower_of_ascii (lt_of_isAlpha letter)] at whole
    exact ⟨_, _, whole, isAlpha_toLower letter⟩
  · cases letter

end Character

end LayoutBinding
