import LayoutBinding.Proofs.Template.PieceForms

/-!
# Where an end is found

A construct reaches to the first place where its end is found.  Whether an end is found at a
place inside the construct does not depend on what follows the construct, so the same text has
the same end in front of anything.
-/

namespace LayoutBinding

namespace Events

section Splitting

variable {close? : List Char → Option (List Char)} {before rest stop : List Char}

theorem splitAtFirst_of_closes (closes : close? stop = some rest) :
    splitAtFirst close? stop = some ([], rest) := by
  cases stop with
  | nil => rw [splitAtFirst, closes, Option.map_some]
  | cons c cs => rw [splitAtFirst, closes]

theorem splitAtFirst_eq_some_iff {cs : List Char} :
    splitAtFirst close? cs = some (before, rest) ↔
      ∃ stop, cs = before ++ stop ∧ close? stop = some rest ∧
        ∀ inside, inside ≠ [] → inside <:+ before → close? (inside ++ stop) = none := by
  constructor
  · intro split
    induction cs generalizing before with
    | nil =>
        obtain ⟨_, closes, same⟩ := Option.map_eq_some_iff.mp split
        cases same
        exact ⟨[], rfl, closes, fun inside given suffix =>
          absurd (List.suffix_nil.mp suffix) given⟩
    | cons c cs ih =>
        rw [splitAtFirst] at split
        split at split
        next found closes =>
          cases split
          exact ⟨c :: cs, rfl, closes, fun inside given suffix =>
            absurd (List.suffix_nil.mp suffix) given⟩
        next nothing =>
          obtain ⟨⟨front, found⟩, later, same⟩ := Option.map_eq_some_iff.mp split
          cases same
          obtain ⟨stop, rfl, closes, none⟩ := ih later
          refine ⟨stop, rfl, closes, fun inside given suffix => ?_⟩
          rcases List.suffix_cons_iff.mp suffix with rfl | suffix
          · exact nothing
          · exact none inside given suffix
  · rintro ⟨stop, rfl, closes, none⟩
    induction before with
    | nil => exact splitAtFirst_of_closes closes
    | cons c before ih =>
        have first := none (c :: before) (List.cons_ne_nil c before) List.suffix_rfl
        rw [List.cons_append] at first ⊢
        rw [splitAtFirst, first, ih fun inside given suffix =>
          none inside given (suffix.trans (List.suffix_cons c before))]
        rfl

/-- A construct that is written with its end is read to this end. -/
theorem delimited_append (event : String → Event) {skip : Nat} (front stop : List Char)
    (atMost : skip ≤ front.length) (closes : close? (stop ++ rest) = some rest)
    (inside : ∀ part, part ≠ [] → part <:+ before → close? (part ++ (stop ++ rest)) = none) :
    delimited event skip close? (front ++ (before ++ stop) ++ rest) front.length =
      .complete (some (event (String.ofList (front.drop skip ++ before))))
        (front ++ (before ++ stop)).length := by
  have behind : (front ++ (before ++ stop) ++ rest).drop front.length =
      before ++ (stop ++ rest) := by
    rw [List.append_assoc, List.drop_left, List.append_assoc]
  have taken : ((front ++ (before ++ stop) ++ rest).drop skip).take (front.length - skip) =
      front.drop skip := by
    rw [List.append_assoc, List.drop_append_of_le_length atMost, ← List.length_drop,
      List.take_left]
  have length : (front ++ (before ++ stop) ++ rest).length - rest.length =
      (front ++ (before ++ stop)).length := by
    rw [List.length_append, Nat.add_sub_cancel]
  have split : splitAtFirst close? (before ++ (stop ++ rest)) = some (before, rest) :=
    splitAtFirst_eq_some_iff.mpr ⟨_, rfl, closes, inside⟩
  rw [← behind] at split
  rw [delimited, split, taken]
  dsimp only
  rw [length]

theorem exists_of_delimited {event : String → Event} {skip searched length : Nat}
    {cs : List Char} {made : Option Event}
    (read : delimited event skip close? cs searched = .complete made length) :
    ∃ before rest, splitAtFirst close? (cs.drop searched) = some (before, rest) ∧
      made = some (event (String.ofList ((cs.drop skip).take (searched - skip) ++ before))) ∧
      length = cs.length - rest.length := by
  unfold delimited at read
  split at read
  next before rest split =>
    cases read
    exact ⟨before, rest, split, rfl, rfl⟩
  next => cases read

end Splitting

/-! ### Brackets -/

theorem angle?_eq_none {text : List Char} (first : '>' ∉ text) (out : List Char) :
    ∀ part, part ≠ [] → part <:+ text → angle? (part ++ '>' :: out) = none := by
  intro part given suffix
  obtain ⟨c, cs, rfl⟩ := List.exists_cons_of_ne_nil given
  have other : c ≠ '>' := by
    rintro rfl
    exact first (suffix.subset List.mem_cons_self)
  rw [List.cons_append, angle?]
  rintro _ same
  exact other (List.cons.inj same).1

theorem splitAtFirst_angle? {before : List Char} (first : '>' ∉ before) (rest : List Char) :
    splitAtFirst angle? (before ++ '>' :: rest) = some (before, rest) :=
  splitAtFirst_eq_some_iff.mpr ⟨'>' :: rest, rfl, rfl, angle?_eq_none first rest⟩

theorem bracket?_eq_none_iff {cs : List Char} :
    bracket? cs = none ↔ (cs.dropWhile Character.isBlank).head? ≠ some '>' := by
  unfold bracket?
  split
  next rest starts => simp [starts]
  next other =>
    refine iff_of_true rfl fun first => ?_
    obtain ⟨rest, starts⟩ := List.head?_eq_some_iff.mp first
    exact other rest starts

theorem commentEnd?_cons (d e : Char) (cs : List Char) :
    commentEnd? (d :: e :: cs) = if d = '-' ∧ e = '-' then bracket? cs else none := by
  unfold commentEnd?
  split
  next rest same =>
    obtain ⟨rfl, rfl, rfl⟩ : d = '-' ∧ e = '-' ∧ cs = rest := by simpa using same
    rfl
  next other =>
    rw [if_neg]
    rintro ⟨rfl, rfl⟩
    exact other cs rfl

theorem conditionEnd?_cons (d : Char) (cs : List Char) :
    conditionEnd? (d :: cs) = if d = ']' then bracket? cs else none := by
  unfold conditionEnd?
  split
  next rest same =>
    obtain ⟨rfl, rfl⟩ : d = ']' ∧ cs = rest := by simpa using same
    rfl
  next other =>
    rw [if_neg]
    rintro rfl
    exact other cs rfl

section Ends

variable {c : Char} {front tail : List Char} (other : List Char)

theorem head?_dropWhile_append (noBlank : Character.isBlank c = false) :
    ((front ++ c :: tail).dropWhile Character.isBlank).head? =
      some ((front.dropWhile Character.isBlank).headD c) := by
  induction front with
  | nil => simp [noBlank]
  | cons d front ih =>
      rw [List.cons_append]
      cases blank : Character.isBlank d with
      | true => rw [List.dropWhile_cons_of_pos blank, List.dropWhile_cons_of_pos blank, ih]
      | false =>
          have stays : ¬Character.isBlank d = true := by simp [blank]
          rw [List.dropWhile_cons_of_neg stays, List.dropWhile_cons_of_neg stays]
          rfl

/-- What follows a character that is not blank does not matter for a bracket. -/
theorem bracket?_replace (noBlank : Character.isBlank c = false)
    (nothing : bracket? (front ++ c :: tail) = none) : bracket? (front ++ c :: other) = none := by
  rw [bracket?_eq_none_iff, head?_dropWhile_append noBlank] at nothing ⊢
  exact nothing

theorem bracket?_eq_none_of_notMem (noBlank : Character.isBlank c = false) (noBracket : c ≠ '>')
    (first : '>' ∉ front) : bracket? (front ++ c :: other) = none := by
  rw [bracket?_eq_none_iff, head?_dropWhile_append noBlank]
  intro starts
  cases cut : front.dropWhile Character.isBlank with
  | nil =>
      rw [cut] at starts
      exact noBracket (Option.some.inj starts)
  | cons d rest =>
      rw [cut] at starts
      obtain rfl : d = '>' := Option.some.inj starts
      exact first ((List.dropWhile_suffix Character.isBlank).subset (cut ▸ List.mem_cons_self))

theorem commentEnd?_dash (d : Char) : commentEnd? (d :: '-' :: '-' :: other) = none := by
  have nothing : bracket? ([] ++ '-' :: other) = none :=
    bracket?_eq_none_of_notMem other (by decide) (by decide) List.not_mem_nil
  rw [commentEnd?_cons, ← List.nil_append ('-' :: other), nothing, ite_self]

theorem commentEnd?_replace (given : front ≠ [])
    (nothing : commentEnd? (front ++ '-' :: '-' :: tail) = none) :
    commentEnd? (front ++ '-' :: '-' :: other) = none := by
  have noBlank : Character.isBlank '-' = false := by decide
  match front, given, nothing with
  | [d], _, _ =>
      exact commentEnd?_dash other d
  | d :: e :: front, _, nothing =>
      rw [List.cons_append, List.cons_append, commentEnd?_cons] at nothing ⊢
      split
      next dashes =>
        rw [if_pos dashes] at nothing
        exact bracket?_replace ('-' :: other) noBlank nothing
      next => rfl

theorem commentEnd?_eq_none (given : front ≠ []) (first : '>' ∉ front) :
    commentEnd? (front ++ '-' :: '-' :: other) = none := by
  have noBlank : Character.isBlank '-' = false := by decide
  match front, given, first with
  | [d], _, _ =>
      exact commentEnd?_dash other d
  | d :: e :: front, _, first =>
      have behind : '>' ∉ front := fun member =>
        first (List.mem_cons_of_mem _ (List.mem_cons_of_mem _ member))
      rw [List.cons_append, List.cons_append, commentEnd?_cons,
        bracket?_eq_none_of_notMem ('-' :: other) noBlank (by decide) behind, ite_self]

theorem conditionEnd?_replace (given : front ≠ [])
    (nothing : conditionEnd? (front ++ ']' :: tail) = none) :
    conditionEnd? (front ++ ']' :: other) = none := by
  have noBlank : Character.isBlank ']' = false := by decide
  obtain ⟨d, front, rfl⟩ := List.exists_cons_of_ne_nil given
  rw [List.cons_append, conditionEnd?_cons] at nothing ⊢
  split
  next square =>
    rw [if_pos square] at nothing
    exact bracket?_replace other noBlank nothing
  next => rfl

end Ends

end Events

end LayoutBinding
