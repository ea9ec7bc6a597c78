import LayoutBinding.Text.Trim
import Mathlib.Data.List.TakeWhile

/-!
# Trimmed texts

Trimming takes off what stands around a text, as far as it satisfies a test, and nothing else.
-/

namespace LayoutBinding

/-- Around a text stand characters that satisfy the test. -/
def Surrounds (test : Char → Bool) (middle cs : List Char) : Prop :=
  ∃ front back, cs = front ++ (middle ++ back) ∧ (∀ c ∈ front, test c = true) ∧
    ∀ c ∈ back, test c = true

variable {test : Char → Bool}

theorem head?_trim (test : Char → Bool) (cs : List Char) :
    ∀ c ∈ (trim test cs).head?, test c = false := by
  intro c first
  have isPrefix : trim test cs <+: cs.dropWhile test := by
    rw [← List.reverse_suffix, trim, trimEnd, List.reverse_reverse]
    exact List.dropWhile_suffix test
  obtain ⟨more, whole⟩ := isPrefix
  have stopped := List.head?_dropWhile_not test cs
  rw [← whole, List.head?_append, Option.mem_def.mp first] at stopped
  simpa using stopped

theorem getLast?_trim (test : Char → Bool) (cs : List Char) :
    ∀ c ∈ (trim test cs).getLast?, test c = false := by
  intro c last
  rw [trim, trimEnd, List.getLast?_reverse] at last
  have stopped := List.head?_dropWhile_not test (trimStart test cs).reverse
  rw [Option.mem_def.mp last] at stopped
  simpa using stopped

theorem surrounds_trim (test : Char → Bool) (cs : List Char) :
    Surrounds test (trim test cs) cs := by
  refine ⟨cs.takeWhile test, ((cs.dropWhile test).reverse.takeWhile test).reverse, ?_, ?_, ?_⟩
  · rw [trim, trimEnd, trimStart, ← List.reverse_append, List.takeWhile_append_dropWhile,
      List.reverse_reverse, List.takeWhile_append_dropWhile]
  · exact fun c member => List.mem_takeWhile_imp member
  · exact fun c member => List.mem_takeWhile_imp (List.mem_reverse.mp member)

theorem dropWhile_append_of_all {front rest : List Char} (all : ∀ c ∈ front, test c = true)
    (stops : ∀ c ∈ rest.head?, test c = false) : (front ++ rest).dropWhile test = rest := by
  rw [List.dropWhile_append_of_pos all]
  cases rest with
  | nil => rfl
  | cons c rest => rw [List.dropWhile_cons, stops c rfl]; rfl

/-- What is left of a text without the characters at its ends that satisfy the test. -/
structure IsTrimmed (test : Char → Bool) (cs middle : List Char) : Prop where
  around : Surrounds test middle cs
  first : ∀ c ∈ middle.head?, test c = false
  last : ∀ c ∈ middle.getLast?, test c = false

theorem isTrimmed_trim (test : Char → Bool) (cs : List Char) :
    IsTrimmed test cs (trim test cs) :=
  ⟨surrounds_trim test cs, head?_trim test cs, getLast?_trim test cs⟩

/-- What trimming leaves is told by what stands around it and by its ends. -/
theorem IsTrimmed.trim_eq {middle cs : List Char} (trimmed : IsTrimmed test cs middle) :
    trim test cs = middle := by
  obtain ⟨⟨front, back, rfl, allFront, allBack⟩, first, last⟩ := trimmed
  have allReversed : ∀ c ∈ back.reverse, test c = true := by simpa using allBack
  cases middle with
  | nil =>
      have all : ∀ c ∈ front ++ back, test c = true :=
        List.forall_mem_append.mpr ⟨allFront, allBack⟩
      rw [List.nil_append, trim, trimStart, List.dropWhile_eq_nil_iff.mpr all, trimEnd_nil]
  | cons d inner =>
      have start : trimStart test (front ++ (d :: inner ++ back)) = d :: inner ++ back :=
        dropWhile_append_of_all allFront first
      have stop : (d :: inner ++ back).reverse.dropWhile test = (d :: inner).reverse := by
        rw [List.reverse_append]
        apply dropWhile_append_of_all allReversed
        rwa [List.head?_reverse]
      rw [trim, start, trimEnd, stop, List.reverse_reverse]

theorem Surrounds.eq_of_length {middle cs : List Char} (around : Surrounds test middle cs)
    (full : cs.length ≤ middle.length) : cs = middle := by
  obtain ⟨front, back, rfl, -, -⟩ := around
  simp only [List.length_append] at full
  obtain rfl : front = [] := List.eq_nil_of_length_eq_zero (by omega)
  obtain rfl : back = [] := List.eq_nil_of_length_eq_zero (by omega)
  simp

theorem Surrounds.length_le {middle cs : List Char} (around : Surrounds test middle cs) :
    middle.length ≤ cs.length := by
  obtain ⟨front, back, rfl, -, -⟩ := around
  simp only [List.length_append]
  omega

theorem forall_head?_append {p : Char → Prop} {first second : List Char}
    (before : ∀ c ∈ first.head?, p c) (after : ∀ c ∈ second.head?, p c) :
    ∀ c ∈ (first ++ second).head?, p c := by
  cases first with
  | nil => exact after
  | cons d first => exact before

theorem forall_getLast?_append {p : Char → Prop} {first second : List Char}
    (before : ∀ c ∈ first.getLast?, p c) (after : ∀ c ∈ second.getLast?, p c) :
    ∀ c ∈ (first ++ second).getLast?, p c := by
  rw [← List.head?_reverse] at before after
  rw [← List.head?_reverse, List.reverse_append]
  exact forall_head?_append after before

/-- What holds of the characters around a text and of its first character holds of the first
character of the whole. -/
theorem Surrounds.head? {p : Char → Prop} {middle cs : List Char}
    (around : Surrounds test middle cs) (outer : ∀ c, test c = true → p c)
    (inner : ∀ c ∈ middle.head?, p c) : ∀ c ∈ cs.head?, p c := by
  obtain ⟨front, back, rfl, allFront, allBack⟩ := around
  apply forall_head?_append
  · exact fun c first => outer c (allFront c (List.mem_of_mem_head? first))
  apply forall_head?_append inner
  exact fun c first => outer c (allBack c (List.mem_of_mem_head? first))

theorem Surrounds.getLast? {p : Char → Prop} {middle cs : List Char}
    (around : Surrounds test middle cs) (outer : ∀ c, test c = true → p c)
    (inner : ∀ c ∈ middle.getLast?, p c) : ∀ c ∈ cs.getLast?, p c := by
  obtain ⟨front, back, rfl, allFront, allBack⟩ := around
  apply forall_getLast?_append
  · exact fun c last => outer c (allFront c (List.mem_of_mem_getLast? last))
  apply forall_getLast?_append inner
  exact fun c last => outer c (allBack c (List.mem_of_mem_getLast? last))

end LayoutBinding
