import Mathlib.Data.List.Basic

/-!
# Forests

A tree is told by the trees below it, and a forest is a list of trees.  Every tree of a forest
stands at a position, which is the number of a tree at the top, followed by the numbers of the
trees on the way down.  A walk that keeps the trees still to come on a stack visits the trees in
document order: their positions ascend, and every position is met once.
-/

namespace LayoutBinding

/-- Trees with smaller trees below them. -/
class Branching (α : Type) [SizeOf α] where
  below : α → List α
  sizeOf_below_lt : ∀ tree, sizeOf (below tree) < sizeOf tree

namespace Forest

open Branching

variable {α : Type} [SizeOf α] [Branching α]

/-- Induction on a forest: on the trees below its first tree, and on those after it. -/
@[elab_as_elim]
theorem induction_on_below {motive : List α → Prop} (nil : motive [])
    (cons : ∀ tree trees, motive (below tree) → motive trees → motive (tree :: trees)) :
    ∀ trees, motive trees
  | [] => nil
  | tree :: trees =>
      have _smaller := sizeOf_below_lt tree
      cons tree trees (induction_on_below nil cons (below tree)) (induction_on_below nil cons trees)
termination_by trees => sizeOf trees
decreasing_by all_goals simp only [List.cons.sizeOf_spec]; omega

/-- The trees of a forest, each before those below it, and these before the ones after it. -/
def inOrder : List α → List α
  | [] => []
  | tree :: trees =>
      have _smaller := sizeOf_below_lt tree
      tree :: (inOrder (below tree) ++ inOrder trees)
termination_by trees => sizeOf trees
decreasing_by all_goals simp only [List.cons.sizeOf_spec]; omega

@[simp]
theorem inOrder_nil : inOrder ([] : List α) = [] := by
  rw [inOrder]

@[simp]
theorem inOrder_cons (tree : α) (trees : List α) :
    inOrder (tree :: trees) = tree :: (inOrder (below tree) ++ inOrder trees) := by
  rw [inOrder]

theorem inOrder_append (first second : List α) :
    inOrder (first ++ second) = inOrder first ++ inOrder second := by
  induction first with
  | nil => simp
  | cons tree first ih => simp [ih]

/-! ### Walking with a stack -/

/-- Put trees on a stack, the last of them first. -/
def putOn (stack trees : List α) : List α :=
  trees.foldr List.cons stack

omit [SizeOf α] [Branching α] in
theorem putOn_eq (stack trees : List α) : putOn stack trees = trees ++ stack :=
  List.foldr_cons_eq_append'

/-- Take trees from a stack, whose first tree is the topmost one.  Each tree is visited, and the
trees below it are put on the stack. -/
def walk {m : Type → Type} [Monad m] {σ : Type} (visit : σ → α → m σ) (state : σ)
    (stack : List α) : m σ :=
  match stack with
  | [] => pure state
  | tree :: stack => do
      let state ← visit state tree
      walk visit state (putOn stack (below tree))
termination_by (inOrder stack).length
decreasing_by
  -- The trees below the visited one are still to come, but not the tree itself.
  simp [putOn_eq, inOrder_append]

theorem walk_eq_foldlM {m : Type → Type} [Monad m] [LawfulMonad m] {σ : Type}
    (visit : σ → α → m σ) (state : σ) (stack : List α) :
    walk visit state stack = (inOrder stack).foldlM visit state := by
  fun_induction walk visit state stack with
  | case1 state => simp
  | case2 state tree stack ih =>
      rw [inOrder_cons, List.foldlM_cons]
      simp only [putOn_eq, inOrder_append] at ih ⊢
      exact bind_congr ih

/-! ### Positions -/

def at? (trees : List α) : List Nat → Option α
  | [] => none
  | [number] => trees[number]?
  | number :: next :: position =>
      trees[number]?.bind fun tree => at? (below tree) (next :: position)

section Cons

variable {tree : α} {trees : List α}

theorem at?_nil (position : List Nat) : at? ([] : List α) position = none := by
  match position with
  | [] => rfl
  | [_] => rfl
  | _ :: _ :: _ => rfl

theorem at?_below {position : List Nat} (inside : position ≠ []) :
    at? (tree :: trees) (0 :: position) = at? (below tree) position := by
  cases position with
  | nil => exact absurd rfl inside
  | cons next position => rfl

theorem at?_after (number : Nat) (position : List Nat) :
    at? (tree :: trees) ((number + 1) :: position) = at? trees (number :: position) := by
  cases position with
  | nil => simp [at?]
  | cons next position => simp [at?]

theorem ne_nil_of_at? {position : List Nat} (stands : at? trees position = some tree) :
    position ≠ [] := by
  rintro rfl
  cases stands

end Cons

/-- The position of a tree behind one that is put in front of a forest. -/
def afterFirst : List Nat → List Nat
  | [] => []
  | number :: position => (number + 1) :: position

theorem afterFirst_lt {first second : List Nat} (before : first < second) :
    afterFirst first < afterFirst second := by
  match first, second with
  | _, [] => exact absurd before (List.not_lt_nil _)
  | [], _ :: _ => exact List.nil_lt_cons _ _
  | _ :: _, _ :: _ =>
      rw [afterFirst, afterFirst, List.cons_lt_cons_iff]
      exact (List.cons_lt_cons_iff.mp before).imp Nat.succ_lt_succ (And.imp_left (congrArg Nat.succ))

theorem zero_cons_lt_afterFirst (inside : List Nat) {position : List Nat}
    (given : position ≠ []) : 0 :: inside < afterFirst position := by
  obtain ⟨number, rest, rfl⟩ := List.exists_cons_of_ne_nil given
  exact List.cons_lt_cons_iff.mpr (.inl (Nat.succ_pos number))

/-- Where a tree stands: at the first position, below the tree there, or behind it. -/
theorem at?_cons_eq_some_iff {tree other : α} {trees : List α} {position : List Nat} :
    at? (tree :: trees) position = some other ↔
      (position = [0] ∧ other = tree) ∨
        (∃ inside, position = 0 :: inside ∧ at? (below tree) inside = some other) ∨
          ∃ later, position = afterFirst later ∧ at? trees later = some other := by
  constructor
  · intro stands
    match position with
    | [] => cases stands
    | [0] => exact .inl ⟨rfl, (Option.some.inj stands).symm⟩
    | 0 :: next :: inside => exact .inr (.inl ⟨next :: inside, rfl, stands⟩)
    | (number + 1) :: inside =>
        rw [at?_after] at stands
        exact .inr (.inr ⟨number :: inside, rfl, stands⟩)
  · rintro (⟨rfl, rfl⟩ | ⟨inside, rfl, stands⟩ | ⟨later, rfl, stands⟩)
    · rfl
    · rwa [at?_below (ne_nil_of_at? stands)]
    · obtain ⟨number, inside, rfl⟩ := List.exists_cons_of_ne_nil (ne_nil_of_at? stands)
      rwa [afterFirst, at?_after]

/-! ### Document order -/

/-- All trees of a forest with their positions, in ascending order. -/
structure IsDocumentOrder (trees : List α) (visits : List (List Nat × α)) : Prop where
  sorted : visits.Pairwise fun first second => first.1 < second.1
  mem_iff : ∀ position tree, (position, tree) ∈ visits ↔ at? trees position = some tree

theorem IsDocumentOrder.cons {tree : α} {trees : List α} {inside after : List (List Nat × α)}
    (ordersBelow : IsDocumentOrder (below tree) inside) (ordersAfter : IsDocumentOrder trees after) :
    IsDocumentOrder (tree :: trees)
      (([0], tree) ::
        (inside.map (Prod.map (0 :: ·) id) ++ after.map (Prod.map afterFirst id))) where
  sorted := by
    have insideBelow (visit : List Nat × α) (member : visit ∈ inside) : visit.1 ≠ [] :=
      ne_nil_of_at? ((ordersBelow.mem_iff _ _).mp member)
    have insideAfter (visit : List Nat × α) (member : visit ∈ after) : visit.1 ≠ [] :=
      ne_nil_of_at? ((ordersAfter.mem_iff _ _).mp member)
    refine List.pairwise_cons.mpr ⟨?_, List.pairwise_append.mpr ⟨?_, ?_, ?_⟩⟩
    · intro visit member
      rcases List.mem_append.mp member with member | member
      · obtain ⟨first, among, rfl⟩ := List.mem_map.mp member
        obtain ⟨number, rest, same⟩ := List.exists_cons_of_ne_nil (insideBelow first among)
        exact List.cons_lt_cons_iff.mpr (.inr ⟨rfl, same ▸ List.nil_lt_cons number rest⟩)
      · obtain ⟨later, among, rfl⟩ := List.mem_map.mp member
        exact zero_cons_lt_afterFirst [] (insideAfter later among)
    · refine List.pairwise_map.mpr (ordersBelow.sorted.imp fun before => ?_)
      exact List.cons_lt_cons_iff.mpr (.inr ⟨rfl, before⟩)
    · exact List.pairwise_map.mpr (ordersAfter.sorted.imp afterFirst_lt)
    · intro first memberFirst second memberSecond
      obtain ⟨inner, -, rfl⟩ := List.mem_map.mp memberFirst
      obtain ⟨later, among, rfl⟩ := List.mem_map.mp memberSecond
      exact zero_cons_lt_afterFirst inner.1 (insideAfter later among)
  mem_iff position other := by
    rw [at?_cons_eq_some_iff, List.mem_cons, List.mem_append, List.mem_map, List.mem_map]
    simp only [← ordersBelow.mem_iff, ← ordersAfter.mem_iff, Prod.exists, Prod.map_apply, id_eq,
      Prod.mk.injEq]
    grind

theorem exists_isDocumentOrder (trees : List α) :
    ∃ visits, IsDocumentOrder trees visits ∧ visits.map Prod.snd = inOrder trees := by
  induction trees using induction_on_below with
  | nil => exact ⟨[], ⟨List.Pairwise.nil, by simp [at?_nil]⟩, by simp⟩
  | cons tree trees inside after =>
      obtain ⟨inside, ordersBelow, sameBelow⟩ := inside
      obtain ⟨after, ordersAfter, sameAfter⟩ := after
      refine ⟨_, ordersBelow.cons ordersAfter, ?_⟩
      simp [← sameBelow, ← sameAfter, Function.comp_def]

/-- The visits before one are those of the trees at earlier positions. -/
theorem IsDocumentOrder.mem_front_iff {trees : List α} {front back : List (List Nat × α)}
    {position : List Nat} {tree : α}
    (order : IsDocumentOrder trees (front ++ (position, tree) :: back)) {earlier : List Nat}
    {other : α} :
    (earlier, other) ∈ front ↔ earlier < position ∧ at? trees earlier = some other := by
  obtain ⟨-, sortedBack, sortedFront⟩ := List.pairwise_append.mp order.sorted
  rw [← order.mem_iff]
  constructor
  · intro member
    exact ⟨sortedFront _ member _ List.mem_cons_self, List.mem_append_left _ member⟩
  · rintro ⟨before, member⟩
    rcases List.mem_append.mp member with inFront | inBack
    · exact inFront
    · rcases List.mem_cons.mp inBack with same | behind
      · cases same
        exact absurd before (List.lt_irrefl _)
      · have after := (List.pairwise_cons.mp sortedBack).1 _ behind
        exact absurd (List.lt_trans before after) (List.lt_irrefl _)

/-- Of the trees in document order some may count only.  They are found at their positions, one
after the other. -/
theorem IsDocumentOrder.exists_positions {β : Type} {trees : List α}
    {visits : List (List Nat × α)} (order : IsDocumentOrder trees visits) (counts? : α → Option β) :
    ∃ positions : List (List Nat), positions.Pairwise (· < ·) ∧
      (∀ position, position ∈ positions ↔
        ∃ value, (at? trees position).bind counts? = some value) ∧
      (visits.map Prod.snd).filterMap counts? =
        positions.filterMap fun position => (at? trees position).bind counts? := by
  have found (visit : List Nat × α) (member : visit ∈ visits) :
      (at? trees visit.1).bind counts? = counts? visit.2 := by
    rw [(order.mem_iff _ _).mp member, Option.bind_some]
  refine ⟨(visits.filter fun visit => (counts? visit.2).isSome).map Prod.fst,
    List.pairwise_map.mpr (order.sorted.filter _), fun position => ?_, ?_⟩
  · simp only [List.mem_map, List.mem_filter, Prod.exists, Option.bind_eq_some_iff,
      Option.isSome_iff_exists, order.mem_iff]
    constructor
    · rintro ⟨position, tree, ⟨stands, value, counted⟩, rfl⟩
      exact ⟨value, tree, stands, counted⟩
    · rintro ⟨value, tree, stands, counted⟩
      exact ⟨position, tree, ⟨stands, value, counted⟩, rfl⟩
  · rw [List.filterMap_map, List.filterMap_map, List.filterMap_filter]
    refine List.filterMap_congr fun visit member => ?_
    simp only [Function.comp_apply, found visit member]
    cases counts? visit.2 <;> rfl

end Forest

end LayoutBinding
