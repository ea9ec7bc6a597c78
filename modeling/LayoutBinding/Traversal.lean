import LayoutBinding.Fault

/-!
# Traversals of lists

A function that may fail is run on the values of a list in order.  The traversal fails like
the first value that fails, and else it gives the results in the same order.
-/

namespace LayoutBinding

section Functions

variable {m : Type → Type} [Monad m] [LawfulMonad m] {α β : Type} {f : α → m β} {values : List α}

theorem mapM_congr {g : α → m β} (same : ∀ value ∈ values, f value = g value) :
    values.mapM f = values.mapM g := by
  induction values with
  | nil => rw [List.mapM_nil, List.mapM_nil]
  | cons value values ih =>
      obtain ⟨first, others⟩ := List.forall_mem_cons.mp same
      rw [List.mapM_cons, List.mapM_cons, first, ih others]

theorem mapM_eq_pure_map {g : α → β} (succeeds : ∀ value ∈ values, f value = pure (g value)) :
    values.mapM f = pure (values.map g) := by
  rw [mapM_congr succeeds, List.mapM_pure]

end Functions

section Results

variable {ε α β : Type} {f : α → Except ε β} {values : List α} {results : List β}

theorem exists_of_mapM_eq_error {failure : ε} (fails : values.mapM f = .error failure) :
    ∃ value ∈ values, f value = .error failure := by
  induction values with
  | nil => cases fails
  | cons value values ih =>
      rw [List.mapM_cons] at fails
      obtain first | ⟨_, -, fails⟩ := bind_eq_error_iff.mp fails
      · exact ⟨value, List.mem_cons_self, first⟩
      obtain others | ⟨_, -, ⟨⟩⟩ := bind_eq_error_iff.mp fails
      obtain ⟨failing, among, fails⟩ := ih others
      exact ⟨failing, List.mem_cons_of_mem value among, fails⟩

theorem mapM_cons_eq_ok_iff {value : α} :
    (value :: values).mapM f = .ok results ↔ ∃ first others,
      f value = .ok first ∧ values.mapM f = .ok others ∧ results = first :: others := by
  rw [List.mapM_cons]
  constructor
  · intro given
    obtain ⟨first, one, given⟩ := bind_eq_ok_iff.mp given
    obtain ⟨others, more, made⟩ := bind_eq_ok_iff.mp given
    cases made
    exact ⟨first, others, one, more, rfl⟩
  · rintro ⟨first, others, one, more, rfl⟩
    rw [one, more]
    rfl

theorem exists_mapM_of_perm {others : List α} (permuted : others.Perm values)
    (given : values.mapM f = .ok results) :
    ∃ otherResults, others.mapM f = .ok otherResults ∧ otherResults.Perm results := by
  induction permuted generalizing results with
  | nil => exact ⟨results, given, .refl results⟩
  | cons value _ ih =>
      obtain ⟨first, rest, one, more, rfl⟩ := mapM_cons_eq_ok_iff.mp given
      obtain ⟨otherRest, otherMore, same⟩ := ih more
      exact ⟨first :: otherRest,
        mapM_cons_eq_ok_iff.mpr ⟨first, otherRest, one, otherMore, rfl⟩, same.cons first⟩
  | swap second first values =>
      obtain ⟨a, both, one, others, rfl⟩ := mapM_cons_eq_ok_iff.mp given
      obtain ⟨b, rest, two, more, rfl⟩ := mapM_cons_eq_ok_iff.mp others
      have behind := mapM_cons_eq_ok_iff.mpr ⟨a, rest, one, more, rfl⟩
      exact ⟨b :: a :: rest,
        mapM_cons_eq_ok_iff.mpr ⟨b, a :: rest, two, behind, rfl⟩, .swap a b rest⟩
  | trans _ _ firstIH secondIH =>
      obtain ⟨middle, middleGiven, sameMiddle⟩ := secondIH given
      obtain ⟨last, lastGiven, sameLast⟩ := firstIH middleGiven
      exact ⟨last, lastGiven, sameLast.trans sameMiddle⟩

theorem map_eq_of_mapM {γ : Type} {g : β → γ} {h : α → γ}
    (each : ∀ value result, f value = .ok result → g result = h value)
    (given : values.mapM f = .ok results) : results.map g = values.map h := by
  induction values generalizing results with
  | nil =>
      cases given
      rfl
  | cons value values ih =>
      obtain ⟨first, others, one, rest, rfl⟩ := mapM_cons_eq_ok_iff.mp given
      rw [List.map_cons, List.map_cons, each value first one, ih rest]

end Results

/-! ### Texts that are put together -/

section Parts

variable {ε α : Type} (part : α → Except ε String)

theorem join_mapM_cons (value : α) (values : List α) :
    String.join <$> (value :: values).mapM part = (do
      let first ← part value
      let others ← String.join <$> values.mapM part
      pure (first ++ others)) := by
  rw [List.mapM_cons]
  cases part value with
  | error failure => rfl
  | ok first =>
      cases values.mapM part with
      | error failure => rfl
      | ok others => exact congrArg Except.ok String.join_cons

theorem join_mapM_cons_of_empty {value : α} (empty : part value = .ok "") (values : List α) :
    String.join <$> (value :: values).mapM part = String.join <$> values.mapM part := by
  rw [join_mapM_cons, empty]
  cases values.mapM part with
  | error failure => rfl
  | ok others => exact congrArg Except.ok String.empty_append

/-- A part that is empty makes no difference to what the parts are together. -/
theorem join_mapM_eraseIdx (values : List α) (index : Nat)
    (empty : ∀ value ∈ values[index]?, part value = .ok "") :
    String.join <$> (values.eraseIdx index).mapM part = String.join <$> values.mapM part := by
  induction values generalizing index with
  | nil => rfl
  | cons value values ih =>
      cases index with
      | zero => rw [List.eraseIdx_cons_zero, join_mapM_cons_of_empty part (empty value rfl)]
      | succ index =>
          rw [List.eraseIdx_cons_succ, join_mapM_cons, join_mapM_cons, ih index empty]

theorem join_mapM_filter (keep : α → Bool) {values : List α}
    (empty : ∀ value ∈ values, keep value = false → part value = .ok "") :
    String.join <$> (values.filter keep).mapM part = String.join <$> values.mapM part := by
  induction values with
  | nil => rfl
  | cons value values ih =>
      rw [List.forall_mem_cons] at empty
      cases kept : keep value with
      | true => rw [List.filter_cons_of_pos kept, join_mapM_cons, join_mapM_cons, ih empty.2]
      | false =>
          rw [List.filter_cons_of_neg (by simp [kept]),
            join_mapM_cons_of_empty part (empty.1 kept), ih empty.2]

end Parts

end LayoutBinding
