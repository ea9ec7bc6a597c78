/-!
# Tables in order of insertion

A table is a list of pairs of a key and what it is bound to.  Binding a key
again keeps its place.
-/

namespace LayoutBinding

namespace Entries

variable {κ α : Type} [DecidableEq κ]

def get? : List (κ × α) → κ → Option α
  | [], _ => none
  | (key, value) :: rest, wanted => if key = wanted then some value else get? rest wanted

/-- Bind a key, in its old place or at the end. -/
def put : List (κ × α) → κ → α → List (κ × α)
  | [], key, value => [(key, value)]
  | (old, kept) :: rest, key, value =>
      if old = key then (key, value) :: rest else (old, kept) :: put rest key value

/-- Bind the keys of a second table, in their order. -/
def putAll (entries added : List (κ × α)) : List (κ × α) :=
  added.foldl (fun acc entry => put acc entry.1 entry.2) entries

def keys (entries : List (κ × α)) : List κ :=
  entries.map Prod.fst

def contains (entries : List (κ × α)) (key : κ) : Bool :=
  (get? entries key).isSome

@[simp]
theorem get?_put_self (entries : List (κ × α)) (key : κ) (value : α) :
    get? (put entries key value) key = some value := by
  induction entries with
  | nil => simp [put, get?]
  | cons entry rest ih =>
      by_cases same : entry.1 = key
      · simp [put, get?, same]
      · simp [put, get?, same, ih]

theorem get?_put_of_ne (entries : List (κ × α)) {key other : κ} (value : α)
    (different : key ≠ other) :
    get? (put entries key value) other = get? entries other := by
  induction entries with
  | nil => simp [put, get?, different]
  | cons entry rest ih =>
      by_cases same : entry.1 = key
      · simp [put, get?, same, different]
      · simp [put, get?, same, ih]

theorem keys_put (entries : List (κ × α)) (key : κ) (value : α) :
    keys (put entries key value) =
      if key ∈ keys entries then keys entries else keys entries ++ [key] := by
  induction entries with
  | nil => simp [put, keys]
  | cons entry rest ih =>
      by_cases same : entry.1 = key
      · simp [put, keys, same]
      · have other : ¬key = entry.1 := fun reversed => same reversed.symm
        simp only [keys] at ih
        by_cases member : key ∈ rest.map Prod.fst
        · simp [put, keys, same, member, ih]
        · simp [put, keys, same, other, member, ih]

theorem mem_of_get? {entries : List (κ × α)} {key : κ} {value : α}
    (found : get? entries key = some value) : (key, value) ∈ entries := by
  induction entries with
  | nil => cases found
  | cons entry rest ih =>
      by_cases same : entry.1 = key
      · rw [get?, if_pos same] at found
        cases found
        exact same ▸ List.mem_cons_self
      · rw [get?, if_neg same] at found
        exact List.mem_cons_of_mem entry (ih found)

theorem get?_of_mem {entries : List (κ × α)} (distinct : (keys entries).Nodup) {key : κ}
    {value : α} (member : (key, value) ∈ entries) : get? entries key = some value := by
  induction entries with
  | nil => cases member
  | cons entry rest ih =>
      obtain ⟨notLater, distinct⟩ := List.nodup_cons.mp distinct
      rcases List.mem_cons.mp member with rfl | later
      · exact if_pos rfl
      · have other : entry.1 ≠ key := by
          intro same
          exact notLater (List.mem_map.mpr ⟨(key, value), later, same.symm⟩)
        rw [get?, if_neg other]
        exact ih distinct later

theorem contains_iff {entries : List (κ × α)} {key : κ} :
    contains entries key = true ↔ key ∈ keys entries := by
  induction entries with
  | nil => simp [contains, get?, keys]
  | cons entry rest ih =>
      by_cases same : entry.1 = key
      · simp [contains, get?, keys, same]
      · have other : key ≠ entry.1 := Ne.symm same
        simp only [contains, keys] at ih
        simp [contains, get?, keys, same, other, ih]

theorem get?_map {β : Type} (f : α → β) (entries : List (κ × α)) (key : κ) :
    get? (entries.map fun entry => (entry.1, f entry.2)) key = (get? entries key).map f := by
  induction entries with
  | nil => rfl
  | cons entry rest ih =>
      by_cases same : entry.1 = key
      · simp [get?, same]
      · simp [get?, same, ih]

theorem put_of_notMem {entries : List (κ × α)} {key : κ} (absent : key ∉ keys entries)
    (value : α) : put entries key value = entries ++ [(key, value)] := by
  induction entries with
  | nil => rfl
  | cons entry rest ih =>
      obtain ⟨other, absent⟩ := not_or.mp (mt List.mem_cons.mpr absent)
      rw [put, if_neg (Ne.symm other), ih absent, List.cons_append]

theorem get?_putAll_of_contains_eq_false {added : List (κ × α)} {key : κ}
    (absent : contains added key = false) (entries : List (κ × α)) :
    get? (putAll entries added) key = get? entries key := by
  induction added generalizing entries with
  | nil => rfl
  | cons entry added ih =>
      by_cases same : entry.1 = key
      · simp [contains, get?, same] at absent
      · rw [contains, get?, if_neg same] at absent
        change get? (putAll (put entries entry.1 entry.2) added) key = get? entries key
        rw [ih absent, get?_put_of_ne entries entry.2 same]

end Entries

end LayoutBinding
