import LayoutBinding.Value.Equality

/-!
# The order of values

Numbers stand in the order of their values, texts in that of their characters,
and tuples are ordered by their first items that differ.  Other values have no
order.
-/

namespace LayoutBinding

namespace Value

def number? : Value → Option Double
  | .truth b => some (.finite false (if b then 1 else 0) 0)
  | .whole n => some (.finite (n < 0) n.natAbs 0)
  | .double d => some d
  | _ => none

mutual

/-- Whether a value stands before another one, if the two have an order. -/
def before? : Value → Value → Option Bool
  | .text t, .text u => some (t.content < u.content)
  | .tuple items, .tuple others => itemsBefore? items others
  | first, second => do
      let m ← first.number?
      let n ← second.number?
      pure (m.isLess n)
termination_by structural value => value

def itemsBefore? : List Value → List Value → Option Bool
  | _, [] => some false
  | [], _ :: _ => some true
  | item :: items, other :: others =>
      if item.same other then itemsBefore? items others else before? item other
termination_by structural items => items

end

def areOrdered : List Value → Bool
  | [] => true
  | value :: values => values.all (fun other => (value.before? other).isSome) && areOrdered values

/-- The values in their order, if any two of them have one. -/
def sorted? (values : List Value) : Option (List Value) :=
  if areOrdered values then
    some (values.mergeSort fun first second => second.before? first ≠ some true)
  else
    none

theorem areOrdered_map_string (texts : List String) : areOrdered (texts.map string) = true := by
  induction texts with
  | nil => rfl
  | cons text texts ih =>
      rw [List.map_cons, areOrdered, ih, Bool.and_true, List.all_eq_true]
      intro other member
      obtain ⟨written, -, rfl⟩ := List.mem_map.mp member
      rfl

/-- Texts have the order of their characters as values, too. -/
theorem sorted?_map_string (texts : List String) :
    sorted? (texts.map string) =
      some ((texts.mergeSort fun first second => !(second < first)).map string) := by
  rw [sorted?, if_pos (areOrdered_map_string texts), List.map_mergeSort]
  intro first _ second _
  by_cases before : second < first <;> simp [string, before?, before, Text.plain]

end Value

end LayoutBinding
