import LayoutBinding.Evaluation.Field
import LayoutBinding.Expression.Reader
import Mathlib.Data.Nat.Digits.Defs

/-!
# Parts of values

The parts of a value are the value itself and whatever can be reached from it by fields and
items.  Two of them can keep an evaluation from ending with a value or an error: numbers
with too many digits to be written, and moments that no zone but their own can show.
-/

namespace LayoutBinding

/-! ### Numbers that can be written -/

namespace Numeral

theorem isSome_limited?_iff {n : Int} :
    (limited? n).isSome = true ↔ n.natAbs < 10 ^ digitLimit := by
  have digits : (naturalChars n.natAbs).length ≤ digitLimit ↔ n.natAbs < 10 ^ digitLimit :=
    Nat.length_toDigits_le_iff (by decide) (by decide)
  unfold limited?
  rw [← digits]
  split <;> simp_all

theorem isSome_limited?_of_le {m n : Int} (written : (limited? n).isSome = true)
    (smaller : m.natAbs ≤ n.natAbs) : (limited? m).isSome = true :=
  isSome_limited?_iff.mpr (Nat.lt_of_le_of_lt smaller (isSome_limited?_iff.mp written))

theorem isSome_limited?_of_lt {n : Int} (small : n.natAbs < 10 ^ 4) :
    (limited? n).isSome = true :=
  isSome_limited?_iff.mpr
    (Nat.lt_of_lt_of_le small (Nat.pow_le_pow_right (by decide) (by decide)))

theorem lt_of_digitsValueFrom? {cs : List Char} {value result : Nat}
    (reads : digitsValueFrom? value cs = some result) :
    result < (value + 1) * 10 ^ cs.length := by
  induction cs generalizing value with
  | nil =>
      cases reads
      simp
  | cons c cs ih =>
      rw [digitsValueFrom?] at reads
      split at reads
      next digit decimal =>
        have digitBound := Character.decimalValue?_le decimal
        calc result < (10 * value + digit + 1) * 10 ^ cs.length := ih reads
          _ ≤ ((value + 1) * 10) * 10 ^ cs.length := Nat.mul_le_mul_right _ (by omega)
          _ = (value + 1) * 10 ^ (c :: cs).length := by
              rw [List.length_cons, Nat.pow_succ']
              ring
      next => cases reads

theorem isSome_limited?_of_read? {cs : List Char} {n : Int} (reads : read? cs = some n) :
    (limited? n).isSome = true := by
  rw [isSome_limited?_iff]
  unfold read? at reads
  dsimp only at reads
  split at reads
  next short =>
    obtain ⟨value, read, rfl⟩ := Option.map_eq_some_iff.mp reads
    obtain ⟨size, digits, same⟩ := Option.bind_eq_some_iff.mp read
    cases same
    have absolute (negative : Bool) :
        (if negative then -(size : Int) else (size : Int)).natAbs = size := by
      split
      · rw [Int.natAbs_neg, Int.natAbs_natCast]
      · exact Int.natAbs_natCast size
    rw [absolute]
    unfold digitsValue? at digits
    split at digits
    next => cases digits
    next c rest same =>
      have below := lt_of_digitsValueFrom? digits
      rw [Nat.zero_add, Nat.one_mul, ← same] at below
      exact Nat.lt_of_lt_of_le below (Nat.pow_le_pow_right (by decide) short)
  next => cases reads

end Numeral

/-! ### Parts -/

mutual

/-- The value itself and what can be reached from it by fields and items. -/
def Value.parts : Value → List Value
  | .list items => .list items :: Value.partsOfAll items
  | .tuple items => .tuple items :: Value.partsOfAll items
  | .mapping readOnly entries => .mapping readOnly entries :: Value.partsOfEntries entries
  | .record entries => .record entries :: Value.partsOfEntries entries
  | .hint name content => .hint name content :: content.parts
  | .anchor id => .anchor id :: id.parts
  | .page p => .page p :: p.parts
  | .loop frame => .loop frame :: frame.parts
  | other => [other]
termination_by structural value => value

def Value.partsOfAll : List Value → List Value
  | [] => []
  | value :: values => value.parts ++ Value.partsOfAll values
termination_by structural values => values

def Value.partsOfEntries : List (String × Value) → List Value
  | [] => []
  | (_, value) :: entries => value.parts ++ Value.partsOfEntries entries
termination_by structural entries => entries

/-- The parts of the fields of a page and of the pages below it. -/
def Page.parts : Page → List Value
  | ⟨_, title, date, author, tags, layout, params, _, _, _, children⟩ =>
      title.parts ++ date.parts ++ author.parts ++ (.tuple tags :: Value.partsOfAll tags) ++
        layout.parts ++ (.mapping true params :: Value.partsOfEntries params) ++
        (.tuple (children.map .page) :: Page.partsOfAll children)
termination_by structural page => page

def Page.partsOfAll : List Page → List Value
  | [] => []
  | p :: pages => .page p :: (p.parts ++ Page.partsOfAll pages)
termination_by structural pages => pages

/-- The parts of the item of a loop frame and of the frames around it. -/
def LoopFrame.parts : LoopFrame → List Value
  | ⟨item, _, _, parent⟩ => item.parts ++ LoopFrame.partsOfParent parent
termination_by structural frame => frame

def LoopFrame.partsOfParent : Option LoopFrame → List Value
  | none => []
  | some frame => .loop frame :: frame.parts
termination_by structural frame => frame

end

namespace Value

theorem partsOfAll_eq (values : List Value) : partsOfAll values = values.flatMap parts := by
  induction values with
  | nil => rfl
  | cons value values ih => rw [partsOfAll, ih, List.flatMap_cons]

theorem partsOfEntries_eq (entries : List (String × Value)) :
    partsOfEntries entries = entries.flatMap fun entry => entry.2.parts := by
  induction entries with
  | nil => rfl
  | cons entry entries ih => rw [partsOfEntries, ih, List.flatMap_cons]

theorem partsOfAll_map_page (pages : List Page) :
    partsOfAll (pages.map .page) = Page.partsOfAll pages := by
  induction pages with
  | nil => rfl
  | cons p pages ih =>
      rw [List.map_cons, partsOfAll, ih]
      rfl

def All (test : Value → Prop) (value : Value) : Prop :=
  ∀ part ∈ value.parts, test part

section

variable {test : Value → Prop}

theorem All.self {value : Value} (all : value.All test) : test value := by
  apply all
  cases value <;> simp [parts]

theorem all_list_iff {items : List Value} :
    (list items).All test ↔ test (.list items) ∧ ∀ item ∈ items, item.All test := by
  rw [All, parts, partsOfAll_eq, List.forall_mem_cons, List.forall_mem_flatMap]
  rfl

theorem all_tuple_iff {items : List Value} :
    (tuple items).All test ↔ test (.tuple items) ∧ ∀ item ∈ items, item.All test := by
  rw [All, parts, partsOfAll_eq, List.forall_mem_cons, List.forall_mem_flatMap]
  rfl

theorem all_mapping_iff {readOnly : Bool} {entries : List (String × Value)} :
    (mapping readOnly entries).All test ↔
      test (.mapping readOnly entries) ∧ ∀ entry ∈ entries, entry.2.All test := by
  rw [All, parts, partsOfEntries_eq, List.forall_mem_cons, List.forall_mem_flatMap]
  rfl

theorem all_record_iff {entries : List (String × Value)} :
    (record entries).All test ↔
      test (.record entries) ∧ ∀ entry ∈ entries, entry.2.All test := by
  rw [All, parts, partsOfEntries_eq, List.forall_mem_cons, List.forall_mem_flatMap]
  rfl

theorem all_hint_iff {name : String} {content : Value} :
    (hint name content).All test ↔ test (.hint name content) ∧ content.All test :=
  List.forall_mem_cons

theorem all_anchor_iff {id : Value} :
    (anchor id).All test ↔ test (.anchor id) ∧ id.All test :=
  List.forall_mem_cons

theorem all_loop_iff {frame : LoopFrame} :
    (loop frame).All test ↔ test (.loop frame) ∧ frame.item.All test ∧
      ∀ parent ∈ frame.parent, (loop parent).All test := by
  obtain ⟨item, index, count, parent⟩ := frame
  rw [All, parts, List.forall_mem_cons, LoopFrame.parts, List.forall_mem_append]
  cases parent <;> simp [LoopFrame.partsOfParent, All, parts]

theorem all_page_iff {p : Page} :
    (page p).All test ↔ test (.page p) ∧ p.title.All test ∧ p.date.All test ∧
      p.author.All test ∧ (tuple p.tags).All test ∧ p.layout.All test ∧
      (mapping true p.params).All test ∧ (tuple (p.children.map .page)).All test := by
  obtain ⟨path, title, date, author, tags, layout, params, anchors, source, body, children⟩ := p
  have below : (tuple (children.map .page)).parts =
      .tuple (children.map .page) :: Page.partsOfAll children := by
    rw [parts, partsOfAll_map_page]
  simp only [All, below]
  simp only [parts, Page.parts, List.forall_mem_cons, List.forall_mem_append, and_assoc]

end

end Value

end LayoutBinding
