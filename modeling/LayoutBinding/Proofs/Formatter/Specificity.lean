import LayoutBinding.Proofs.Formatter.Runs

/-!
# The most specific formatter

A value has the methods of its own type, of the types above it and, if it is a sequence other
than a text, those of sequences.  Of several formatters with one name the one of the most
specific type is found, except that a formatter for all values is found before one for
sequences.
-/

namespace LayoutBinding

namespace ValueType

/-- The names of the types whose values know their own fields. -/
def fieldOwners : List String :=
  ["PlainRecord", "BlockHint", "SectionAnchor", "BlockNamespace", "SectionNamespace",
    "LinkResolver", "Page", "LoopFrame"]

/-- The first type is more specific than the second: all its values are of the second type,
too. -/
inductive Extends : ValueType → ValueType → Prop where
  | truth : Extends .truth .whole
  | moment : Extends .moment .date
  | markup : Extends .markup .text
  /-- Texts, byte strings, lists and tuples are sequences. -/
  | sequence {type : ValueType} (concrete : type ∈ [.text, .markup, .bytes, .list, .tuple]) :
      Extends type .sequence
  | mapping {type : ValueType} (concrete : type ∈ [.dict, .named "mappingproxy"]) :
      Extends type .mapping
  /-- Values that know their own fields. -/
  | fields {name : String} (owner : name ∈ fieldOwners) :
      Extends (.named name) (.named "Resolvable")
  /-- Every value is of the type of all values. -/
  | any {type : ValueType} (other : type ≠ .any) : Extends type .any

theorem not_any_extends (type : ValueType) : ¬Extends .any type := by
  intro above
  cases above with
  | sequence concrete => simp at concrete
  | mapping concrete => simp at concrete
  | any other => exact other rfl

theorem Extends.asymm {first second : ValueType} (above : first.Extends second) :
    ¬second.Extends first := by
  cases above with
  | truth => nofun
  | moment => nofun
  | markup => nofun
  | sequence concrete =>
      intro below
      cases below <;> simp at concrete
  | mapping concrete =>
      intro below
      cases below <;> simp at concrete
  | fields owner =>
      intro below
      cases below with
      | fields other => exact absurd other (by decide)
  | any other => exact not_any_extends _

end ValueType

namespace Value

/-- The value has the methods of a type: its own type, one above it, or that of sequences, whose
methods texts do not have. -/
def HasMethodsOf (value : Value) (type : ValueType) : Prop :=
  type ∈ value.lineage ∨
    type = .sequence ∧ value.isOf .sequence = true ∧ value.isOf .text = false

theorem pairwise_pair {type : ValueType} (other : type ≠ .any) :
    [type, .any].Pairwise ValueType.Extends :=
  List.pairwise_pair.mpr (.any other)

theorem pairwise_triple {first second : ValueType} (above : first.Extends second)
    (other : second ≠ .any) : [first, second, .any].Pairwise ValueType.Extends := by
  have below : first ≠ .any := fun same => ValueType.not_any_extends second (same ▸ above)
  refine List.pairwise_cons.mpr ⟨fun type member => ?_, pairwise_pair other⟩
  rcases List.mem_cons.mp member with rfl | last
  · exact above
  · obtain rfl := List.mem_singleton.mp last
    exact .any below

/-- The lineage of a value leads from the more specific types to the others. -/
theorem pairwise_lineage (value : Value) : value.lineage.Pairwise ValueType.Extends := by
  cases value with
  | truth b => exact pairwise_triple .truth (by simp)
  | moment m => exact pairwise_triple .moment (by simp)
  | text t =>
      rw [lineage]
      split
      · exact pairwise_triple .markup (by simp)
      · exact pairwise_pair (by simp)
  | mapping readOnly entries =>
      rw [lineage]
      split <;> exact pairwise_pair (by simp)
  | record _ | hint _ _ | anchor _ | blocks _ | sections | links _ _ | page _ | loop _ =>
      exact pairwise_triple (.fields (by simp [ValueType.fieldOwners, typeName])) (by simp)
  | _ => exact pairwise_pair (by simp)

theorem any_mem_lineage (value : Value) : ValueType.any ∈ value.lineage := by
  cases value with
  | text t => rw [lineage]; split <;> simp
  | mapping readOnly entries => rw [lineage]; split <;> simp
  | _ => simp [lineage]

/-- A sequence that is no text is of a concrete type below that of sequences. -/
theorem extends_sequence {value : Value} (sequence : value.isOf .sequence = true)
    (noText : value.isOf .text = false) {type : ValueType} (member : type ∈ value.lineage)
    (other : type ≠ .any) : type.Extends .sequence := by
  have own {concrete : ValueType} (lineage : value.lineage = [concrete, .any])
      (below : concrete ∈ [.text, .markup, .bytes, .list, .tuple]) : type.Extends .sequence := by
    rw [lineage, List.mem_cons, List.mem_singleton, or_iff_left other] at member
    exact member ▸ .sequence below
  cases value with
  | bytes bs => exact own rfl (by simp)
  | list items => exact own rfl (by simp)
  | tuple items => exact own rfl (by simp)
  | text t =>
      have text : (Value.text t).isOf .text = true := by
        cases trusted : t.trusted <;> simp [isOf, lineage, trusted]
      rw [text] at noText
      cases noText
  | mapping readOnly entries => cases readOnly <;> cases sequence
  | _ => simp [isOf, lineage] at sequence

/-- The types for which a formatter is looked up, in order. -/
def searched (value : Value) : List ValueType :=
  value.lineage ++ if value.isOf .sequence && !value.isOf .text then [.sequence] else []

theorem mem_searched {value : Value} {type : ValueType} :
    type ∈ value.searched ↔ value.HasMethodsOf type := by
  rw [searched, HasMethodsOf, List.mem_append, ← Bool.not_eq_true' (value.isOf .text),
    ← Bool.and_eq_true]
  split <;> simp [*]

/-- More specific types are looked up before the others, except that sequences come last. -/
theorem pairwise_searched (value : Value) :
    value.searched.Pairwise fun first second =>
      first.Extends second ∨ first = .any ∧ second = .sequence := by
  refine List.pairwise_append.mpr ⟨value.pairwise_lineage.imp .inl, ?_, ?_⟩
  · split <;> simp
  · intro type member other last
    split at last
    next sequence =>
      obtain rfl := List.mem_singleton.mp last
      rw [Bool.and_eq_true, Bool.not_eq_true'] at sequence
      by_cases everything : type = .any
      · exact .inr ⟨everything, rfl⟩
      · exact .inl (extends_sequence sequence.1 sequence.2 member everything)
    next => cases last

end Value

namespace Registry

/-- The formatter is registered for the most specific type with a formatter of that name among
those whose methods the value has. -/
def IsMostSpecific (registered : List Formatter) (value : Value) (name : String)
    (formatter : Formatter) : Prop :=
  ∃ type, value.HasMethodsOf type ∧ latest? registered (type, name) = some formatter ∧
    ∀ other, value.HasMethodsOf other → (latest? registered (other, name)).isSome →
      other = type ∨ type.Extends other

/-- The value is a sequence other than a text, and there are formatters of the name both for
sequences and for all values, but none for a type below these. -/
def IsOvertaken (registered : List Formatter) (value : Value) (name : String) : Prop :=
  value.isOf .sequence = true ∧ value.isOf .text = false ∧
    (latest? registered (.sequence, name)).isSome ∧ (latest? registered (.any, name)).isSome ∧
    ∀ type ∈ value.lineage, type ≠ .any → latest? registered (type, name) = none

variable {registered : List Formatter} {value : Value} {name : String} {formatter : Formatter}

theorem key_of_latest? {key : ValueType × String}
    (found : latest? registered key = some formatter) : formatter.key = key := by
  rw [← get?_tableOf] at found
  exact key_of_mem_tableOf (Entries.mem_of_get? found)

theorem IsMostSpecific.unique {other : Formatter}
    (first : IsMostSpecific registered value name formatter)
    (second : IsMostSpecific registered value name other) : formatter = other := by
  obtain ⟨type, methods, found, above⟩ := first
  obtain ⟨otherType, otherMethods, otherFound, otherAbove⟩ := second
  have same : type = otherType := by
    rcases above otherType otherMethods (by simp [otherFound]) with same | below
    · exact same.symm
    · rcases otherAbove type methods (by simp [found]) with same | reversed
      · exact same
      · exact absurd reversed below.asymm
  rw [same, otherFound] at found
  exact (Option.some.inj found).symm

/-- The types are tried one after the other. -/
theorem find?_after (calls : List Call) (value : Value) (name : String) :
    (fresh.after calls).find? value name =
      value.searched.findSome? fun type => latest? (registrations calls) (type, name) := by
  rw [find?, table_after, FormatterTable.find?, get?_tableOf, Value.searched,
    List.findSome?_append]
  cases value.lineage.findSome? fun type => latest? (registrations calls) (type, name) with
  | some formatter => rfl
  | none =>
      simp only [Option.none_or]
      split
      next => exact (List.findSome?_singleton ..).symm
      next => rfl

/-- The first formatter that is found is the most specific one, unless it is for all values and
stands before one for sequences. -/
theorem isMostSpecific_of_findSome? (inTime : ¬IsOvertaken registered value name)
    (found : (value.searched.findSome? fun type => latest? registered (type, name)) =
      some formatter) :
    IsMostSpecific registered value name formatter := by
  obtain ⟨before, type, after, cut, atType, absent⟩ := List.findSome?_eq_some_iff.mp found
  obtain ⟨-, ordered, -⟩ := List.pairwise_append.mp (cut ▸ value.pairwise_searched)
  obtain ⟨above, -⟩ := List.pairwise_cons.mp ordered
  refine ⟨type, Value.mem_searched.mp (by simp [cut]), atType, fun other methods known => ?_⟩
  have tried := cut ▸ Value.mem_searched.mpr methods
  rcases List.mem_append.mp tried with early | late
  · rw [absent other early] at known
    cases known
  rcases List.mem_cons.mp late with same | later
  · exact .inl same
  rcases above other later with extended | ⟨rfl, rfl⟩
  · exact .inr extended
  -- The formatter for all values was tried before the one for sequences.
  obtain ⟨-, sequence, noText⟩ := methods.resolve_left value.sequence_notMem_lineage
  refine absurd ⟨sequence, noText, known, by simp [atType], fun below member other => ?_⟩ inTime
  have tried : below ∈ before ++ .any :: after := cut ▸ List.mem_append_left _ member
  rcases List.mem_append.mp tried with early | late
  · exact absent below early
  rcases above below ((List.mem_cons.mp late).resolve_left other) with extended | ⟨-, rfl⟩
  · exact absurd extended (ValueType.not_any_extends below)
  · exact absurd member value.sequence_notMem_lineage

theorem findSome?_of_isMostSpecific (inTime : ¬IsOvertaken registered value name)
    (specific : IsMostSpecific registered value name formatter) :
    (value.searched.findSome? fun type => latest? registered (type, name)) =
      some formatter := by
  obtain ⟨type, methods, atType, -⟩ := id specific
  have success : (value.searched.findSome? fun type =>
      latest? registered (type, name)).isSome :=
    List.findSome?_isSome_iff.mpr ⟨type, Value.mem_searched.mpr methods, by simp [atType]⟩
  obtain ⟨first, found⟩ := Option.isSome_iff_exists.mp success
  rw [found, (isMostSpecific_of_findSome? inTime found).unique specific]

/-- A sequence gets the formatter for all values although there is one for sequences. -/
theorem findSome?_of_isOvertaken (overtaken : IsOvertaken registered value name) :
    (value.searched.findSome? fun type => latest? registered (type, name)) =
      latest? registered (.any, name) := by
  obtain ⟨-, -, -, known, nothing⟩ := overtaken
  obtain ⟨formatter, everything⟩ := Option.isSome_iff_exists.mp known
  have success : (value.lineage.findSome? fun type =>
      latest? registered (type, name)).isSome :=
    List.findSome?_isSome_iff.mpr ⟨.any, value.any_mem_lineage, known⟩
  obtain ⟨first, found⟩ := Option.isSome_iff_exists.mp success
  obtain ⟨type, member, atType⟩ := List.exists_of_findSome?_eq_some found
  obtain rfl : type = .any := by
    by_contra other
    rw [nothing type member other] at atType
    cases atType
  rw [Value.searched, List.findSome?_append, found, atType, Option.some_or]

/-- The formatter for all values is not the most specific one where there is one for
sequences. -/
theorem not_isMostSpecific_of_isOvertaken (overtaken : IsOvertaken registered value name)
    (everything : latest? registered (.any, name) = some formatter) :
    ¬IsMostSpecific registered value name formatter := by
  rintro ⟨type, methods, atType, above⟩
  obtain ⟨sequence, noText, known, -, -⟩ := overtaken
  obtain rfl : type = .any :=
    congrArg Prod.fst ((key_of_latest? atType).symm.trans (key_of_latest? everything))
  rcases above .sequence (.inr ⟨rfl, sequence, noText⟩) known with same | extended
  · cases same
  · exact ValueType.not_any_extends .sequence extended

/-- After any calls the formatter of a value is the one that is registered for the most specific
type with a formatter of that name among those whose methods the value has, unless the value is
a sequence, not a text, with formatters of the name for sequences and for all values but none
for its own type; such a value gets the formatter for all values.  There is no formatter
exactly if none of the types has one. -/
theorem find?_mostSpecific_iff (calls : List Call) (value : Value) (name : String) :
    let registered := registrations calls
    let registry := fresh.after calls
    ((∀ formatter, registry.find? value name = some formatter ↔
        IsMostSpecific registered value name formatter) ↔
      ¬IsOvertaken registered value name) ∧
    (IsOvertaken registered value name →
      registry.find? value name = latest? registered (.any, name)) ∧
    (registry.find? value name = none ↔
      ∀ type, value.HasMethodsOf type → latest? registered (type, name) = none) := by
  intro registered registry
  refine ⟨⟨fun specific overtaken => ?_, fun inTime formatter => ?_⟩, fun overtaken => ?_, ?_⟩
  · obtain ⟨-, -, -, known, -⟩ := id overtaken
    obtain ⟨formatter, everything⟩ := Option.isSome_iff_exists.mp known
    have found : registry.find? value name = some formatter := by
      rw [find?_after, findSome?_of_isOvertaken overtaken, everything]
    exact not_isMostSpecific_of_isOvertaken overtaken everything ((specific formatter).mp found)
  · rw [find?_after]
    exact ⟨isMostSpecific_of_findSome? inTime, findSome?_of_isMostSpecific inTime⟩
  · rw [find?_after, findSome?_of_isOvertaken overtaken]
  · rw [find?_after, List.findSome?_eq_none_iff]
    exact forall_congr' fun type => imp_congr_left Value.mem_searched

/-- A formatter for all values that takes the name of a built-in one for sequences. -/
def labelOfAll : Formatter :=
  ⟨.any, "len", .custom "label" fun _ value _ => .ok (.string value.label), [], ""⟩

/-- Once a formatter for all values has the name, a list is no longer counted by the more
specific one for sequences. -/
theorem not_mostSpecific_after_labelOfAll :
    let registry := fresh.after [.register labelOfAll]
    registry.find? (.list [.whole 1, .whole 2]) "len" = some labelOfAll ∧
      ¬IsMostSpecific [labelOfAll] (.list [.whole 1, .whole 2]) "len" labelOfAll := by
  refine ⟨rfl, ?_⟩
  rintro ⟨type, -, found, above⟩
  obtain rfl : type = .any := congrArg Prod.fst (key_of_latest? found).symm
  rcases above .sequence (.inr ⟨rfl, rfl, rfl⟩) rfl with same | extended
  · cases same
  · exact ValueType.not_any_extends .sequence extended

end Registry
end LayoutBinding
