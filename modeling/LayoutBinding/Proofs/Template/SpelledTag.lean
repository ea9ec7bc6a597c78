import Mathlib.Data.List.Chain
import LayoutBinding.Proofs.Expression.Words
import LayoutBinding.Proofs.Template.TagReading
import LayoutBinding.Proofs.Template.Transcript
import LayoutBinding.Proofs.Text.Escaping

/-!
# Tags that are made of their parts

A start tag is written as its name and its attributes, each value escaped and in quotes.
Read back, whatever follows it, it has the same name and the same attributes, unless an
attribute without a value stands in front of a name that starts with an equals sign.
-/

namespace LayoutBinding

open Grammar (EndsRun)
open Expression (takeWhile_append_of_endsRun dropWhile_append_of_endsRun)

namespace StartTag

/-! ### One attribute -/

/-- Whether the characters are the name of an attribute. -/
def isAttributeName : List Char → Bool
  | [] => false
  | c :: cs => startsAttribute c && cs.all continuesAttribute

/-- A name of an attribute and its value, if it has one. -/
structure Spelling where
  name : List Char
  value : Option (List Char)

namespace Spelling

/-- The attribute in a start tag. -/
def chars (a : Spelling) : List Char :=
  ' ' :: (a.name ++ match a.value with
    | none => []
    | some value => '=' :: '"' :: (Escape.encode value ++ ['"']))

def toAttribute (a : Spelling) : Attribute :=
  ⟨lowered a.name, a.value.map String.ofList⟩

/-- A name that follows a name without a value is not taken for its value. -/
def Apart (a b : Spelling) : Prop :=
  a.value = none → b.name.head? ≠ some '='

end Spelling

variable {name rest : List Char}

theorem attribute?_of_isAttributeName (isName : isAttributeName name = true)
    (ends : EndsRun continuesAttribute rest) :
    attribute? (name ++ rest) =
      match value? rest with
      | some value => some ⟨name, some value.text, value.rest⟩
      | none => some ⟨name, none, rest⟩ := by
  cases name with
  | nil => cases isName
  | cons c cs =>
      obtain ⟨starts, continues⟩ := Bool.and_eq_true_iff.mp isName
      have inside := List.all_eq_true.mp continues
      rewrite [List.cons_append, attribute?, if_pos starts, takeWhile_append_of_endsRun inside ends,
        dropWhile_append_of_endsRun inside ends]
      rfl

theorem value?_quoted (value rest : List Char) :
    value? ('=' :: '"' :: (Escape.encode value ++ '"' :: rest)) =
      some ⟨Escape.encode value, rest⟩ := by
  have inside : ∀ c ∈ Escape.encode value, (!decide (c = '"')) = true := by
    intro c member
    have other : c ≠ '"' := fun same => Escape.isEscaping_encode.quote_notMem value (same ▸ member)
    simpa using other
  have stops : EndsRun (fun c => !decide (c = '"')) ('"' :: rest) := by
    intro c first
    obtain rfl := Option.some.inj first
    rfl
  have before := takeWhile_append_of_endsRun inside stops
  have behind := dropWhile_append_of_endsRun inside stops
  have noBlank : Character.isBlank '=' = false := by decide
  have noBlankQuote : Character.isBlank '"' = false := by decide
  simp [value?, noBlank, noBlankQuote, isQuote, before, behind]

theorem value?_eq_none (other : (rest.dropWhile Character.isBlank).head? ≠ some '=') :
    value? rest = none := by
  have nothing : (rest.dropWhile Character.isBlank).takeWhile (· = '=') = [] := by
    cases same : rest.dropWhile Character.isBlank with
    | nil => rfl
    | cons c cs =>
        rw [same] at other
        have different : c ≠ '=' := fun equal => other (by rw [equal]; rfl)
        simp [different]
  rw [value?, if_pos nothing]

/-! ### The end of a tag -/

/-- What closes a start tag that is made of its parts. -/
def ending (selfClosing : Bool) : List Char :=
  if selfClosing then ' ' :: stop true else stop false

/-- Attributes, the end of the tag and what follows it. -/
def spell (attributes : List Spelling) (selfClosing : Bool) (tail : List Char) : List Char :=
  attributes.flatMap Spelling.chars ++ (ending selfClosing ++ tail)

variable {attributes : List Spelling} {selfClosing : Bool} {tail : List Char}

theorem spell_cons (a : Spelling) :
    spell (a :: attributes) selfClosing tail = a.chars ++ spell attributes selfClosing tail := by
  rw [spell, List.flatMap_cons, List.append_assoc, spell]

theorem skipSeparators_space {c : Char} {cs : List Char} :
    skipSeparators (' ' :: c :: cs) = skipSeparators (c :: cs) := by
  have blank : Character.isBlank ' ' = true := by decide
  rw [skipSeparators, if_pos (by rw [blank, Bool.true_or])]

theorem skipSeparators_ending :
    skipSeparators (ending selfClosing ++ tail) = stop selfClosing ++ tail := by
  cases selfClosing with
  | false => cases tail <;> rfl
  | true => rfl

theorem spell_head (c : Char) (first : (spell attributes selfClosing tail).head? = some c) :
    c = ' ' ∨ c = '>' := by
  cases attributes with
  | nil =>
      cases selfClosing with
      | false => exact .inr (Option.some.inj first).symm
      | true => exact .inl (Option.some.inj first).symm
  | cons a attributes => exact .inl (Option.some.inj first).symm

theorem spell_endsName : EndsRun continuesAttribute (spell attributes selfClosing tail) := by
  intro c first
  rcases spell_head c first with rfl | rfl <;> decide

theorem exists_cons_of_isAttributeName (isName : isAttributeName name = true) :
    ∃ c cs, name = c :: cs ∧ startsAttribute c = true := by
  cases name with
  | nil => cases isName
  | cons c cs => exact ⟨c, cs, rfl, (Bool.and_eq_true_iff.mp isName).1⟩

theorem skipSeparators_spell_cons {a : Spelling} (isName : isAttributeName a.name = true) :
    skipSeparators (spell (a :: attributes) selfClosing tail) =
      a.chars.tail ++ spell attributes selfClosing tail := by
  obtain ⟨c, cs, same, starts⟩ := exists_cons_of_isAttributeName isName
  rw [spell_cons, Spelling.chars, same]
  simp only [List.cons_append, List.tail_cons]
  rw [skipSeparators_space, skipSeparators_of_starts starts]

/-- Blanks before the next attribute or the end of the tag do not hide an equals sign. -/
theorem value?_spell {a : Spelling} (names : ∀ b ∈ attributes, isAttributeName b.name = true)
    (apart : ∀ b ∈ attributes.head?, a.Apart b) (noValue : a.value = none) :
    value? (spell attributes selfClosing tail) = none := by
  apply value?_eq_none
  cases attributes with
  | nil =>
      intro same
      cases selfClosing <;> cases same
  | cons b attributes =>
      obtain ⟨c, cs, same, starts⟩ :=
        exists_cons_of_isAttributeName (names b List.mem_cons_self)
      have noBlank := isBlank_of_startsAttribute starts
      have blank : Character.isBlank ' ' = true := by decide
      have other := apart b rfl noValue
      rw [same] at other
      rw [spell_cons, Spelling.chars, same, List.cons_append, List.dropWhile_cons_of_pos blank,
        List.cons_append, List.cons_append, List.dropWhile_cons_of_neg (by simp [noBlank])]
      exact other

theorem attribute?_chars {a : Spelling} (isName : isAttributeName a.name = true)
    (names : ∀ b ∈ attributes, isAttributeName b.name = true)
    (apart : ∀ b ∈ attributes.head?, a.Apart b) :
    attribute? (a.chars.tail ++ spell attributes selfClosing tail) =
      some ⟨a.name, a.value.map Escape.encode, spell attributes selfClosing tail⟩ := by
  rw [Spelling.chars, List.tail_cons, List.append_assoc]
  cases given : a.value with
  | none =>
      rw [List.nil_append, attribute?_of_isAttributeName isName spell_endsName,
        value?_spell names apart given]
      rfl
  | some value =>
      have ends : EndsRun continuesAttribute
          (('=' :: '"' :: (Escape.encode value ++ ['"'])) ++
            spell attributes selfClosing tail) := by
        intro c first
        obtain rfl := Option.some.inj first
        decide
      rw [attribute?_of_isAttributeName isName ends]
      simp only [List.cons_append, List.append_assoc, value?_quoted]
      rfl

/-! ### All attributes -/

/-- The name of an attribute, and its value with its quotes left aside. -/
def Spelling.parts (a : Spelling) : List Char × Option (List Char) :=
  (a.name, a.value.map Escape.encode)

theorem attributesUpTo_spell (names : ∀ a ∈ attributes, isAttributeName a.name = true)
    (apart : attributes.IsChain Spelling.Apart) {fuel : Nat} (enough : attributes.length ≤ fuel)
    {before : Char} (separated : attributes ≠ [] → separates before = true) :
    ∃ written, attributesUpTo fuel before
        (skipSeparators (spell attributes selfClosing tail)) =
          (written, stop selfClosing ++ tail) ∧
      written.map Written.parts = attributes.map Spelling.parts := by
  induction attributes generalizing fuel before with
  | nil =>
      refine ⟨[], ?_, rfl⟩
      rw [spell, List.flatMap_nil, List.nil_append, skipSeparators_ending]
      cases fuel with
      | zero => rfl
      | succ fuel =>
          rw [attributesUpTo, attribute?_stop selfClosing tail]
          split <;> rfl
  | cons a attributes ih =>
      obtain ⟨isName, names⟩ := List.forall_mem_cons.mp names
      obtain ⟨beside, apart⟩ := List.isChain_cons.mp apart
      obtain ⟨fuel, rfl⟩ : ∃ more, fuel = more + 1 :=
        Nat.exists_eq_succ_of_ne_zero (by rintro rfl; exact absurd enough (by simp))
      have read := @attribute?_chars attributes selfClosing tail a isName names beside
      rw [skipSeparators_spell_cons isName, attributesUpTo,
        if_pos (separated (List.cons_ne_nil _ _)), read]
      dsimp only
      have next : attributes ≠ [] → separates (lastBefore before
          (a.chars.tail ++ spell attributes selfClosing tail)
            (skipSeparators (spell attributes selfClosing tail))) = true := by
        intro more
        obtain ⟨b, others, rfl⟩ := List.exists_cons_of_ne_nil more
        -- The blank in front of the next name is skipped.
        have whole : a.chars.tail ++ spell (b :: others) selfClosing tail =
            (a.chars.tail ++ [' ']) ++ (b.chars.tail ++ spell others selfClosing tail) := by
          simp [spell_cons, Spelling.chars]
        rw [skipSeparators_spell_cons (names b List.mem_cons_self), whole, lastBefore_append]
        simp [separates]
        decide
      obtain ⟨written, rest, same⟩ :=
        ih names apart (Nat.le_of_succ_le_succ enough) next
      rw [rest]
      exact ⟨_, rfl, congrArg (a.parts :: ·) same⟩

theorem length_le_spell : attributes.length ≤ (spell attributes selfClosing tail).length := by
  induction attributes with
  | nil => exact Nat.zero_le _
  | cons a attributes ih =>
      rw [spell_cons, Spelling.chars, List.length_append, List.length_cons, List.length_cons]
      omega

theorem readAttributes_spell (names : ∀ a ∈ attributes, isAttributeName a.name = true)
    (apart : attributes.IsChain Spelling.Apart) (before : Char) :
    ∃ written, readAttributes before (spell attributes selfClosing tail) =
        (written, stop selfClosing ++ tail) ∧
      written.map Written.parts = attributes.map Spelling.parts := by
  refine attributesUpTo_spell names apart length_le_spell fun more => ?_
  obtain ⟨a, others, rfl⟩ := List.exists_cons_of_ne_nil more
  have whole : spell (a :: others) selfClosing tail =
      [' '] ++ (a.chars.tail ++ spell others selfClosing tail) := by
    simp [spell_cons, Spelling.chars]
  rw [skipSeparators_spell_cons (names a List.mem_cons_self), whole, lastBefore_append]
  change separates ' ' = true
  decide

/-- The names that are looked for in a tag are its names, unless one starts with an equals
sign. -/
theorem writtenNamesUpTo_spell (names : ∀ a ∈ attributes, isAttributeName a.name = true)
    (apart : attributes.IsChain Spelling.Apart)
    (noEquals : ∀ a ∈ attributes, a.name.head? ≠ some '=') {fuel : Nat}
    (enough : attributes.length ≤ fuel) :
    writtenNamesUpTo fuel (spell attributes selfClosing []) = attributes.map Spelling.name := by
  induction attributes generalizing fuel with
  | nil =>
      cases fuel with
      | zero => rfl
      | succ fuel => cases selfClosing <;> rfl
  | cons a attributes ih =>
      obtain ⟨isName, names⟩ := List.forall_mem_cons.mp names
      obtain ⟨other, noEquals⟩ := List.forall_mem_cons.mp noEquals
      obtain ⟨beside, apart⟩ := List.isChain_cons.mp apart
      obtain ⟨fuel, rfl⟩ : ∃ more, fuel = more + 1 :=
        Nat.exists_eq_succ_of_ne_zero (by rintro rfl; exact absurd enough (by simp))
      have found : (spell (a :: attributes) selfClosing []).dropWhile
          (fun c => !(startsAttribute c && c ≠ '=')) =
            a.chars.tail ++ spell attributes selfClosing [] := by
        obtain ⟨c, cs, same, starts⟩ := exists_cons_of_isAttributeName isName
        have noEqual : c ≠ '=' := fun equal => other (by rw [same, equal]; rfl)
        have blank : startsAttribute ' ' = false := by decide
        simp [spell_cons, Spelling.chars, same, starts, noEqual, blank]
      rw [writtenNamesUpTo, found, attribute?_chars isName names beside]
      dsimp only
      rw [ih names apart noEquals (Nat.le_of_succ_le_succ enough), List.map_cons]

theorem head?_ne_of_mem_writtenNamesUpTo {fuel : Nat} {cs : List Char}
    (member : name ∈ writtenNamesUpTo fuel cs) : name.head? ≠ some '=' := by
  induction fuel generalizing cs with
  | zero => cases member
  | succ fuel ih =>
      rw [writtenNamesUpTo] at member
      split at member
      next found read =>
        rcases List.mem_cons.mp member with rfl | member
        · obtain ⟨c, rest, stands, -, -⟩ := attribute?_eq_some_iff.mp read
          have starts := List.head?_dropWhile_not
            (fun c => !(startsAttribute c && c ≠ '=')) cs
          rw [stands, List.head?_cons] at starts
          have other : c ≠ '=' := by
            rintro rfl
            simp at starts
          rw [stands] at read
          rw [head?_name_of_attribute? read]
          exact fun same => other (Option.some.inj same)
        · exact ih member
      next => cases member

/-! ### The name of a tag -/

/-- The name of a tag is spelled as it was written, unless its lower-case form is
longer. -/
theorem nameAsWritten_eq (c : Char) (writtenName : List Char) {more : List Char}
    (given : more ≠ []) :
    nameAsWritten (lowered writtenName) (c :: (writtenName ++ more)) =
      if (lowered writtenName).length = writtenName.length then String.ofList writtenName
      else lowered writtenName := by
  have length (cs : List Char) : (lowered cs).length = (cs.flatMap Character.lower).length := by
    rw [lowered, String.length_ofList, Character.lowerAll, Character.length_lowerAfter]
  have atLeast := Character.length_le_flatMap_lower writtenName
  simp only [nameAsWritten, List.drop_succ_cons, List.drop_zero]
  by_cases equal : (lowered writtenName).length = writtenName.length
  · rw [if_pos equal, equal, List.take_left, if_pos rfl]
  · rw [if_neg equal, if_neg]
    intro same
    -- The characters that are taken behind the name have a lower-case form of their own.
    have sum := congrArg String.length same
    have behind := Character.length_le_flatMap_lower
      (more.take ((lowered writtenName).length - writtenName.length))
    have positive := List.length_pos_iff.mpr given
    rw [length] at equal behind
    rw [length, length, List.take_append, List.take_of_length_le atLeast, List.flatMap_append,
      List.length_append] at sum
    rw [List.length_take] at behind
    omega

/-! ### The tag -/

theorem mapM_toAttribute?_of_parts {written : List Written}
    (parts : written.map Written.parts = attributes.map Spelling.parts) :
    written.mapM Written.toAttribute? = some (attributes.map Spelling.toAttribute) := by
  induction attributes generalizing written with
  | nil =>
      obtain rfl := List.map_eq_nil_iff.mp parts
      rfl
  | cons a attributes ih =>
      obtain ⟨first, others, rfl, same, parts⟩ := List.map_eq_cons_iff.mp parts
      obtain ⟨sameName, sameValue⟩ := Prod.mk.inj same
      have read : first.toAttribute? = some a.toAttribute := by
        rw [Written.toAttribute?, sameValue, Spelling.toAttribute]
        cases a.value with
        | none => rw [← sameName]; rfl
        | some value =>
            simp only [Option.map_some, Escape.isEscaping_encode.decodes]
            rw [← sameName]
      rw [List.mapM_cons, read, ih parts]
      rfl

/-- The characters of a tag that is made of its parts. -/
def spelled (writtenName : List Char) (attributes : List Spelling) (selfClosing : Bool) :
    List Char :=
  '<' :: (writtenName ++ spell attributes selfClosing [])

/-- A tag that is made of its parts is read back, whatever follows it. -/
theorem read_spelled {writtenName : List Char}
    (continues : ∀ c ∈ writtenName, continuesName c = true)
    (names : ∀ a ∈ attributes, isAttributeName a.name = true)
    (apart : attributes.IsChain Spelling.Apart) (tail : List Char) :
    read (spelled writtenName attributes selfClosing ++ tail) =
      .tag (ofParts writtenName (spelled writtenName attributes selfClosing)
        (attributes.map Spelling.toAttribute) selfClosing) := by
  obtain ⟨front, cut⟩ : ∃ front, ∀ tail, spelled writtenName attributes selfClosing ++ tail =
      front ++ (stop selfClosing ++ tail) := by
    refine ⟨'<' :: (writtenName ++ attributes.flatMap Spelling.chars ++
      if selfClosing then [' '] else []), fun tail => ?_⟩
    cases selfClosing <;> simp [spelled, spell, ending, stop]
  have ends : EndsRun continuesName (spell attributes selfClosing tail) := by
    intro c first
    rcases spell_head c first with rfl | rfl <;> decide
  have whole : spelled writtenName attributes selfClosing ++ tail =
      '<' :: (writtenName ++ spell attributes selfClosing tail) := by
    simp [spelled, spell]
  have name : nameOf (spelled writtenName attributes selfClosing ++ tail) = writtenName := by
    rw [whole]
    exact takeWhile_append_of_endsRun continues ends
  have afterName : afterNameOf (spelled writtenName attributes selfClosing ++ tail) =
      spell attributes selfClosing tail := by
    rw [whole]
    exact dropWhile_append_of_endsRun continues ends
  obtain ⟨written, attributesRead, parts⟩ :=
    @readAttributes_spell attributes selfClosing tail names apart
      (writtenName.getLast?.getD '<')
  have found : attributesOf (spelled writtenName attributes selfClosing ++ tail) =
      (written, stop selfClosing ++ tail) := by
    rw [attributesOf, name, afterName, attributesRead]
  have raw := cut []
  rw [List.append_nil, List.append_nil] at raw
  refine read_eq_tag_iff.mpr
    ⟨front, tail, selfClosing, attributes.map Spelling.toAttribute, cut tail, ?_, ?_, ?_⟩
  · rw [found]
  · rw [found]
    exact mapM_toAttribute?_of_parts parts
  · rw [name, raw]

/-- The names of a tag can be written in a tag, and read back they are the same. -/
structure IsSpelled (tag : StartTag) : Prop where
  continues : ∀ c ∈ tag.writtenName.toList, continuesName c = true
  name : lowered tag.writtenName.toList = tag.name
  length : tag.name.length = tag.writtenName.length
  isName : ∀ n ∈ tag.writtenAttributes, isAttributeName n.toList = true
  names : tag.writtenAttributes.map (lowered ·.toList) = tag.attributes.map Attribute.name
  equals : (∃ n ∈ tag.writtenAttributes, n.toList.head? = some '=') →
    tag.writtenAttributes = tag.attributes.map Attribute.name

/-- The attributes of a tag with their names as they were written. -/
def spellings (tag : StartTag) : List Spelling :=
  (tag.writtenAttributes.zip tag.attributes).map fun (n, a) =>
    ⟨n.toList, a.value.map String.toList⟩

namespace IsSpelled

variable {tag : StartTag}

theorem map_fst_zip (spelled : tag.IsSpelled) :
    (tag.writtenAttributes.zip tag.attributes).map Prod.fst = tag.writtenAttributes := by
  have length := congrArg List.length spelled.names
  rw [List.length_map, List.length_map] at length
  exact List.map_fst_zip (Nat.le_of_eq length)

theorem map_snd_zip (spelled : tag.IsSpelled) :
    (tag.writtenAttributes.zip tag.attributes).map Prod.snd = tag.attributes := by
  have length := congrArg List.length spelled.names
  rw [List.length_map, List.length_map] at length
  exact List.map_snd_zip (Nat.le_of_eq length.symm)

theorem map_name_spellings (spelled : tag.IsSpelled) :
    tag.spellings.map (String.ofList ·.name) = tag.writtenAttributes := by
  rw [spellings, List.map_map]
  simpa [Function.comp_def] using spelled.map_fst_zip

theorem isAttributeName_of_mem (spelled : tag.IsSpelled) :
    ∀ a ∈ tag.spellings, isAttributeName a.name = true := by
  intro a member
  have among : String.ofList a.name ∈ tag.writtenAttributes := by
    rw [← spelled.map_name_spellings]
    exact List.mem_map_of_mem member
  have isName := spelled.isName _ among
  rwa [String.toList_ofList] at isName

theorem lowered_of_mem_zip (spelled : tag.IsSpelled) :
    ∀ pair ∈ tag.writtenAttributes.zip tag.attributes,
      lowered pair.1.toList = pair.2.name := by
  rw [← List.map_inj_left]
  have lowers := congrArg (List.map (lowered ·.toList)) spelled.map_fst_zip
  have names := congrArg (List.map Attribute.name) spelled.map_snd_zip
  rw [List.map_map] at lowers names
  exact (lowers.trans spelled.names).trans names.symm

theorem map_toAttribute_spellings (spelled : tag.IsSpelled) :
    tag.spellings.map Spelling.toAttribute = tag.attributes := by
  rw [spellings, List.map_map]
  conv => rhs; rw [← spelled.map_snd_zip]
  rw [List.map_inj_left]
  intro pair member
  have name := spelled.lowered_of_mem_zip pair member
  obtain ⟨n, ⟨attributeName, value⟩⟩ := pair
  dsimp only at name
  simp [Spelling.toAttribute, name, Function.comp_def]

/-- The names are looked for and found in a tag that is made of them. -/
theorem namesAsWritten_spelled (spelled : tag.IsSpelled)
    (apart : tag.spellings.IsChain Spelling.Apart) (selfClosing : Bool) :
    namesAsWritten tag.name (StartTag.spelled tag.writtenName.toList tag.spellings selfClosing)
      (tag.attributes.map Attribute.name) = tag.writtenAttributes := by
  have behind : (StartTag.spelled tag.writtenName.toList tag.spellings selfClosing).drop
      (1 + tag.name.length) = spell tag.spellings selfClosing [] := by
    rw [spelled.length, StartTag.spelled, Nat.add_comm, List.drop_succ_cons,
      ← String.length_toList, List.drop_left]
  rw [namesAsWritten, behind]
  by_cases given : ∃ n ∈ tag.writtenAttributes, n.toList.head? = some '='
  · -- A name that starts with an equals sign is not found, so the names are kept.
    rw [if_neg]
    · exact (spelled.equals given).symm
    · intro same
      obtain ⟨n, member, first⟩ := given
      have among := List.mem_map_of_mem (f := (lowered ·.toList)) member
      rw [spelled.names, ← same] at among
      obtain ⟨found, foundIn, lower⟩ := List.mem_map.mp among
      apply head?_ne_of_mem_writtenNamesUpTo foundIn
      have caseless : Character.isCaseless '=' = true := by decide
      have characters := congrArg String.toList lower
      rw [lowered, lowered, String.toList_ofList, String.toList_ofList] at characters
      rwa [← Character.head?_lowerAll_iff caseless, characters,
        Character.head?_lowerAll_iff caseless]
  · have noEquals : ∀ a ∈ tag.spellings, a.name.head? ≠ some '=' := by
      intro a member first
      refine given ⟨String.ofList a.name, ?_, by rwa [String.toList_ofList]⟩
      rw [← spelled.map_name_spellings]
      exact List.mem_map_of_mem member
    have enough : tag.spellings.length ≤
        (StartTag.spelled tag.writtenName.toList tag.spellings selfClosing).length := by
      have length := @length_le_spell tag.spellings selfClosing []
      rw [StartTag.spelled, List.length_cons, List.length_append]
      omega
    have lowers := spelled.names
    rw [← spelled.map_name_spellings, List.map_map] at lowers
    simp only [Function.comp_def, String.toList_ofList] at lowers
    rw [writtenNamesUpTo_spell spelled.isAttributeName_of_mem apart noEquals enough, List.map_map,
      List.map_map]
    exact (if_pos lowers).trans spelled.map_name_spellings

/-- A tag is read back from its parts. -/
theorem read_spelled (spelled : tag.IsSpelled) (apart : tag.spellings.IsChain Spelling.Apart)
    (selfClosing : Bool) (tail : List Char) :
    read (StartTag.spelled tag.writtenName.toList tag.spellings selfClosing ++ tail) =
      .tag { tag with
        raw := String.ofList
          (StartTag.spelled tag.writtenName.toList tag.spellings selfClosing)
        selfClosing := selfClosing } := by
  have given : spell tag.spellings selfClosing [] ≠ [] := by
    cases selfClosing <;> simp [spell, ending, stop]
  have name : nameAsWritten tag.name
      (StartTag.spelled tag.writtenName.toList tag.spellings selfClosing) = tag.writtenName := by
    have asWritten := nameAsWritten_eq '<' tag.writtenName.toList given
    rwa [spelled.name, String.length_toList, if_pos spelled.length,
      String.ofList_toList] at asWritten
  rw [StartTag.read_spelled spelled.continues spelled.isAttributeName_of_mem apart, ofParts,
    spelled.name, spelled.map_toAttribute_spellings, name,
    spelled.namesAsWritten_spelled apart]

end IsSpelled

/-- The text of a tag that is made of its parts. -/
def madeText (tag : StartTag) : String :=
  { tag with raw := "" }.text

theorem toList_attributeText (writtenName : String) (a : Attribute) :
    (attributeText writtenName a).toList =
      Spelling.chars ⟨writtenName.toList, a.value.map String.toList⟩ := by
  rw [attributeText]
  cases a.value with
  | none => simp [Spelling.chars]
  | some value => simp [Spelling.chars, escapeHtml]

theorem toList_madeText (tag : StartTag) :
    tag.madeText.toList = spelled tag.writtenName.toList tag.spellings
      (tag.selfClosing && isVoidName tag.name) := by
  have attributes (parts : List (String × Attribute)) :
      (String.join (parts.map fun (n, a) => attributeText n a)).toList =
        (parts.map fun (n, a) => (⟨n.toList, a.value.map String.toList⟩ : Spelling)).flatMap
          Spelling.chars := by
    induction parts with
    | nil => rfl
    | cons part parts ih =>
        rw [List.map_cons, String.join_cons, String.toList_append, ih, toList_attributeText]
        rfl
  rw [madeText, text, if_pos rfl, spelled, spell, spellings, ← attributes]
  cases selfClosing : tag.selfClosing && isVoidName tag.name <;>
    simp [ending, stop]

/-- The text of a tag that is made of its parts is read as the tag, whatever follows it; the
slash of a tag that has content is lost. -/
theorem read_madeText {tag : StartTag} (spelled : tag.IsSpelled)
    (apart : tag.spellings.IsChain Spelling.Apart) (tail : List Char) :
    read (tag.madeText.toList ++ tail) =
      .tag { tag with
        raw := tag.madeText
        selfClosing := tag.selfClosing && isVoidName tag.name } := by
  rw [toList_madeText, spelled.read_spelled apart, ← toList_madeText, String.ofList_toList]

end StartTag

end LayoutBinding
