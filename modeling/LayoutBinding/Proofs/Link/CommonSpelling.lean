import LayoutBinding.Link.Identifier
import LayoutBinding.Proofs.Text.Trimming
import Mathlib.Data.List.Basic

/-!
# Identifiers in their common spelling

Spelling an identifier takes blanks, slashes, one file suffix and a final `index` off, each of
them once.  An identifier is common if nothing is left to be taken off.  Every identifier is a
spelling of what is left of it, but that need not be common: `a.md.html` leaves `a.md`.
-/

namespace LayoutBinding

namespace Identifier

/-- The suffixes of files that do not count in an identifier. -/
def fileSuffixes : List (List Char) :=
  [".md".toList, ".html".toList]

/-- How the page of a folder is named within it: not at all, or as the index. -/
def indexEndings (folder : List Char) : List (List Char) :=
  [[], if folder = [] then "index".toList else "/index".toList]

def IsInner (c : Char) : Prop :=
  Character.isBlank c = false ∧ isSlash c = false

instance (c : Char) : Decidable (IsInner c) :=
  inferInstanceAs (Decidable (_ ∧ _))

/-- Nothing can be taken off an identifier. -/
structure IsCommon (cs : List Char) : Prop where
  first : ∀ c ∈ cs.head?, IsInner c
  last : ∀ c ∈ cs.getLast?, IsInner c
  noSuffix : ∀ suffix ∈ fileSuffixes, ¬suffix <:+ cs
  notIndex : cs ≠ "index".toList
  notBelow : ¬"/index".toList <:+ cs

/-- The spellings of an identifier: the index of its folder may be named, with a suffix, between
slashes, and between blanks. -/
def Spells (common cs : List Char) : Prop :=
  ∃ index ∈ indexEndings common, ∃ suffix ∈ [] :: fileSuffixes, ∃ inner,
    Surrounds isSlash (common ++ index ++ suffix) inner ∧ Surrounds Character.isBlank inner cs

/-! ### Endings -/

theorem dropSuffix?_eq_some_iff {suffix cs rest : List Char} :
    dropSuffix? suffix cs = some rest ↔ cs = rest ++ suffix := by
  unfold dropSuffix?
  split
  next ends =>
    obtain ⟨front, rfl⟩ := List.isSuffixOf_iff_suffix.mp ends
    simp [eq_comm]
  next ends =>
    refine iff_of_false nofun fun same => ends ?_
    exact List.isSuffixOf_iff_suffix.mpr ⟨rest, same.symm⟩

theorem dropSuffix?_eq_none_iff {suffix cs : List Char} :
    dropSuffix? suffix cs = none ↔ ¬suffix <:+ cs := by
  rw [Option.eq_none_iff_forall_ne_some]
  simp only [ne_eq, dropSuffix?_eq_some_iff]
  exact ⟨fun none ⟨rest, same⟩ => none rest same.symm, fun none rest same => none ⟨rest, same.symm⟩⟩

theorem exists_dropFileSuffix (cs : List Char) :
    ∃ suffix ∈ [] :: fileSuffixes, cs = dropFileSuffix cs ++ suffix := by
  unfold dropFileSuffix
  cases markdown : dropSuffix? ".md".toList cs with
  | some rest =>
      exact ⟨".md".toList, by simp [fileSuffixes], dropSuffix?_eq_some_iff.mp markdown⟩
  | none =>
      cases html : dropSuffix? ".html".toList cs with
      | some rest =>
          exact ⟨".html".toList, by simp [fileSuffixes], dropSuffix?_eq_some_iff.mp html⟩
      | none => exact ⟨[], List.mem_cons_self, by simp⟩

theorem dropFileSuffix_append {suffix : List Char} (among : suffix ∈ fileSuffixes)
    (cs : List Char) : dropFileSuffix (cs ++ suffix) = cs := by
  have own : dropSuffix? suffix (cs ++ suffix) = some cs := dropSuffix?_eq_some_iff.mpr rfl
  unfold dropFileSuffix
  rcases List.mem_pair.mp among with rfl | rfl
  · rw [own]
    rfl
  · have other : dropSuffix? ".md".toList (cs ++ ".html".toList) = none := by
      refine dropSuffix?_eq_none_iff.mpr fun ⟨rest, same⟩ => ?_
      have lasts := congrArg List.getLast? same
      rw [List.getLast?_append, List.getLast?_append] at lasts
      exact absurd lasts (by simp)
    rw [other, own]
    rfl

theorem dropFileSuffix_of_none {cs : List Char} (none : ∀ suffix ∈ fileSuffixes, ¬suffix <:+ cs) :
    dropFileSuffix cs = cs := by
  have noMarkdown := dropSuffix?_eq_none_iff.mpr (none ".md".toList (by simp [fileSuffixes]))
  have noHtml := dropSuffix?_eq_none_iff.mpr (none ".html".toList (by simp [fileSuffixes]))
  rw [dropFileSuffix, noMarkdown, noHtml]
  rfl

theorem exists_dropIndex {cs : List Char} (first : ∀ c ∈ cs.head?, isSlash c = false) :
    ∃ index ∈ indexEndings (dropIndex cs), cs = dropIndex cs ++ index := by
  unfold dropIndex
  split
  next isIndex => exact ⟨"index".toList, by simp [indexEndings], isIndex⟩
  next =>
    cases below : dropSuffix? "/index".toList cs with
    | none => exact ⟨[], List.mem_cons_self, by simp⟩
    | some folder =>
        have whole := dropSuffix?_eq_some_iff.mp below
        have inFolder : folder ≠ [] := by
          rintro rfl
          rw [whole] at first
          exact absurd (first '/' rfl) (by decide)
        exact ⟨"/index".toList, by simp [indexEndings, inFolder], whole⟩

theorem dropIndex_below (folder : List Char) : dropIndex (folder ++ "/index".toList) = folder := by
  have longer : folder ++ "/index".toList ≠ "index".toList := fun same =>
    absurd (congrArg List.length same) (by simp)
  rw [dropIndex, if_neg longer, dropSuffix?_eq_some_iff.mpr rfl]
  rfl

theorem dropIndex_append {common index : List Char} (isCommon : IsCommon common)
    (among : index ∈ indexEndings common) : dropIndex (common ++ index) = common := by
  rcases List.mem_pair.mp among with rfl | rfl
  · rw [List.append_nil, dropIndex, if_neg isCommon.notIndex,
      dropSuffix?_eq_none_iff.mpr isCommon.notBelow]
    rfl
  · split
    next root =>
      rw [root]
      rfl
    next => exact dropIndex_below common

/-! ### Spellings -/

theorem isBlank_of_isSlash {c : Char} (slash : isSlash c = true) :
    Character.isBlank c = false := by
  obtain rfl : c = '/' := by simpa [isSlash] using slash
  decide

theorem head?_stem (cs : List Char) : ∀ c ∈ (stem cs).head?, isSlash c = false := by
  intro c first
  obtain ⟨suffix, -, whole⟩ := exists_dropFileSuffix (trim isSlash (trim Character.isBlank cs))
  apply head?_trim isSlash (trim Character.isBlank cs)
  rw [whole, ← stem, List.head?_append, first]
  rfl

theorem spells_normalize (cs : List Char) : Spells (normalize cs) cs := by
  obtain ⟨suffix, isSuffix, whole⟩ :=
    exists_dropFileSuffix (trim isSlash (trim Character.isBlank cs))
  obtain ⟨index, isIndex, same⟩ := exists_dropIndex (head?_stem cs)
  refine ⟨index, isIndex, suffix, isSuffix, trim Character.isBlank cs, ?_, surrounds_trim _ cs⟩
  rw [normalize, ← same, stem, ← whole]
  exact surrounds_trim _ _

theorem spells_self (cs : List Char) : Spells cs cs := by
  have alone (test : Char → Bool) : Surrounds test cs cs := ⟨[], [], by simp, nofun, nofun⟩
  refine ⟨[], List.mem_cons_self, [], List.mem_cons_self, cs, ?_, alone _⟩
  simpa using alone isSlash

theorem isInner_of_mem_suffix {suffix : List Char} (isSuffix : suffix ∈ [] :: fileSuffixes) :
    ∀ c ∈ suffix, IsInner c := by
  have all : ∀ suffix ∈ [] :: fileSuffixes, suffix.all (IsInner ·) := by decide
  simpa using all suffix isSuffix

theorem IsCommon.head?_append {common index suffix : List Char} (isCommon : IsCommon common)
    (isIndex : index ∈ indexEndings common) (isSuffix : suffix ∈ [] :: fileSuffixes) :
    ∀ c ∈ (common ++ index ++ suffix).head?, IsInner c := by
  cases common with
  | cons d common => exact isCommon.first
  | nil =>
      have all : ∀ index ∈ indexEndings [], index.all (IsInner ·) := by decide
      intro c first
      rcases List.mem_append.mp (List.mem_of_mem_head? first) with inIndex | inSuffix
      · simpa using List.all_eq_true.mp (all index isIndex) c inIndex
      · exact isInner_of_mem_suffix isSuffix c inSuffix

theorem IsCommon.getLast?_append {common index suffix : List Char} (isCommon : IsCommon common)
    (isIndex : index ∈ indexEndings common) (isSuffix : suffix ∈ [] :: fileSuffixes) :
    ∀ c ∈ (common ++ index ++ suffix).getLast?, IsInner c := by
  apply forall_getLast?_append
  · apply forall_getLast?_append isCommon.last
    rcases List.mem_pair.mp isIndex with rfl | rfl
    · nofun
    · split <;>
      · rintro c ⟨⟩
        decide
  · exact fun c last => isInner_of_mem_suffix isSuffix c (List.mem_of_mem_getLast? last)

theorem IsCommon.noSuffix_append {common index : List Char} (isCommon : IsCommon common)
    (isIndex : index ∈ indexEndings common) :
    ∀ suffix ∈ fileSuffixes, ¬suffix <:+ common ++ index := by
  rcases List.mem_pair.mp isIndex with rfl | rfl
  · rw [List.append_nil]
    exact isCommon.noSuffix
  · rintro suffix among ⟨rest, same⟩
    have lasts := congrArg List.getLast? same
    rw [List.getLast?_append, List.getLast?_append] at lasts
    rcases List.mem_pair.mp among with rfl | rfl <;> split at lasts <;>
      exact absurd lasts (by simp)

/-- A common identifier is what is left of all its spellings. -/
theorem normalize_of_spells {common cs : List Char} (isCommon : IsCommon common)
    (spelled : Spells common cs) : normalize cs = common := by
  obtain ⟨index, isIndex, suffix, isSuffix, inner, slashes, blanks⟩ := spelled
  have first := isCommon.head?_append isIndex isSuffix
  have last := isCommon.getLast?_append isIndex isSuffix
  have trimmed : IsTrimmed Character.isBlank cs inner := by
    refine ⟨blanks, ?_, ?_⟩
    · exact slashes.head? (fun c => isBlank_of_isSlash) fun c member => (first c member).1
    · exact slashes.getLast? (fun c => isBlank_of_isSlash) fun c member => (last c member).1
  have bare : IsTrimmed isSlash inner (common ++ index ++ suffix) :=
    ⟨slashes, fun c member => (first c member).2, fun c member => (last c member).2⟩
  have stemmed : dropFileSuffix (common ++ index ++ suffix) = common ++ index := by
    rcases List.mem_cons.mp isSuffix with rfl | isSuffix
    · rw [List.append_nil]
      exact dropFileSuffix_of_none (isCommon.noSuffix_append isIndex)
    · exact dropFileSuffix_append isSuffix _
  rw [normalize, stem, trimmed.trim_eq, bare.trim_eq, stemmed,
    dropIndex_append isCommon isIndex]

theorem steps_of_normalize_eq_self {cs : List Char} (same : normalize cs = cs) :
    trim Character.isBlank cs = cs ∧ trim isSlash cs = cs ∧ dropFileSuffix cs = cs ∧
      dropIndex cs = cs := by
  have blanks := surrounds_trim Character.isBlank cs
  have slashes := surrounds_trim isSlash (trim Character.isBlank cs)
  obtain ⟨suffix, -, stemmed⟩ := exists_dropFileSuffix (trim isSlash (trim Character.isBlank cs))
  obtain ⟨index, -, whole⟩ := exists_dropIndex (head?_stem cs)
  rw [← normalize, same] at whole
  rw [← stem, whole] at stemmed
  -- Each step leaves a part, and the last of these parts is the whole.
  have lengths := congrArg List.length stemmed
  have outer := blanks.length_le
  have inner := slashes.length_le
  simp only [List.length_append] at lengths
  have noBlanks : trim Character.isBlank cs = cs := (blanks.eq_of_length (by omega)).symm
  have noSlashes := (slashes.eq_of_length (by omega)).symm
  obtain rfl : index = [] := List.eq_nil_of_length_eq_zero (by omega)
  rw [noBlanks] at noSlashes
  have noSuffix : dropFileSuffix cs = cs := by
    rw [stem, noBlanks, noSlashes, List.append_nil] at whole
    exact whole
  refine ⟨noBlanks, noSlashes, noSuffix, ?_⟩
  rwa [normalize, stem, noBlanks, noSlashes, noSuffix] at same

theorem normalize_eq_self_iff {cs : List Char} : normalize cs = cs ↔ IsCommon cs := by
  constructor
  · intro same
    obtain ⟨noBlanks, noSlashes, noSuffix, noIndex⟩ := steps_of_normalize_eq_self same
    have isInner {c : Char} (blank : Character.isBlank c = false) (slash : isSlash c = false) :
        IsInner c := ⟨blank, slash⟩
    refine ⟨fun c first => ?_, fun c last => ?_, ?_, ?_, ?_⟩
    · exact isInner (head?_trim _ cs c (noBlanks.symm ▸ first))
        (head?_trim _ cs c (noSlashes.symm ▸ first))
    · exact isInner (getLast?_trim _ cs c (noBlanks.symm ▸ last))
        (getLast?_trim _ cs c (noSlashes.symm ▸ last))
    · rintro suffix among ⟨rest, rfl⟩
      rw [dropFileSuffix_append among] at noSuffix
      have nothing : suffix = [] := by simpa using noSuffix
      exact absurd (nothing ▸ among) (by decide)
    · rintro rfl
      exact absurd noIndex (by decide)
    · rintro ⟨folder, rfl⟩
      rw [dropIndex_below] at noIndex
      simp at noIndex
  · intro isCommon
    exact normalize_of_spells isCommon (spells_self cs)

end Identifier

open Identifier

/-- Spelling an identifier twice is the same as spelling it once just for the spellings of a
common identifier, which is what is left of each of them. -/
theorem normalizeId_normalizeId_iff (id : String) :
    (normalizeId (normalizeId id) = normalizeId id ↔
      ∃ common, IsCommon common ∧ Spells common id.toList) ∧
    ∀ common, IsCommon common → Spells common id.toList → normalizeId id = String.ofList common := by
  have twice : normalizeId (normalizeId id) = String.ofList (normalize (normalize id.toList)) := by
    rw [normalizeId, normalizeId, String.toList_ofList]
  constructor
  · rw [twice, normalizeId, String.ofList_inj, normalize_eq_self_iff]
    constructor
    · exact fun isCommon => ⟨_, isCommon, spells_normalize _⟩
    · rintro ⟨common, isCommon, spelled⟩
      rwa [normalize_of_spells isCommon spelled]
  · intro common isCommon spelled
    rw [normalizeId, normalize_of_spells isCommon spelled]

/-- The documented spellings. -/
example :
    ["blog/first", "/blog/first/", "blog/first.md", " blog/first.html ", "blog/first/index"].map
      normalizeId = List.replicate 5 "blog/first" := by
  decide +kernel

/-- Of two suffixes only the last one is taken off. -/
theorem normalizeId_normalizeId_ne :
    normalizeId (normalizeId "a.md.html") ≠ normalizeId "a.md.html" := by
  decide +kernel

end LayoutBinding
