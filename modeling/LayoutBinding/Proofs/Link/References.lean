import LayoutBinding.Link.Resolver
import LayoutBinding.Proofs.Link.CommonSpelling
import LayoutBinding.Proofs.Link.SiteIndex

/-!
# References to the anchors of a site

An anchor of the current page is named alone, behind a number sign, or behind the path of the
page and a number sign.  A reference is split at its first number sign.  So the anchor alone
leads to its place just if there is no number sign in it, and the path does so if there is none
in the path.
-/

namespace LayoutBinding

/-- Number signs are never taken off an identifier. -/
theorem hash_mem_normalizeId_iff {id : String} :
    '#' ∈ (normalizeId id).toList ↔ '#' ∈ id.toList := by
  rw [normalizeId, String.toList_ofList]
  generalize id.toList = cs
  obtain ⟨index, isIndex, suffix, isSuffix, inner, slashes, blanks⟩ :=
    Identifier.spells_normalize cs
  obtain ⟨front, back, rfl, allFront, allBack⟩ := slashes
  obtain ⟨before, after, whole, allBefore, allAfter⟩ := blanks
  have notBlank : Character.isBlank '#' ≠ true := by decide
  have notSlash : Identifier.isSlash '#' ≠ true := by decide
  have notIndex : '#' ∉ index := by
    rcases List.mem_pair.mp isIndex with rfl | rfl
    · simp
    · split <;> decide
  have noSuffix : ∀ suffix ∈ [] :: Identifier.fileSuffixes, '#' ∉ suffix := by decide
  -- So the sign is in what is left, or it is nowhere.
  have among := congrArg ('#' ∈ ·) whole
  simp only [List.mem_append, mt (allFront _) notSlash, mt (allBack _) notSlash,
    mt (allBefore _) notBlank, mt (allAfter _) notBlank, notIndex, noSuffix suffix isSuffix,
    or_false, false_or] at among
  rw [among]

/-- The addresses of pages start alike and end in their identifiers, with a slash perhaps. -/
theorem exists_pageUrl_eq_append (base : String) (trailingSlash : Bool) :
    ∃ start : String, ∀ id, ∃ ending : String,
      pageUrl base id trailingSlash = start ++ ending ∧
        ('#' ∈ ending.toList → '#' ∈ id.toList) := by
  refine ⟨String.ofList
    (trimEnd Identifier.isSlash (if base = "" then "/" else base).toList) ++ "/", fun id => ?_⟩
  unfold pageUrl
  by_cases root : id = ""
  · exact ⟨"", by simp [root], by simp⟩
  · cases trailingSlash
    · exact ⟨id, by simp [root], fun member => member⟩
    · exact ⟨id ++ "/", by simp [root, String.append_assoc], by simp⟩

namespace LinkIndex

/-! ### Splitting references -/

section Splitting

variable {page anchor : String}

theorem splitReference_of_notMem {reference : Text} (noHash : '#' ∉ reference.content.toList) :
    splitReference reference = (reference, none) := by
  have inPage : ∀ c ∈ reference.content.toList, (!isHash c) = true := fun c member => by
    simpa [isHash] using ne_of_mem_of_not_mem member noHash
  rw [splitReference]
  simp only [List.takeWhile_eq_self_iff.mpr inPage, List.dropWhile_eq_nil_iff.mpr inPage,
    String.ofList_toList]

theorem splitReference_append (first : '#' ∉ page.toList) (trusted : Bool) :
    splitReference ⟨page ++ "#" ++ anchor, trusted⟩ =
      (⟨page, trusted⟩, some ⟨anchor, trusted⟩) := by
  have inPage : ∀ c ∈ page.toList, (!isHash c) = true := fun c member => by
    simpa [isHash] using ne_of_mem_of_not_mem member first
  have whole : (page ++ "#" ++ anchor).toList = page.toList ++ '#' :: anchor.toList := by simp
  have mark : (!isHash '#') = false := by decide
  rw [splitReference]
  simp only [whole, List.takeWhile_append_of_pos inPage, List.dropWhile_append_of_pos inPage,
    List.takeWhile_cons, List.dropWhile_cons, mark, Bool.false_eq_true, if_false, List.append_nil,
    String.ofList_toList]

variable {index : LinkIndex} {path : String}

theorem referenceUrl_of_notMem {reference : Text} (noHash : '#' ∉ reference.content.toList) :
    index.referenceUrl (some path) reference = index.anchorUrl (.plain path) (.text reference) := by
  rw [referenceUrl, splitReference_of_notMem noHash]
  rfl

theorem referenceUrl_append (first : '#' ∉ page.toList) (trusted : Bool) :
    index.referenceUrl (some path) ⟨page ++ "#" ++ anchor, trusted⟩ =
      if isBlankText page then
        index.anchorUrl (.plain path) (.text ⟨anchor, trusted⟩)
      else
        index.anchorUrl ⟨page, trusted⟩ (.text ⟨anchor, trusted⟩) := by
  rw [referenceUrl, splitReference_append first]
  rfl

theorem referenceUrl_hash (anchor : String) (trusted : Bool) :
    index.referenceUrl (some path) ⟨"#" ++ anchor, trusted⟩ =
      index.anchorUrl (.plain path) (.text ⟨anchor, trusted⟩) := by
  have first : '#' ∉ "".toList := by simp
  have blank : isBlankText "" = true := by simp [isBlankText]
  have noPage : "#" ++ anchor = "" ++ "#" ++ anchor := by rw [String.empty_append]
  rw [noPage, referenceUrl_append first, if_pos blank]

end Splitting

theorem exists_eq_append_hash {reference : String} (hash : '#' ∈ reference.toList) :
    ∃ page anchor : String, reference = page ++ "#" ++ anchor ∧ '#' ∉ page.toList := by
  obtain ⟨page, anchor, whole, first⟩ := List.eq_append_cons_of_mem hash
  refine ⟨String.ofList page, String.ofList anchor, ?_, by simpa using first⟩
  apply String.toList_inj.mp
  simpa using whole

/-! ### The anchors of a page -/

section OfPages

variable {base : String} {trailingSlash : Bool} {pages : List Page} {index : LinkIndex}
  {page : Page} (built : ofPages base trailingSlash pages = .ok index)

include built

/-- What is found is a place of a page with the identifier that is looked for. -/
theorem exists_page_of_anchorUrl {id anchor : Text} {address : String}
    (found : index.anchorUrl id (.text anchor) = .ok address) :
    ∃ other ∈ Page.allVisited pages,
      normalizeId (normalizeId other.path) = normalizeId (normalizeId id.content) ∧
      address = addressOf base trailingSlash other ++ "#" ++ anchor.content := by
  obtain ⟨tables, lists, rfl⟩ := exists_of_ofPages built
  obtain ⟨url, given, -, place⟩ := anchorUrl_eq_ok_iff.mp found
  obtain ⟨entry, member, spelled, same⟩ := exists_of_get?_normalized given
  rw [lists.urls] at member
  obtain ⟨other, among, rfl⟩ := List.mem_map.mp member
  dsimp only at spelled same
  exact ⟨other, among, spelled, by rw [same, place]⟩

/-- An anchor behind a page without a number sign is not at an address that has one before. -/
theorem anchorUrl_ne_of_notMem {id anchor : Text} (noHash : '#' ∉ id.content.toList)
    (front : String) :
    index.anchorUrl id (.text anchor) ≠
      .ok (addressOf base trailingSlash page ++ "#" ++ (front ++ "#" ++ anchor.content)) := by
  intro found
  obtain ⟨other, -, spelled, same⟩ := exists_page_of_anchorUrl built found
  obtain ⟨start, addresses⟩ := exists_pageUrl_eq_append base trailingSlash
  obtain ⟨ending, own, -⟩ := addresses (normalizeId page.path)
  obtain ⟨otherEnding, others, hashes⟩ := addresses (normalizeId other.path)
  rw [addressOf, addressOf, own, others] at same
  have characters := congrArg String.toList same
  -- Without their common start and end, one address has a sign, and the other is an identifier.
  simp only [String.toList_append, List.append_assoc, List.append_cancel_left_eq] at characters
  have equal : ending.toList ++ "#".toList ++ front.toList = otherEnding.toList := by
    have before : ending.toList ++ "#".toList ++ front.toList ++
        ("#".toList ++ anchor.content.toList) =
          otherEnding.toList ++ ("#".toList ++ anchor.content.toList) := by
      simpa only [List.append_assoc] using characters
    exact List.append_cancel_right before
  have hash : '#' ∈ (normalizeId other.path).toList := hashes (by simp [← equal])
  rw [← hash_mem_normalizeId_iff, spelled, hash_mem_normalizeId_iff,
    hash_mem_normalizeId_iff] at hash
  exact noHash hash

variable (member : page ∈ Page.allVisited pages)
  (place : KeepsPlace (Page.allVisited pages) page)

include member place

theorem pageUrl_ofPages :
    index.pageUrl (.plain page.path) = .ok (addressOf base trailingSlash page) := by
  obtain ⟨tables, lists, rfl⟩ := exists_of_ofPages built
  exact pageUrl_ofTables lists member place

theorem anchorUrl_ofPages {anchor : Text} (has : page.HasAnchor anchor.content) :
    index.anchorUrl (.plain page.path) (.text anchor) =
      .ok (addressOf base trailingSlash page ++ "#" ++ anchor.content) := by
  obtain ⟨tables, lists, rfl⟩ := exists_of_ofPages built
  rw [anchorUrl_ofTables lists member place, if_pos (Page.hasAnchor_iff.mp has)]

theorem eq_of_anchorUrl_ofPages {anchor : Text} {wanted : String}
    (found : index.anchorUrl (.plain page.path) (.text anchor) =
      .ok (addressOf base trailingSlash page ++ "#" ++ wanted)) : anchor.content = wanted := by
  obtain ⟨tables, lists, rfl⟩ := exists_of_ofPages built
  rw [anchorUrl_ofTables lists member place] at found
  split at found
  · simpa using found
  · cases found

/-! ### References to the current page -/

/-- An anchor alone leads to its place just if there is no number sign in it. -/
theorem referenceUrl_bare_iff {anchor : Text} (has : page.HasAnchor anchor.content) :
    index.referenceUrl (some page.path) anchor =
        .ok (addressOf base trailingSlash page ++ "#" ++ anchor.content) ↔
      '#' ∉ anchor.content.toList := by
  constructor
  · intro found hash
    obtain ⟨front, rest, whole, first⟩ := exists_eq_append_hash hash
    obtain ⟨content, trusted⟩ := anchor
    obtain rfl : content = front ++ "#" ++ rest := whole
    rw [referenceUrl_append first] at found
    -- The part before the sign is blank, and the rest a shorter anchor, or it names a page.
    split at found
    · have same := eq_of_anchorUrl_ofPages built member place found
      have lengths := congrArg String.length same
      simp at lengths
    · exact anchorUrl_ne_of_notMem built first front found
  · intro noHash
    rw [referenceUrl_of_notMem noHash]
    exact anchorUrl_ofPages built member place has

/-- The references to an anchor of the current page lead to one place. -/
theorem references_agree {anchor : String} (has : page.HasAnchor anchor) (trusted : Bool) :
    ∃ url, index.pageUrl (.plain page.path) = .ok url ∧
      index.referenceUrl (some page.path) ⟨"#" ++ anchor, trusted⟩ = .ok (url ++ "#" ++ anchor) ∧
      (index.referenceUrl (some page.path) ⟨anchor, trusted⟩ = .ok (url ++ "#" ++ anchor) ↔
        '#' ∉ anchor.toList) ∧
      ('#' ∉ page.path.toList →
        index.referenceUrl (some page.path) ⟨page.path ++ "#" ++ anchor, trusted⟩ =
          .ok (url ++ "#" ++ anchor)) := by
  have own : index.anchorUrl (.plain page.path) (.text ⟨anchor, trusted⟩) =
      .ok (addressOf base trailingSlash page ++ "#" ++ anchor) :=
    anchorUrl_ofPages built member place has
  refine ⟨addressOf base trailingSlash page, pageUrl_ofPages built member place, ?_,
    referenceUrl_bare_iff built member place has, fun noHash => ?_⟩
  · rw [referenceUrl_hash]
    exact own
  · rw [referenceUrl_append noHash]
    split
    · exact own
    · have same : (⟨page.path, trusted⟩ : Text).content = (Text.plain page.path).content := rfl
      exact (anchorUrl_eq_ok_congr same).mpr own

end OfPages

theorem references_agree_guide :
    ∃ index, ofPages "/docs" true guide = .ok index ∧
      index.referenceUrl (some " a.html") (.plain "#setup") = .ok "/docs/a/#setup" ∧
      index.referenceUrl (some " a.html") (.plain "setup") = .ok "/docs/a/#setup" ∧
      index.referenceUrl (some " a.html") (.plain " a.html#setup") = .ok "/docs/a/#setup" := by
  obtain ⟨index, built⟩ : ∃ index, ofPages "/docs" true guide = .ok index := ⟨_, rfl⟩
  have member : guidePage " a.html" [] ∈ Page.allVisited guide := by
    simp [guide, guidePage]
  have place : KeepsPlace (Page.allVisited guide) (guidePage " a.html" []) :=
    keepsPlace_of_fixed (by decide +kernel) _
  have declared : (guidePage " a.html" []).HasAnchor "setup" := .inr (by decide +kernel)
  obtain ⟨url, own, hash, bare, whole⟩ := references_agree built member place declared false
  have address : addressOf "/docs" true (guidePage " a.html" []) = "/docs/a/" := by
    decide +kernel
  obtain rfl : url = "/docs/a/" :=
    Except.ok.inj (own.symm.trans ((pageUrl_ofPages built member place).trans
      (congrArg Except.ok address)))
  exact ⟨index, built, hash, bare.mpr (by decide), whole (by decide)⟩

/-- A page with a number sign in an anchor. -/
def hashedAnchor : Page :=
  { guidePage "a" [] with anchors := [.string "c#"] }

/-- A page with a number sign in its path. -/
def hashedPath : Page :=
  guidePage "a#b" []

/-- A number sign splits a reference wherever it stands. -/
theorem referenceUrl_hashed_ne :
    hashedAnchor.HasAnchor "c#" ∧ hashedPath.HasAnchor "top" ∧
    ∃ index, ofPages "/" true [hashedAnchor, hashedPath] = .ok index ∧
      index.pageUrl (.plain hashedAnchor.path) = .ok "/a/" ∧
      index.referenceUrl (some hashedAnchor.path) (.plain "c#") ≠ .ok ("/a/" ++ "#" ++ "c#") ∧
      index.pageUrl (.plain hashedPath.path) = .ok "/a#b/" ∧
      index.referenceUrl (some hashedPath.path) (.plain (hashedPath.path ++ "#" ++ "top")) ≠
        .ok ("/a#b/" ++ "#" ++ "top") := by
  have anchor : hashedAnchor.HasAnchor "c#" := .inl ⟨.plain "c#", List.mem_cons_self, rfl⟩
  have top : hashedPath.HasAnchor "top" := .inl ⟨.plain "top", List.mem_cons_self, rfl⟩
  obtain ⟨index, built, own, bare, path, whole⟩ :
      ∃ index, ofPages "/" true [hashedAnchor, hashedPath] = .ok index ∧
        index.pageUrl (.plain hashedAnchor.path) = .ok "/a/" ∧
        index.referenceUrl (some hashedAnchor.path) (.plain "c#") =
          .refuse (.noPage (.plain "c")) ∧
        index.pageUrl (.plain hashedPath.path) = .ok "/a#b/" ∧
        index.referenceUrl (some hashedPath.path) (.plain (hashedPath.path ++ "#" ++ "top")) =
          .refuse (.noAnchor (.plain "a") (Text.plain "b#top").quoted) :=
    ⟨_, rfl, rfl, rfl, rfl, rfl⟩
  refine ⟨anchor, top, index, built, own, ?_, path, ?_⟩
  · rw [bare]
    nofun
  · rw [whole]
    nofun

end LinkIndex

end LayoutBinding
