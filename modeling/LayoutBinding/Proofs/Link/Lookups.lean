import LayoutBinding.Link.Index

/-!
# Looking pages and anchors up

A page is looked up under the common spelling of its identifier.  For an anchor the identifier
is spelled once to find the anchors of the page, and once more to find its address.  So the two
lookups agree in every index just where spelling the identifier twice is the same as spelling it
once.
-/

namespace LayoutBinding

namespace LinkIndex

section Lookups

variable {index : LinkIndex} {id anchor : Text}

theorem pageUrl_eq_ok_iff {url : String} :
    index.pageUrl id = .ok url ↔ Entries.get? index.urls (normalizeId id.content) = some url := by
  rw [pageUrl]
  cases Entries.get? index.urls (normalizeId id.content) with
  | none => exact ⟨nofun, nofun⟩
  | some found => simp

theorem contains_iff_exists_pageUrl :
    index.contains id.content = true ↔ ∃ url, index.pageUrl id = .ok url := by
  rw [contains, Entries.contains, Option.isSome_iff_exists]
  exact exists_congr fun url => pageUrl_eq_ok_iff.symm

theorem anchorUrl_text (index : LinkIndex) (id anchor : Text) :
    index.anchorUrl id (.text anchor) =
      match Entries.get? index.urls (normalizeId (normalizeId id.content)) with
      | none => .refuse (.noPage id.normalizedId)
      | some url =>
          if Value.isAmong (.text anchor) (index.anchorsOf (normalizeId id.content)) then
            .ok (url ++ "#" ++ anchor.content)
          else
            .refuse (.noAnchor id.normalizedId anchor.quoted) := by
  rw [anchorUrl, pageUrl, Text.content_normalizedId]
  cases Entries.get? index.urls (normalizeId (normalizeId id.content)) with
  | none => rfl
  | some url =>
      cases among : Value.isAmong (.text anchor) (index.anchorsOf (normalizeId id.content)) <;>
        simp [Value.isMember, bind, Except.bind] <;> rfl

theorem anchorUrl_eq_ok_iff {address : String} :
    index.anchorUrl id (.text anchor) = .ok address ↔
      ∃ url, Entries.get? index.urls (normalizeId (normalizeId id.content)) = some url ∧
        Value.isAmong (.text anchor) (index.anchorsOf (normalizeId id.content)) = true ∧
        url ++ "#" ++ anchor.content = address := by
  rw [anchorUrl_text]
  cases Entries.get? index.urls (normalizeId (normalizeId id.content)) with
  | none => exact ⟨nofun, nofun⟩
  | some url =>
      cases Value.isAmong (.text anchor) (index.anchorsOf (normalizeId id.content)) with
      | false => exact ⟨nofun, nofun⟩
      | true => simp

theorem anchorUrl_eq_ok_congr {other : Text} {address : String}
    (same : id.content = other.content) :
    index.anchorUrl id (.text anchor) = .ok address ↔
      index.anchorUrl other (.text anchor) = .ok address := by
  rw [anchorUrl_eq_ok_iff, anchorUrl_eq_ok_iff, same]

/-- A text that is no anchor of a page is refused as a link. -/
theorem anchorUrl_ok_or_refuse (index : LinkIndex) (id anchor : Text) :
    (∃ address, index.anchorUrl id (.text anchor) = .ok address) ∨
      ∃ cause, index.anchorUrl id (.text anchor) = .refuse cause ∧ cause.kind = .link := by
  rw [anchorUrl_text]
  cases Entries.get? index.urls (normalizeId (normalizeId id.content)) with
  | none => exact .inr ⟨_, rfl, rfl⟩
  | some url =>
      cases Value.isAmong (.text anchor) (index.anchorsOf (normalizeId id.content)) with
      | false => exact .inr ⟨_, rfl, rfl⟩
      | true => exact .inl ⟨_, rfl⟩

/-- No anchor is found where no page is, and the address of an anchor is a place of the page. -/
structure LookupsAgree (index : LinkIndex) (id : Text) : Prop where
  noPage : ∀ failure, index.pageUrl id = .error failure → ∀ anchor : Text,
    ∃ cause, index.anchorUrl id (.text anchor) = .refuse cause ∧ cause.kind = .link
  ofPage : ∀ (anchor : Text) (address : String), index.anchorUrl id (.text anchor) = .ok address →
    ∃ url, index.pageUrl id = .ok url ∧ address = url ++ "#" ++ anchor.content

theorem lookupsAgree_iff :
    index.LookupsAgree id ↔
      ∀ anchor : Text,
        Value.isAmong (.text anchor) (index.anchorsOf (normalizeId id.content)) = true →
        ∀ url, Entries.get? index.urls (normalizeId (normalizeId id.content)) = some url →
          Entries.get? index.urls (normalizeId id.content) = some url := by
  constructor
  · intro agree anchor among url found
    obtain ⟨own, given, same⟩ :=
      agree.ofPage anchor _ (anchorUrl_eq_ok_iff.mpr ⟨url, found, among, rfl⟩)
    have equal : url = own := by simpa using same
    rw [equal]
    exact pageUrl_eq_ok_iff.mp given
  · intro agree
    have ofPage (anchor : Text) (address : String)
        (given : index.anchorUrl id (.text anchor) = .ok address) :
        ∃ url, index.pageUrl id = .ok url ∧ address = url ++ "#" ++ anchor.content := by
      obtain ⟨url, found, among, same⟩ := anchorUrl_eq_ok_iff.mp given
      exact ⟨url, pageUrl_eq_ok_iff.mpr (agree anchor among url found), same.symm⟩
    refine ⟨fun failure fails anchor => ?_, ofPage⟩
    rcases index.anchorUrl_ok_or_refuse id anchor with ⟨address, given⟩ | refused
    · obtain ⟨url, found, -⟩ := ofPage anchor address given
      cases fails.symm.trans found
    · exact refused

end Lookups

/-- A page is in an index just if it has an address there.  The lookups of an identifier and its
anchors agree in all indices just if spelling the identifier twice is the same as spelling it
once. -/
theorem lookupsAgree_ofTables_iff (id : Text) :
    (∀ urls anchors, (ofTables urls anchors).contains id.content = true ↔
      ∃ url, (ofTables urls anchors).pageUrl id = .ok url) ∧
    ((∀ urls anchors, (ofTables urls anchors).LookupsAgree id) ↔
      normalizeId (normalizeId id.content) = normalizeId id.content) := by
  refine ⟨fun urls anchors => contains_iff_exists_pageUrl, fun agree => ?_, fun fixed => ?_⟩
  · -- The page has the identifier that is spelled twice, its anchor the one that is spelled once.
    let key := normalizeId id.content
    let index := ofTables [(key, "/")] [(id.content, [.string "top"])]
    have anchors : index.anchorsOf key = [.string "top"] := by
      change (Entries.get? [(key, Value.distinct [.string "top"])] key).getD [] = _
      rw [Entries.get?, if_pos rfl]
      rfl
    have among : Value.isAmong (.text (.plain "top")) (index.anchorsOf key) = true := by
      rw [anchors]
      rfl
    have found : Entries.get? [(normalizeId key, "/")] key = some "/" :=
      lookupsAgree_iff.mp (agree _ _) (.plain "top") among "/" (if_pos rfl)
    rw [Entries.get?] at found
    split at found
    next same => exact same
    next => cases found
  · intro urls anchors
    rw [lookupsAgree_iff, fixed]
    exact fun _ _ _ found => found

/-- An index with the address of one page and the anchors of another. -/
def strayAnchors : LinkIndex :=
  ofTables [("a", "/a/")] [("a.md.html", [.string "setup"])]

/-- An anchor is found where no page is. -/
theorem not_lookupsAgree_strayAnchors :
    strayAnchors.pageUrl (.plain "a.md.html") = .refuse (.noPage (.plain "a.md.html")) ∧
      strayAnchors.anchorUrl (.plain "a.md.html") (.string "setup") = .ok "/a/#setup" ∧
      ¬strayAnchors.LookupsAgree (.plain "a.md.html") := by
  have noPage : strayAnchors.pageUrl (.plain "a.md.html") =
      .refuse (.noPage (.plain "a.md.html")) := rfl
  have found : strayAnchors.anchorUrl (.plain "a.md.html") (.string "setup") =
      .ok "/a/#setup" := rfl
  refine ⟨noPage, found, fun agree => ?_⟩
  obtain ⟨url, given, -⟩ := agree.ofPage (.plain "setup") _ found
  cases noPage.symm.trans given

end LinkIndex

end LayoutBinding
