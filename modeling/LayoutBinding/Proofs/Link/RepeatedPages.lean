import LayoutBinding.Proofs.Link.SiteIndex
import LayoutBinding.Proofs.Page.Walk

/-!
# Pages with one identifier

The index of a site is built while the forest of its pages is walked.  The walk stops at the
first page with the identifier of a page that it has met before; if there is none, it meets every
page once.
-/

namespace LayoutBinding

namespace Page

/-- The page at a position has the identifier of a page at an earlier one. -/
structure RepeatsAt (pages : List Page) (position : List Nat) (page : Page) : Prop where
  stands : at? pages position = some page
  before : ∃ earlier other, earlier < position ∧ at? pages earlier = some other ∧
    normalizeId other.path = normalizeId page.path

/-- The first page in document order with the identifier of a page before it. -/
def IsFirstRepeat (pages : List Page) (page : Page) : Prop :=
  ∃ position, RepeatsAt pages position page ∧
    ∀ earlier other, earlier < position → ¬RepeatsAt pages earlier other

/-- Pages at two positions have the same identifier. -/
def ShareIdentifier (pages : List Page) : Prop :=
  ∃ first second one two, first ≠ second ∧ at? pages first = some one ∧
    at? pages second = some two ∧ normalizeId one.path = normalizeId two.path

section

variable {pages : List Page}

theorem shareIdentifier_iff :
    ShareIdentifier pages ↔ ∃ position page, RepeatsAt pages position page := by
  constructor
  · rintro ⟨first, second, one, two, different, standsFirst, standsSecond, same⟩
    by_cases before : first < second
    · exact ⟨second, two, standsSecond, first, one, before, standsFirst, same⟩
    · have behind : second < first := by
        by_contra notBehind
        exact different (List.le_antisymm (List.not_lt.mp notBehind) (List.not_lt.mp before))
      exact ⟨first, one, standsFirst, second, two, behind, standsSecond, same.symm⟩
  · rintro ⟨position, page, stands, earlier, other, before, standsEarlier, same⟩
    have different : earlier ≠ position := fun equal => List.lt_irrefl _ (equal ▸ before)
    exact ⟨earlier, position, other, page, different, standsEarlier, stands, same⟩

theorem IsFirstRepeat.unique {page other : Page} (first : IsFirstRepeat pages page)
    (second : IsFirstRepeat pages other) : page = other := by
  obtain ⟨position, repeats, least⟩ := first
  obtain ⟨place, repeated, lowest⟩ := second
  have same : position = place :=
    List.le_antisymm (List.not_lt.mp fun before => least place other before repeated)
      (List.not_lt.mp fun before => lowest position page before repeats)
  exact Option.some.inj (repeats.stands.symm.trans (same ▸ repeated.stands))

end

def identifiers (visits : List (List Nat × Page)) : List String :=
  visits.map fun visit => normalizeId visit.2.path

namespace IsDocumentOrder

variable {pages : List Page} {front back : List (List Nat × Page)} {position : List Nat}
  {page : Page} (order : IsDocumentOrder pages (front ++ (position, page) :: back))

include order

theorem repeatsAt_iff :
    RepeatsAt pages position page ↔ normalizeId page.path ∈ identifiers front := by
  have stands : at? pages position = some page :=
    (order.mem_iff _ _).mp (List.mem_append_right _ List.mem_cons_self)
  rw [identifiers, List.mem_map]
  constructor
  · rintro ⟨-, earlier, other, before, standsEarlier, same⟩
    exact ⟨(earlier, other), order.mem_front_iff.mpr ⟨before, standsEarlier⟩, same⟩
  · rintro ⟨⟨earlier, other⟩, member, same⟩
    obtain ⟨before, standsEarlier⟩ := order.mem_front_iff.mp member
    exact ⟨stands, earlier, other, before, standsEarlier, same⟩

theorem isFirstRepeat (distinct : (identifiers front).Nodup)
    (repeated : normalizeId page.path ∈ identifiers front) : IsFirstRepeat pages page := by
  refine ⟨position, order.repeatsAt_iff.mpr repeated, fun earlier other before repeats => ?_⟩
  have member := order.mem_front_iff.mpr ⟨before, repeats.stands⟩
  obtain ⟨outer, inner, rfl⟩ := List.append_of_mem member
  rw [List.append_assoc, List.cons_append] at order
  have among := order.repeatsAt_iff.mp repeats
  rw [identifiers, List.map_append, List.map_cons] at distinct
  exact (List.nodup_append.mp distinct).2.2 _ among _ List.mem_cons_self rfl

end IsDocumentOrder

theorem RepeatsAt.not_nodup {pages : List Page} {visits : List (List Nat × Page)}
    {position : List Nat} {page : Page} (repeats : RepeatsAt pages position page)
    (order : IsDocumentOrder pages visits) : ¬(identifiers visits).Nodup := by
  intro distinct
  have member := (order.mem_iff position page).mpr repeats.stands
  obtain ⟨front, back, rfl⟩ := List.append_of_mem member
  rw [identifiers, List.map_append, List.map_cons] at distinct
  exact (List.nodup_append.mp distinct).2.2 _ (order.repeatsAt_iff.mp repeats) _
    List.mem_cons_self rfl

end Page

namespace LinkIndex

variable {base : String} {trailingSlash : Bool}

/-! ### Adding pages -/

section Step

variable {index : LinkIndex} {before : List Page} {page : Page}
  (lists : index.Lists base trailingSlash before)

include lists

theorem Lists.addPage_of_mem
    (seen : normalizeId page.path ∈ before.map fun page => normalizeId page.path) :
    LinkIndex.addPage base trailingSlash index page =
      .stop (.duplicatePage (normalizeId page.path) page.path) := by
  rw [← lists.keys_urls, ← Entries.contains_iff] at seen
  exact if_pos seen

theorem Lists.exists_addPage
    (new : normalizeId page.path ∉ before.map fun page => normalizeId page.path)
    (members : Value.areMembers page.anchors = true) :
    ∃ next, LinkIndex.addPage base trailingSlash index page = .ok next ∧
      next.Lists base trailingSlash (before ++ [page]) := by
  have anchors : page.allAnchors = .ok page.statedAndDeclared := if_pos members
  rw [← lists.keys_urls, ← Entries.contains_iff] at new
  obtain ⟨next, added⟩ : ∃ next, LinkIndex.addPage base trailingSlash index page = .ok next := by
    rw [LinkIndex.addPage, if_neg new, anchors]
    exact ⟨_, rfl⟩
  exact ⟨next, added, lists.addPage added⟩

end Step

/-- Pages are added up to the first one with an identifier that has been met. -/
theorem Lists.foldlM_cases {index : LinkIndex} {before after : List Page}
    (lists : index.Lists base trailingSlash before)
    (members : ∀ page ∈ after, Value.areMembers page.anchors = true) :
    (∃ tables, after.foldlM (LinkIndex.addPage base trailingSlash) index = .ok tables ∧
      tables.Lists base trailingSlash (before ++ after)) ∨
    ∃ front page back, after = front ++ page :: back ∧
      ((before ++ front).map fun page => normalizeId page.path).Nodup ∧
      (normalizeId page.path ∈ (before ++ front).map fun page => normalizeId page.path) ∧
      after.foldlM (LinkIndex.addPage base trailingSlash) index =
        .stop (.duplicatePage (normalizeId page.path) page.path) := by
  -- The tables list what has been added, so that the next page moves from `after` to `before`.
  induction after generalizing index before with
  | nil => exact .inl ⟨index, rfl, by rwa [List.append_nil]⟩
  | cons page after ih =>
      rw [List.foldlM_cons]
      by_cases seen : normalizeId page.path ∈ before.map fun page => normalizeId page.path
      · refine .inr ⟨[], page, after, rfl, ?_, ?_, ?_⟩
        · rw [List.append_nil]
          exact lists.distinct
        · rwa [List.append_nil]
        · rw [lists.addPage_of_mem seen]
          rfl
      · obtain ⟨next, added, listsNext⟩ :=
          lists.exists_addPage seen (members page List.mem_cons_self)
        rw [added]
        have others := ih listsNext fun other member => members other (List.mem_cons_of_mem page member)
        rw [List.append_assoc] at others
        rcases others with finished | ⟨front, other, back, rfl, distinct, repeated, stopped⟩
        · exact .inl finished
        · refine .inr ⟨page :: front, other, back, rfl, ?_, ?_, stopped⟩
          · rwa [List.append_assoc] at distinct
          · rwa [List.append_assoc] at repeated

/-- The index of a site is built while its pages are walked with a stack. -/
theorem ofPages_eq_walk (base : String) (trailingSlash : Bool) (pages : List Page) :
    ofPages base trailingSlash pages =
      (fun tables => ofTables tables.urls tables.anchors) <$>
        Page.walk (addPage base trailingSlash) ⟨[], []⟩ pages := by
  rw [Page.walk_eq_foldlM]
  rfl

/-- Either the walk adds all the pages of a forest, or it stops at the first page with the
identifier of a page before it. -/
theorem walk_addPage_cases (base : String) (trailingSlash : Bool) {pages : List Page}
    {visits : List (List Nat × Page)} (order : Page.IsDocumentOrder pages visits)
    (visited : visits.map Prod.snd = Page.allVisited pages)
    (members : ∀ page ∈ Page.allVisited pages, Value.areMembers page.anchors = true) :
    (¬Page.ShareIdentifier pages ∧
      ∃ tables, Page.walk (addPage base trailingSlash) ⟨[], []⟩ pages = .ok tables ∧
        tables.Lists base trailingSlash (visits.map Prod.snd)) ∨
    ∃ page, Page.IsFirstRepeat pages page ∧
      Page.walk (addPage base trailingSlash) ⟨[], []⟩ pages =
        .stop (.duplicatePage (normalizeId page.path) page.path) := by
  have nothing : Lists ⟨[], []⟩ base trailingSlash [] := ⟨rfl, rfl, List.nodup_nil⟩
  have added := nothing.foldlM_cases members
  rw [← Page.walk_eq_foldlM, ← visited] at added
  rcases added with ⟨tables, walked, lists⟩ | ⟨front, page, back, split, distinct, repeated, stopped⟩
  · rw [List.nil_append] at lists
    refine .inl ⟨fun shares => ?_, tables, walked, lists⟩
    obtain ⟨position, page, repeats⟩ := Page.shareIdentifier_iff.mp shares
    refine repeats.not_nodup order ?_
    have distinct := lists.distinct
    rwa [List.map_map] at distinct
  · obtain ⟨visitsBefore, others, rfl, rfl, rest⟩ := List.map_eq_append_iff.mp split
    obtain ⟨⟨position, same⟩, visitsAfter, rfl, rfl, rfl⟩ := List.map_eq_cons_iff.mp rest
    rw [List.nil_append, List.map_map] at distinct repeated
    exact .inr ⟨same, order.isFirstRepeat distinct repeated, stopped⟩

/-- Building the index of a site walks its pages with a stack: every page is visited once, in
document order, as long as the walk goes on.  It stops just if pages at two positions have one
identifier, and then at the first page with the identifier of an earlier one. -/
theorem ofPages_reports_repeats {pages : List Page}
    (members : ∀ page ∈ Page.allVisited pages, Value.areMembers page.anchors = true) :
    ∃ visits, Page.IsDocumentOrder pages visits ∧
      (∀ (σ : Type) (visit : σ → Page → Outcome σ) (state : σ),
        Page.walk visit state pages = (visits.map Prod.snd).foldlM visit state) ∧
      ofPages base trailingSlash pages =
        (fun tables => ofTables tables.urls tables.anchors) <$>
          Page.walk (addPage base trailingSlash) ⟨[], []⟩ pages ∧
      ((∃ failure, ofPages base trailingSlash pages = .error failure) ↔
        Page.ShareIdentifier pages) ∧
      (∀ failure, ofPages base trailingSlash pages = .error failure ↔
        ∃ page, Page.IsFirstRepeat pages page ∧
          failure = .fault (.duplicatePage (normalizeId page.path) page.path)) ∧
      (¬Page.ShareIdentifier pages →
        ∃ tables, Page.walk (addPage base trailingSlash) ⟨[], []⟩ pages = .ok tables ∧
          tables.Lists base trailingSlash (visits.map Prod.snd)) := by
  obtain ⟨visits, order, visited⟩ := Page.exists_isDocumentOrder pages
  refine ⟨visits, order, fun σ visit state => ?_, ofPages_eq_walk base trailingSlash pages, ?_⟩
  · rw [visited, Page.walk_eq_foldlM]
  rw [ofPages_eq_walk]
  simp only [map_eq_error_iff]
  rcases walk_addPage_cases base trailingSlash order visited members with
    ⟨differ, tables, walked, lists⟩ | ⟨page, first, stopped⟩
  · have noRepeat {page : Page} (first : Page.IsFirstRepeat pages page) : False := by
      obtain ⟨position, repeats, -⟩ := first
      exact differ (Page.shareIdentifier_iff.mpr ⟨position, page, repeats⟩)
    rw [walked]
    refine ⟨iff_of_false nofun differ, fun failure => iff_of_false nofun ?_, fun _ =>
      ⟨tables, rfl, lists⟩⟩
    rintro ⟨page, first, -⟩
    exact noRepeat first
  · have shares : Page.ShareIdentifier pages := by
      obtain ⟨position, repeats, -⟩ := first
      exact Page.shareIdentifier_iff.mpr ⟨position, page, repeats⟩
    rw [stopped]
    refine ⟨iff_of_true ⟨_, rfl⟩ shares, fun failure => ?_, fun differ => absurd shares differ⟩
    constructor
    · rintro ⟨⟩
      exact ⟨page, first, rfl⟩
    · rintro ⟨other, second, rfl⟩
      rw [first.unique second]
      rfl

/-- A site whose last page has the identifier of a page below the first one. -/
def doubledGuide : List Page :=
  [guidePage "index" [guidePage "a.md" [], guidePage "b" []], guidePage "/a/" []]

theorem ofPages_reports_repeats_doubledGuide :
    (∀ page ∈ Page.allVisited doubledGuide, Value.areMembers page.anchors = true) ∧
      ofPages "/docs" true doubledGuide = .stop (.duplicatePage "a" "/a/") ∧
      Page.ShareIdentifier doubledGuide ∧
      ∃ page, Page.IsFirstRepeat doubledGuide page ∧ page.path = "/a/" := by
  have members : ∀ page ∈ Page.allVisited doubledGuide,
      Value.areMembers page.anchors = true := by decide +kernel
  have stopped : ofPages "/docs" true doubledGuide = .stop (.duplicatePage "a" "/a/") := rfl
  obtain ⟨-, -, -, -, shares, reported, -⟩ := ofPages_reports_repeats members
  obtain ⟨page, first, same⟩ := (reported _).mp stopped
  refine ⟨members, stopped, shares.mp ⟨_, stopped⟩, page, first, ?_⟩
  injection same with fault
  injection fault with id path
  exact path.symm

end LinkIndex

end LayoutBinding
