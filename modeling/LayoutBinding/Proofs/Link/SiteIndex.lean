import Mathlib.Data.List.Induction
import Mathlib.Data.List.Nodup
import LayoutBinding.Link.Site
import LayoutBinding.Proofs.Link.Lookups

/-!
# The pages of a site in its index

The tables of a site are built under the common spelling of each identifier, and the index
spells the keys of its tables once more.  So the index answers for every page just where
spelling an identifier twice is the same as spelling it once; otherwise a page is out of
reach, or it hides another one.
-/

namespace LayoutBinding

theorem pageUrl_injective {base : String} {trailingSlash : Bool} {first second : String}
    (same : pageUrl base first trailingSlash = pageUrl base second trailingSlash) :
    first = second := by
  have characters := congrArg String.toList same
  unfold pageUrl at characters
  apply String.toList_inj.mp
  by_cases firstRoot : first = ""
  · by_cases secondRoot : second = ""
    · rw [firstRoot, secondRoot]
    · cases trailingSlash <;> simp [firstRoot, secondRoot] at characters
  · by_cases secondRoot : second = ""
    · cases trailingSlash <;> simp [firstRoot, secondRoot] at characters
    · cases trailingSlash <;> simpa [firstRoot, secondRoot] using characters

namespace Page

/-- A text is an anchor of a page if the page states it or declares it in its source. -/
def HasAnchor (page : Page) (anchor : String) : Prop :=
  (∃ stated : Text, .text stated ∈ page.anchors ∧ stated.content = anchor) ∨
    anchor ∈ declaredAnchors page.source

/-- The anchors that a page states, and then those that it declares. -/
def statedAndDeclared (page : Page) : List Value :=
  page.anchors ++ (declaredAnchors page.source).map .string

theorem statedAndDeclared_of_allAnchors {page : Page} {anchors : List Value}
    (given : page.allAnchors = .ok anchors) : anchors = page.statedAndDeclared := by
  unfold allAnchors at given
  split at given
  · cases given
    rfl
  · cases given

end Page

/-! ### Texts among the members of a set -/

namespace Value

theorem isAmong_text_iff {anchor : Text} {members : List Value} :
    isAmong (.text anchor) members = true ↔
      ∃ stated : Text, .text stated ∈ members ∧ stated.content = anchor.content := by
  rw [isAmong, List.any_eq_true]
  constructor
  · rintro ⟨value, member, same⟩
    cases value with
    | text stated =>
        rw [sameMember_text, beq_iff_eq] at same
        exact ⟨stated, member, same.symm⟩
    | _ => cases same
  · rintro ⟨stated, member, same⟩
    exact ⟨.text stated, member, by rw [sameMember_text, same, beq_self_eq_true]⟩

/-- The loop that removes equal members keeps a text with the characters of each text. -/
theorem isAmong_text_loop (anchor : Text) (values kept : List Value) :
    isAmong (.text anchor) (List.eraseDupsBy.loop sameMember values kept) =
      (isAmong (.text anchor) values || isAmong (.text anchor) kept) := by
  induction values generalizing kept with
  | nil => simp [List.eraseDupsBy.loop, isAmong]
  | cons value values ih =>
      rw [List.eraseDupsBy.loop]
      split
      next among =>
        rw [ih]
        -- A text that is left out has the characters of one that has been kept.
        by_cases same : sameMember (.text anchor) value = true
        · cases value with
          | text stated =>
              have kept : isAmong (.text anchor) kept = true := by
                obtain ⟨earlier, member, equal⟩ := isAmong_text_iff.mp among
                rw [sameMember_text, beq_iff_eq] at same
                exact isAmong_text_iff.mpr ⟨earlier, member, equal.trans same.symm⟩
              simp [kept]
          | _ => cases same
        · simp [isAmong, same]
      next =>
        rw [ih]
        simp only [isAmong, List.any_cons]
        cases sameMember (.text anchor) value <;> simp

theorem isAmong_text_distinct {anchor : Text} {values : List Value} :
    isAmong (.text anchor) (distinct values) = isAmong (.text anchor) values := by
  have loop := isAmong_text_loop anchor values []
  rwa [isAmong.eq_def _ [], List.any_nil, Bool.or_false] at loop

end Value

theorem Page.hasAnchor_iff {page : Page} {anchor : Text} :
    page.HasAnchor anchor.content ↔
      Value.isAmong (.text anchor) page.statedAndDeclared = true := by
  rw [Value.isAmong_text_iff, HasAnchor]
  constructor
  · rintro (⟨stated, member, same⟩ | declared)
    · exact ⟨stated, List.mem_append_left _ member, same⟩
    · exact ⟨.plain anchor.content,
        List.mem_append_right _ (List.mem_map_of_mem declared), rfl⟩
  · rintro ⟨stated, member, same⟩
    rcases List.mem_append.mp member with member | declared
    · exact .inl ⟨stated, member, same⟩
    · obtain ⟨name, named, given⟩ := List.mem_map.mp declared
      obtain rfl : Text.plain name = stated := Value.text.inj given
      exact .inr (same ▸ named)

namespace LinkIndex

/-! ### Tables under the common spelling -/

section Normalized

variable {α : Type} {entries : List (String × α)}

theorem normalized_eq_self (distinct : (Entries.keys entries).Nodup)
    (fixed : ∀ key ∈ Entries.keys entries, normalizeId key = key) :
    normalized entries = entries := by
  have general (before after : List (String × α)) (whole : before ++ after = entries) :
      after.foldl (fun acc entry => Entries.put acc (normalizeId entry.1) entry.2) before =
        entries := by
    induction after generalizing before with
    | nil => simpa using whole
    | cons entry after ih =>
        have key : entry.1 ∈ Entries.keys entries := by
          rw [← whole]
          simp [Entries.keys]
        have absent : entry.1 ∉ Entries.keys before := by
          rw [← whole, Entries.keys, List.map_append, List.map_cons] at distinct
          intro earlier
          exact (List.nodup_append.mp distinct).2.2 _ earlier _ List.mem_cons_self rfl
        rw [List.foldl_cons, fixed entry.1 key, Entries.put_of_notMem absent]
        apply ih
        rw [List.append_assoc, List.singleton_append, whole]
  exact general [] entries rfl

theorem exists_of_get?_normalized {key : String} {value : α}
    (found : Entries.get? (normalized entries) key = some value) :
    ∃ entry ∈ entries, normalizeId entry.1 = key ∧ entry.2 = value := by
  have general (before : List (String × α)) (after : List (String × α))
      (found : Entries.get? (after.foldl
        (fun acc entry => Entries.put acc (normalizeId entry.1) entry.2) before) key =
          some value) :
      Entries.get? before key = some value ∨
        ∃ entry ∈ after, normalizeId entry.1 = key ∧ entry.2 = value := by
    induction after generalizing before with
    | nil => exact .inl found
    | cons entry after ih =>
        rcases ih _ found with earlier | ⟨later, member, same⟩
        · dsimp only at earlier
          by_cases same : normalizeId entry.1 = key
          · rw [same, Entries.get?_put_self] at earlier
            exact .inr ⟨entry, List.mem_cons_self, same, Option.some.inj earlier⟩
          · rw [Entries.get?_put_of_ne _ _ same] at earlier
            exact .inl earlier
        · exact .inr ⟨later, List.mem_cons_of_mem entry member, same⟩
  rcases general [] entries found with nothing | given
  · cases nothing
  · exact given

/-- A value is found if it is the only one under the keys with a spelling. -/
theorem get?_normalized {key : String} {value : α}
    (given : ∃ entry ∈ entries, normalizeId entry.1 = key)
    (only : ∀ entry ∈ entries, normalizeId entry.1 = key → entry.2 = value) :
    Entries.get? (normalized entries) key = some value := by
  induction entries using List.reverseRecOn with
  | nil => simp at given
  | append_singleton entries last ih =>
      have put : normalized (entries ++ [last]) =
          Entries.put (normalized entries) (normalizeId last.1) last.2 := by
        rw [normalized, List.foldl_append]
        rfl
      rw [put]
      by_cases same : normalizeId last.1 = key
      · rw [same, Entries.get?_put_self, only last List.mem_concat_self same]
      · rw [Entries.get?_put_of_ne _ _ same]
        apply ih
        · obtain ⟨entry, member, spelled⟩ := given
          rcases List.mem_append.mp member with earlier | isLast
          · exact ⟨entry, earlier, spelled⟩
          · exact absurd (List.mem_singleton.mp isLast ▸ spelled) same
        · exact fun entry member => only entry (List.mem_append_left _ member)

end Normalized

/-! ### Adding pages -/

variable {base : String} {trailingSlash : Bool}

/-- The address of a page under its own identifier. -/
def addressOf (base : String) (trailingSlash : Bool) (page : Page) : String :=
  LayoutBinding.pageUrl base (normalizeId page.path) trailingSlash

/-- The tables hold each page once, under the common spelling of its identifier. -/
structure Lists (index : LinkIndex) (base : String) (trailingSlash : Bool)
    (pages : List Page) : Prop where
  urls : index.urls = pages.map fun page =>
    (normalizeId page.path, addressOf base trailingSlash page)
  anchors : index.anchors = pages.map fun page =>
    (normalizeId page.path, page.statedAndDeclared)
  distinct : (pages.map fun page => normalizeId page.path).Nodup

section Keys

variable {index : LinkIndex} {pages : List Page} (lists : index.Lists base trailingSlash pages)

include lists

theorem Lists.keys_urls :
    Entries.keys index.urls = pages.map fun page => normalizeId page.path := by
  simp [lists.urls, Entries.keys]

theorem Lists.keys_anchors :
    Entries.keys index.anchors = pages.map fun page => normalizeId page.path := by
  simp [lists.anchors, Entries.keys]

end Keys

theorem Lists.addPage {index result : LinkIndex} {pages : List Page} {page : Page}
    (lists : index.Lists base trailingSlash pages)
    (added : addPage base trailingSlash index page = .ok result) :
    result.Lists base trailingSlash (pages ++ [page]) := by
  simp only [LinkIndex.addPage] at added
  split at added
  · cases added
  next absent =>
    obtain ⟨anchors, given, added⟩ := bind_eq_ok_iff.mp added
    obtain rfl := Page.statedAndDeclared_of_allAnchors given
    cases added
    have new : normalizeId page.path ∉ pages.map fun page => normalizeId page.path := by
      rwa [Entries.contains_iff, lists.keys_urls] at absent
    refine ⟨?_, ?_, ?_⟩
    · rw [Entries.put_of_notMem (lists.keys_urls ▸ new), lists.urls, List.map_append]
      rfl
    · dsimp only
      rw [Entries.put_of_notMem (lists.keys_anchors ▸ new), lists.anchors, List.map_append]
      rfl
    · rw [List.map_append]
      exact lists.distinct.append (by simp) (by simpa using new)

theorem Lists.foldlM {index result : LinkIndex} {before after : List Page}
    (lists : index.Lists base trailingSlash before)
    (added : after.foldlM (LinkIndex.addPage base trailingSlash) index = .ok result) :
    result.Lists base trailingSlash (before ++ after) := by
  induction after generalizing index before with
  | nil =>
      cases added
      rwa [List.append_nil]
  | cons page after ih =>
      rw [List.foldlM_cons] at added
      obtain ⟨next, first, others⟩ := bind_eq_ok_iff.mp added
      rw [List.append_cons]
      exact ih (lists.addPage first) others

/-- The index of a site is made of tables that hold each page once. -/
theorem exists_of_ofPages {pages : List Page} {index : LinkIndex}
    (built : ofPages base trailingSlash pages = .ok index) :
    ∃ tables : LinkIndex, tables.Lists base trailingSlash (Page.allVisited pages) ∧
      index = ofTables tables.urls tables.anchors := by
  obtain ⟨tables, added, made⟩ := bind_eq_ok_iff.mp built
  cases made
  have nothing : Lists ⟨[], []⟩ base trailingSlash [] := ⟨rfl, rfl, List.nodup_nil⟩
  exact ⟨tables, nothing.foldlM added, rfl⟩

/-! ### What the index answers -/

/-- The index answers for all pages: each is in it under its own address, and each of its
anchors, and no other text, leads to a place of the page. -/
structure Serves (index : LinkIndex) (base : String) (trailingSlash : Bool)
    (pages : List Page) : Prop where
  size : index.size = pages.length
  contains : ∀ page ∈ pages, index.contains page.path = true
  pageUrl : ∀ page ∈ pages,
    index.pageUrl (.plain page.path) = .ok (addressOf base trailingSlash page)
  distinct : (pages.map fun page => index.pageUrl (.plain page.path)).Nodup
  anchorUrl : ∀ page ∈ pages, ∀ anchor : Text, page.HasAnchor anchor.content →
    index.anchorUrl (.plain page.path) (.text anchor) =
      .ok (addressOf base trailingSlash page ++ "#" ++ anchor.content)
  noAnchor : ∀ page ∈ pages, ∀ anchor : Text, ¬page.HasAnchor anchor.content →
    index.anchorUrl (.plain page.path) (.text anchor) =
      .refuse (.noAnchor (.plain (normalizeId page.path)) anchor.quoted)

/-- The identifier of a page keeps its place in a table whose keys are spelled once more: the
page stays there, and no other page comes there. -/
def KeepsPlace (pages : List Page) (page : Page) : Prop :=
  ∀ other ∈ pages,
    normalizeId (normalizeId other.path) = normalizeId page.path ↔
      normalizeId other.path = normalizeId page.path

section Placed

variable {tables : LinkIndex} {pages : List Page} {page : Page}
  (lists : tables.Lists base trailingSlash pages) (member : page ∈ pages)
  (place : KeepsPlace pages page)

include lists member place

theorem get?_urls :
    Entries.get? (ofTables tables.urls tables.anchors).urls (normalizeId page.path) =
      some (addressOf base trailingSlash page) := by
  apply get?_normalized
  · rw [lists.urls]
    exact ⟨_, List.mem_map.mpr ⟨page, member, rfl⟩, (place page member).mpr rfl⟩
  · rw [lists.urls]
    intro entry given spelled
    obtain ⟨other, among, rfl⟩ := List.mem_map.mp given
    dsimp only at spelled ⊢
    rw [addressOf, addressOf, (place other among).mp spelled]

theorem anchorsOf_ofTables :
    (ofTables tables.urls tables.anchors).anchorsOf (normalizeId page.path) =
      Value.distinct page.statedAndDeclared := by
  have found : Entries.get? (normalized tables.anchors) (normalizeId page.path) =
      some page.statedAndDeclared := by
    apply get?_normalized
    · rw [lists.anchors]
      exact ⟨_, List.mem_map.mpr ⟨page, member, rfl⟩, (place page member).mpr rfl⟩
    · rw [lists.anchors]
      intro entry given spelled
      obtain ⟨other, among, rfl⟩ := List.mem_map.mp given
      have same : normalizeId other.path = normalizeId page.path := (place other among).mp spelled
      rw [List.inj_on_of_nodup_map lists.distinct among member same]
  rw [anchorsOf, ofTables, Entries.get?_map, found]
  rfl

theorem pageUrl_ofTables :
    (ofTables tables.urls tables.anchors).pageUrl (.plain page.path) =
      .ok (addressOf base trailingSlash page) :=
  pageUrl_eq_ok_iff.mpr (get?_urls lists member place)

theorem anchorUrl_ofTables (anchor : Text) :
    (ofTables tables.urls tables.anchors).anchorUrl (.plain page.path) (.text anchor) =
      if Value.isAmong (.text anchor) page.statedAndDeclared then
        .ok (addressOf base trailingSlash page ++ "#" ++ anchor.content)
      else
        .refuse (.noAnchor (.plain (normalizeId page.path)) anchor.quoted) := by
  have twice : normalizeId (normalizeId page.path) = normalizeId page.path :=
    (place page member).mpr rfl
  have content : (Text.plain page.path).content = page.path := rfl
  rw [anchorUrl_text, content, twice, get?_urls lists member place,
    anchorsOf_ofTables lists member place, Value.isAmong_text_distinct, Text.normalizedId_plain]

end Placed

section Fixed

variable {tables : LinkIndex} {pages : List Page}
  (lists : tables.Lists base trailingSlash pages)
  (fixed : ∀ page ∈ pages, normalizeId (normalizeId page.path) = normalizeId page.path)

include fixed

theorem keepsPlace_of_fixed (page : Page) : KeepsPlace pages page := fun other member => by
  rw [fixed other member]

include lists

theorem ofTables_urls : (ofTables tables.urls tables.anchors).urls = tables.urls := by
  apply normalized_eq_self
  · rw [lists.keys_urls]
    exact lists.distinct
  · rw [lists.keys_urls]
    intro key member
    obtain ⟨page, among, rfl⟩ := List.mem_map.mp member
    exact fixed page among

theorem serves_ofTables :
    (ofTables tables.urls tables.anchors).Serves base trailingSlash pages where
  size := by
    rw [size, ofTables_urls lists fixed, lists.urls, List.length_map]
  contains page member := by
    rw [contains, Entries.contains, get?_urls lists member (keepsPlace_of_fixed fixed page)]
    rfl
  pageUrl page member := pageUrl_ofTables lists member (keepsPlace_of_fixed fixed page)
  distinct := by
    rw [List.map_congr_left fun page member =>
      pageUrl_ofTables lists member (keepsPlace_of_fixed fixed page)]
    have injective : Function.Injective fun id =>
        (.ok (LayoutBinding.pageUrl base id trailingSlash) : Outcome String) :=
      fun _ _ same => pageUrl_injective (Except.ok.inj same)
    have mapped := lists.distinct.map injective
    rwa [List.map_map] at mapped
  anchorUrl page member anchor has := by
    rw [anchorUrl_ofTables lists member (keepsPlace_of_fixed fixed page),
      if_pos (Page.hasAnchor_iff.mp has)]
  noAnchor page member anchor other := by
    rw [anchorUrl_ofTables lists member (keepsPlace_of_fixed fixed page),
      if_neg (mt Page.hasAnchor_iff.mpr other)]

end Fixed

/-- The index of a site answers for all its pages just where spelling their identifiers
twice is the same as spelling them once. -/
theorem ofPages_serves_iff {pages : List Page} {index : LinkIndex}
    (built : ofPages base trailingSlash pages = .ok index) :
    index.Serves base trailingSlash (Page.allVisited pages) ↔
      ∀ page ∈ Page.allVisited pages,
        normalizeId (normalizeId page.path) = normalizeId page.path := by
  obtain ⟨tables, lists, rfl⟩ := exists_of_ofPages built
  constructor
  · intro serves page member
    -- The address of the page is found, so its table entry was put in by this page.
    have address := serves.pageUrl page member
    rw [pageUrl] at address
    split at address
    next url found =>
      obtain ⟨entry, given, spelled, same⟩ := exists_of_get?_normalized found
      rw [lists.urls] at given
      obtain ⟨other, -, rfl⟩ := List.mem_map.mp given
      dsimp only at spelled same
      have equal : addressOf base trailingSlash other = addressOf base trailingSlash page :=
        same.trans (Except.ok.inj address)
      have own : normalizeId other.path = normalizeId page.path := pageUrl_injective equal
      rw [← own]
      exact spelled.trans own.symm
    next => cases address
  · exact serves_ofTables lists

/-- A page with a stated and a declared anchor. -/
def guidePage (path : String) (children : List Page) : Page where
  path := path
  title := .absent
  date := .absent
  author := .absent
  tags := []
  layout := .absent
  params := []
  anchors := [.string "top"]
  source := "$section.id('setup')"
  body := ""
  children := children

/-- A page for each sort of path that is spelled in another way in the index. -/
def guide : List Page :=
  [guidePage "index" [guidePage "guide/index.md" [], guidePage " a.html" []]]

theorem ofPages_serves_guide :
    ∃ index, ofPages "/docs" true guide = .ok index ∧
      index.Serves "/docs" true (Page.allVisited guide) :=
  ⟨_, rfl, (ofPages_serves_iff rfl).mpr (by decide +kernel)⟩

/-- Of two pages whose identifiers become equal when they are spelled once more, the first
one is lost. -/
theorem ofPages_loses_page :
    ∃ index, ofPages "/" true [guidePage "a.md.html" [], guidePage "a.html" []] = .ok index ∧
      index.size = 1 ∧
      ¬index.Serves "/" true (Page.allVisited [guidePage "a.md.html" [], guidePage "a.html" []]) :=
  ⟨_, rfl, rfl, fun serves => absurd serves.size (by decide +kernel)⟩

end LinkIndex

end LayoutBinding
