import LayoutBinding.Proofs.Template.Filling
import LayoutBinding.Proofs.Template.Outline
import LayoutBinding.Proofs.Template.RebuiltTag

/-!
# Start tags that come back

A start tag that is written out, as it was or anew, is read again as a tag of the same name
that stays open or not as before.  The exceptions are a tag whose slash is lost although its
element is not void, a name that is taken for a value, and a quote that is not closed.
-/

namespace LayoutBinding

namespace StartTag

/-- The text is read as a tag of the same name that stays open or not in the same way. -/
def Returns (tag : StartTag) (written : List Char) : Prop :=
  ∀ tail, ∃ again : StartTag, again.IsReadFrom (written ++ tail) ∧ again.raw.toList = written ∧
    again.name = tag.name ∧ again.opens = tag.opens

/-- Whether a tag comes back after it has been written out. -/
def isStable (tag : StartTag) : Bool :=
  if tag.attributes.any Renderer.changesTag then
    (!tag.selfClosing || isVoidName tag.name) && decide (tag.attributes.IsChain Attribute.Apart)
  else
    (attributesOf tag.raw.toList).1.all Written.isClosed

variable {tag : StartTag} {cs written : List Char}

theorem Returns.exists_cons (returns : tag.Returns written) :
    ∃ c body, written = '<' :: c :: body ∧ c.isAlpha = true := by
  obtain ⟨again, ⟨-, c, body, whole, letter⟩, -⟩ := returns []
  exact ⟨c, body, List.append_nil written ▸ whole, letter⟩

theorem IsReadFrom.exists_raw (found : tag.IsReadFrom cs) :
    ∃ c body, tag.raw.toList = '<' :: c :: body ∧ c.isAlpha = true := by
  obtain ⟨read, c, body, rfl, letter⟩ := found
  obtain ⟨front, tail, selfClosing, attributes, whole, stops, -, made⟩ := read_eq_tag_iff.mp read
  have raw : tag.raw.toList = front ++ stop selfClosing := by
    rw [made]
    exact String.toList_ofList
  rw [whole] at stops
  obtain ⟨d, front, rfl⟩ := exists_cons_of_attributesOf stops
  obtain ⟨rfl, behind⟩ := List.cons.inj whole
  cases front with
  | nil =>
      obtain rfl | rfl : c = '/' ∨ c = '>' := by
        cases selfClosing
        · exact .inr (List.cons.inj behind).1
        · exact .inl (List.cons.inj behind).1
      · cases letter
      · cases letter
  | cons e front =>
      obtain ⟨rfl, -⟩ := List.cons.inj behind
      exact ⟨c, _, raw, letter⟩

theorem returns_raw (found : tag.IsReadFrom cs)
    (closed : (attributesOf tag.raw.toList).1.all Written.isClosed = true) :
    tag.Returns tag.raw.toList := by
  have alone : read tag.raw.toList = .tag tag := by
    obtain ⟨tail, -, again⟩ := read_replace found.1
    have nothing := again [] (.inl fun _ _ member => nomatch member)
    rwa [List.append_nil] at nothing
  obtain ⟨tail, -, again⟩ := read_replace alone
  obtain ⟨c, body, raw, letter⟩ := found.exists_raw
  intro tail
  refine ⟨tag, ⟨again tail (.inr (List.all_eq_true.mp closed)), c, body ++ tail, ?_, letter⟩, rfl,
    rfl, rfl⟩
  rw [raw, List.cons_append, List.cons_append]

theorem returns_madeText (spelled : tag.IsSpelled)
    (starts : ∃ c name, tag.writtenName.toList = c :: name ∧ c.isAlpha = true)
    (apart : tag.attributes.IsChain Attribute.Apart)
    (keeps : tag.selfClosing = true → isVoidName tag.name = true) :
    tag.Returns tag.madeText.toList := by
  obtain ⟨-, c, body, raw, letter⟩ := isReadFrom_madeText spelled starts apart
  intro tail
  refine ⟨_, ⟨read_madeText spelled (spelled.isChain_spellings apart) tail, c, body ++ tail, ?_,
    letter⟩, rfl, rfl, ?_⟩
  · rw [raw, List.cons_append, List.cons_append]
  · unfold opens
    cases slash : tag.selfClosing with
    | false => rfl
    | true => rw [keeps slash, Bool.true_and]

theorem Returns.of_same {other : StartTag} (returns : other.Returns written)
    (name : other.name = tag.name) (opens : other.opens = tag.opens) : tag.Returns written := by
  intro tail
  obtain ⟨again, found, raw, sameName, sameOpens⟩ := returns tail
  exact ⟨again, found, raw, sameName.trans name, sameOpens.trans opens⟩

end StartTag

namespace Renderer

variable (r : Renderer) {context : Context}

theorem exists_filled {writtenName text : String} {a : Attribute} (kept : a.isKept = true)
    (shown : r.attributeText context writtenName a = .ok text) :
    ∃ b, r.filled context a = .ok b := by
  have asked : Directive.ofName? a.name = none := by simpa [Attribute.isKept] using kept
  unfold filled
  split
  next => exact ⟨a, rfl⟩
  next value given =>
    split
    next mayHold =>
      rw [r.attributeText_of_some context writtenName asked given, if_pos mayHold] at shown
      obtain ⟨content, evaluated, -⟩ := map_eq_ok_iff.mp shown
      exact ⟨⟨a.name, some content⟩, map_eq_ok_iff.mpr ⟨content, evaluated, rfl⟩⟩
    next => exact ⟨a, rfl⟩

theorem exists_mapM_filled {pairs : List (String × Attribute)} {parts : List String}
    (kept : ∀ pair ∈ pairs, pair.2.isKept = true)
    (shown : pairs.mapM (fun pair => r.attributeText context pair.1 pair.2) = .ok parts) :
    ∃ filled, (pairs.map Prod.snd).mapM (r.filled context) = .ok filled := by
  induction pairs generalizing parts with
  | nil => exact ⟨[], rfl⟩
  | cons pair pairs ih =>
      obtain ⟨first, kept⟩ := List.forall_mem_cons.mp kept
      obtain ⟨text, texts, one, others, -⟩ := mapM_cons_eq_ok_iff.mp shown
      obtain ⟨b, evaluated⟩ := r.exists_filled first one
      obtain ⟨filled, rest⟩ := ih kept others
      exact ⟨b :: filled, mapM_cons_eq_ok_iff.mpr ⟨b, filled, evaluated, rest, rfl⟩⟩

/-- A stable tag without directives comes back from what it is rendered to. -/
theorem returns_of_startTag {e : Element} {cs : List Char} {text : String}
    (found : e.start.IsReadFrom cs)
    (noDirectives : ∀ a ∈ e.start.attributes, Directive.ofName? a.name = none)
    (stable : e.start.isStable = true) (rendered : r.startTag context e = .ok text) :
    e.start.Returns text.toList := by
  have spelled := StartTag.isSpelled_of_read found.1
  rw [StartTag.isStable] at stable
  cases changed : e.start.attributes.any changesTag with
  | false =>
      rw [changed, if_neg Bool.false_ne_true] at stable
      obtain ⟨c, body, raw, -⟩ := found.exists_raw
      have given : e.start.raw ≠ "" := by
        intro nothing
        rw [nothing] at raw
        cases raw
      rw [startTag, changed] at rendered
      dsimp only at rendered
      rw [if_neg (by simp [given])] at rendered
      obtain rfl : e.start.raw = text := Except.ok.inj rendered
      exact StartTag.returns_raw found stable
  | true =>
      rw [changed, if_pos rfl, Bool.and_eq_true, Bool.or_eq_true, Bool.not_eq_true'] at stable
      obtain ⟨slash, apart⟩ := stable
      have kept : ∀ a ∈ e.start.attributes, a.isKept = true := fun a member => by
        rw [Attribute.isKept, noDirectives a member]
        rfl
      have all : e.start.keptAttributes = e.start.attributes := List.filter_eq_self.mpr kept
      obtain ⟨filled, evaluated⟩ : ∃ filled,
          e.start.keptAttributes.mapM (r.filled context) = .ok filled := by
        rw [r.startTag_eq_of_changed context e (by rw [changed, Bool.true_or])] at rendered
        obtain ⟨_, joined, -⟩ := map_eq_ok_iff.mp rendered
        obtain ⟨parts, shown, -⟩ := map_eq_ok_iff.mp joined
        rw [all, ← spelled.map_snd_zip]
        exact r.exists_mapM_filled (fun pair member => kept _ (List.of_mem_zip member).2) shown
      rw [r.startTag_eq_madeText spelled evaluated changed] at rendered
      obtain rfl := Except.ok.inj rendered
      have shapes := map_eq_of_mapM (fun _ _ => r.shape_of_filled) evaluated
      have names : filled.map Attribute.name = e.start.keptAttributes.map Attribute.name := by
        have firsts := congrArg (List.map Prod.fst) shapes
        rwa [List.map_map, List.map_map] at firsts
      have apartToo : filled.IsChain Attribute.Apart := by
        rw [Attribute.isChain_apart_iff, shapes, all, ← Attribute.isChain_apart_iff]
        exact of_decide_eq_true apart
      have keeps : e.start.selfClosing = true → isVoidName e.start.name = true := fun closes =>
        slash.resolve_left (by rw [closes]; decide)
      have returns := StartTag.returns_madeText (spelled.rebuilt names) found.exists_cons apartToo
        keeps
      exact returns.of_same rfl rfl

end Renderer

end LayoutBinding
