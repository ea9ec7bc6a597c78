import LayoutBinding.Proofs.Template.DirectiveOrder
import LayoutBinding.Proofs.Template.TagNames
import LayoutBinding.Proofs.Template.TagPlaces

/-!
# Start tags that are written anew

A start tag with a directive or an expression is written anew: its directives are left out
and its expressions are replaced.  Read back, it has the attributes that it should have,
unless an attribute without a value stands in front of one whose name starts with an equals
sign.
-/

namespace LayoutBinding

/-- The name of the second attribute is not taken for a value of the first. -/
def Attribute.Apart (a b : Attribute) : Prop :=
  a.value = none → b.name.toList.head? ≠ some '='

instance : DecidableRel Attribute.Apart := fun a b =>
  inferInstanceAs (Decidable (a.value = none → b.name.toList.head? ≠ some '='))

/-- Whether attributes are apart depends on their names and on which of them have a value. -/
theorem Attribute.isChain_apart_iff {attributes : List Attribute} :
    attributes.IsChain Apart ↔ (attributes.map fun a => (a.name, a.value.isNone)).IsChain
      fun a b => a.2 = true → b.1.toList.head? ≠ some '=' := by
  rw [List.isChain_map]
  refine List.IsChain.iff fun a b => ?_
  rw [Apart, Option.isNone_iff_eq_none]

namespace StartTag

/-- The attributes without the directives. -/
def keptAttributes (tag : StartTag) : List Attribute :=
  tag.attributes.filter Attribute.isKept

/-- The written names of the attributes without the directives. -/
def keptNames (tag : StartTag) : List String :=
  ((tag.writtenAttributes.zip tag.attributes).filter (·.2.isKept)).map Prod.fst

/-- The names of the attributes without the directives, as the text of the tag has them. -/
def sourceNames (tag : StartTag) : List (List Char) :=
  ((attributesOf tag.raw.toList).1.filter fun w =>
    (Directive.ofName? (lowered w.name)).isNone).map Written.name

/-- The tag with other attributes in place of those that are no directives. -/
def rebuilt (tag : StartTag) (filled : List Attribute) : StartTag :=
  { tag with attributes := filled, writtenAttributes := tag.keptNames }

end StartTag

/-- An attribute with its expressions replaced. -/
def Renderer.filled (r : Renderer) (context : Context) (a : Attribute) : Outcome Attribute :=
  match a.value with
  | none => .ok a
  | some value =>
      if mayHoldExpression value then
        (fun text => ⟨a.name, some text⟩) <$> r.interpolate context value
      else
        .ok a

namespace Renderer

variable (r : Renderer) {context : Context}

theorem shape_of_filled {a b : Attribute} (done : r.filled context a = .ok b) :
    (b.name, b.value.isNone) = (a.name, a.value.isNone) := by
  unfold filled at done
  split at done
  · cases done
    rfl
  next value given =>
    split at done
    · obtain ⟨text, -, rfl⟩ := map_eq_ok_iff.mp done
      rw [given]
      rfl
    · cases done
      rfl

theorem attributeText_of_filled (writtenName : String) {a b : Attribute} (kept : a.isKept = true)
    (done : r.filled context a = .ok b) :
    r.attributeText context writtenName a = .ok (StartTag.attributeText writtenName b) := by
  have asked : Directive.ofName? a.name = none := by simpa [Attribute.isKept] using kept
  unfold filled at done
  split at done
  next noValue =>
    cases done
    simp [attributeText, StartTag.attributeText, asked, noValue]
  next value given =>
    rw [r.attributeText_of_some context writtenName asked given]
    split at done
    next mayHold =>
      obtain ⟨text, shown, rfl⟩ := map_eq_ok_iff.mp done
      rw [if_pos mayHold, shown]
      rfl
    next plain =>
      cases done
      rw [if_neg plain, StartTag.attributeText, given]
      rfl

/-- The attributes are written one after the other, without the directives. -/
theorem join_mapM_attributeText {pairs : List (String × Attribute)} {filled : List Attribute}
    (evaluated : ((pairs.filter (·.2.isKept)).map Prod.snd).mapM (r.filled context) =
      .ok filled) :
    String.join <$> pairs.mapM (fun pair => r.attributeText context pair.1 pair.2) =
      .ok (String.join ((((pairs.filter (·.2.isKept)).map Prod.fst).zip filled).map
        fun pair => StartTag.attributeText pair.1 pair.2)) := by
  induction pairs generalizing filled with
  | nil =>
      cases evaluated
      rfl
  | cons pair pairs ih =>
      rw [join_mapM_cons]
      cases kept : pair.2.isKept with
      | true =>
          rw [List.filter_cons, if_pos kept, List.map_cons] at evaluated ⊢
          obtain ⟨b, others, one, rest, rfl⟩ := mapM_cons_eq_ok_iff.mp evaluated
          rw [ih rest, r.attributeText_of_filled pair.1 kept one]
          exact congrArg Except.ok String.join_cons.symm
      | false =>
          have dropped : ¬pair.2.isKept = true := by simp [kept]
          rw [List.filter_cons, if_neg dropped] at evaluated ⊢
          rw [ih evaluated, r.attributeText_of_not_isKept pair.1 kept]
          exact congrArg Except.ok String.empty_append

end Renderer

namespace StartTag.IsSpelled

variable {tag : StartTag}

theorem map_snd_kept (spelled : tag.IsSpelled) :
    ((tag.writtenAttributes.zip tag.attributes).filter (·.2.isKept)).map Prod.snd =
      tag.keptAttributes := by
  rw [keptAttributes]
  conv => rhs; rw [← spelled.map_snd_zip]
  rw [List.filter_map]
  rfl

theorem map_lowered_keptNames (spelled : tag.IsSpelled) :
    tag.keptNames.map (lowered ·.toList) = tag.keptAttributes.map Attribute.name := by
  rw [keptNames, ← spelled.map_snd_kept, List.map_map, List.map_map]
  exact List.map_congr_left fun pair member =>
    spelled.lowered_of_mem_zip pair (List.mem_of_mem_filter member)

theorem mem_of_mem_keptNames {n : String} (member : n ∈ tag.keptNames) :
    n ∈ tag.writtenAttributes := by
  obtain ⟨⟨_, a⟩, among, rfl⟩ := List.mem_map.mp member
  exact (List.of_mem_zip (List.mem_of_mem_filter among)).1

/-- A tag that is written anew has names that can be written. -/
theorem rebuilt (spelled : tag.IsSpelled) {filled : List Attribute}
    (names : filled.map Attribute.name = tag.keptAttributes.map Attribute.name) :
    (tag.rebuilt filled).IsSpelled where
  continues := spelled.continues
  name := spelled.name
  length := spelled.length
  isName := fun n member => spelled.isName n (mem_of_mem_keptNames member)
  names := spelled.map_lowered_keptNames.trans names.symm
  equals := by
    rintro ⟨n, member, first⟩
    have same := spelled.equals ⟨n, mem_of_mem_keptNames member, first⟩
    have pairs : ∀ pair ∈ tag.writtenAttributes.zip tag.attributes, pair.1 = pair.2.name := by
      rw [← List.map_inj_left]
      have seconds := congrArg (List.map Attribute.name) spelled.map_snd_zip
      rw [List.map_map] at seconds
      exact (spelled.map_fst_zip.trans same).trans seconds.symm
    change tag.keptNames = filled.map Attribute.name
    rw [names, keptNames, ← spelled.map_snd_kept, List.map_map]
    exact List.map_congr_left fun pair member => pairs pair (List.mem_of_mem_filter member)

theorem isChain_spellings (spelled : tag.IsSpelled)
    (apart : tag.attributes.IsChain Attribute.Apart) : tag.spellings.IsChain Spelling.Apart := by
  rw [← spelled.map_snd_zip, List.isChain_map] at apart
  rw [spellings, List.isChain_map]
  refine apart.imp_of_mem_imp fun first second _ among beside noValue starts => ?_
  have name := spelled.lowered_of_mem_zip second among
  apply beside (Option.map_eq_none_iff.mp noValue)
  rwa [← name, lowered, String.toList_ofList,
    Character.head?_lowerAll_iff (by decide : Character.isCaseless '=' = true)]

end StartTag.IsSpelled

/-! ### The text that is read back -/

theorem Renderer.startTag_eq_madeText (r : Renderer) {context : Context} {e : Element}
    {filled : List Attribute} (spelled : e.start.IsSpelled)
    (evaluated : e.start.keptAttributes.mapM (r.filled context) = .ok filled)
    (changed : e.start.attributes.any changesTag = true) :
    r.startTag context e = .ok (e.start.rebuilt filled).madeText := by
  rw [← spelled.map_snd_kept] at evaluated
  rw [r.startTag_eq_of_changed context e (by rw [changed, Bool.true_or])]
  change _ <$> String.join <$> (e.start.writtenAttributes.zip e.start.attributes).mapM
    (fun pair => r.attributeText context pair.1 pair.2) = _
  rw [r.join_mapM_attributeText evaluated]
  rfl

namespace StartTag

theorem IsReadFrom.exists_cons {tag : StartTag} {cs : List Char} (found : tag.IsReadFrom cs) :
    ∃ c name, tag.writtenName.toList = c :: name ∧ c.isAlpha = true := by
  obtain ⟨read, c, body, rfl, letter⟩ := found
  obtain ⟨front, tail, selfClosing, attributes, whole, stops, -, made⟩ := read_eq_tag_iff.mp read
  have name : nameOf ('<' :: c :: body) = c :: body.takeWhile continuesName :=
    List.takeWhile_cons_of_pos (continuesName_of_isAlpha letter)
  have asWritten := nameAsWritten_of_stops (whole ▸ stops)
  rw [← whole, name] at asWritten
  rw [made]
  dsimp only [ofParts] at asWritten ⊢
  rw [name, asWritten]
  split
  · rw [String.toList_ofList]
    exact ⟨c, _, rfl, letter⟩
  · rw [lowered, String.toList_ofList]
    exact Character.exists_cons_lowerAll letter _

theorem isReadFrom_madeText {tag : StartTag} (spelled : tag.IsSpelled)
    (starts : ∃ c name, tag.writtenName.toList = c :: name ∧ c.isAlpha = true)
    (apart : tag.attributes.IsChain Attribute.Apart) :
    IsReadFrom
      { tag with raw := tag.madeText, selfClosing := tag.selfClosing && isVoidName tag.name }
      tag.madeText.toList := by
  obtain ⟨c, name, same, letter⟩ := starts
  have read := read_madeText spelled (spelled.isChain_spellings apart) []
  rw [List.append_nil] at read
  refine ⟨read, c, name ++ spell tag.spellings (tag.selfClosing && isVoidName tag.name) [], ?_,
    letter⟩
  rw [toList_madeText, StartTag.spelled, same, List.cons_append]

theorem toList_keptNames {tag : StartTag} (spelled : tag.IsSpelled)
    (names : tag.writtenAttributes.map String.toList =
      (attributesOf tag.raw.toList).1.map Written.name) :
    tag.keptNames.map String.toList = tag.sourceNames := by
  have kept : (tag.writtenAttributes.zip tag.attributes).filter (·.2.isKept) =
      (tag.writtenAttributes.zip tag.attributes).filter
        ((fun n : List Char => (Directive.ofName? (lowered n)).isNone) ∘
          (String.toList ∘ Prod.fst)) := by
    refine List.filter_congr fun pair member => ?_
    rw [Attribute.isKept, ← spelled.lowered_of_mem_zip pair member]
    rfl
  rw [keptNames, kept, List.map_map, ← List.filter_map, ← List.map_map, spelled.map_fst_zip, names,
    sourceNames, List.filter_map]
  rfl

end StartTag

namespace Renderer

/-- A start tag that is written anew is read back, whatever the data: it has the same name and
the attributes of the element without the directives, in order, with their expressions
replaced.  Its names are spelled as in the source, unless a name starts with an equals sign or
the name of the tag has a longer form in lower case. -/
theorem parse_startTag (r : Renderer) {source : String} {name : Option String} {t : Template}
    (parsed : Template.parse source name = .ok t) {e : Element} (member : e ∈ t.elements)
    {context : Context} {filled : List Attribute}
    (evaluated : e.start.keptAttributes.mapM (r.filled context) = .ok filled)
    (changed : e.start.attributes.any changesTag = true)
    (apart : e.start.keptAttributes.IsChain Attribute.Apart) :
    ∃ text tag, r.startTag context e = .ok text ∧
      Template.parse text none = .ok ⟨[.element ⟨tag, .start, [], false⟩], none⟩ ∧
      tag.name = e.start.name ∧ tag.attributes = filled ∧
      ('İ' ∉ StartTag.nameOf e.start.raw.toList →
        (∀ a ∈ e.start.attributes, a.name.toList.head? ≠ some '=') →
        tag.writtenName.toList = StartTag.nameOf e.start.raw.toList ∧
          tag.writtenAttributes.map String.toList = e.start.sourceNames) := by
  obtain ⟨events, read, rfl⟩ := map_eq_ok_iff.mp parsed
  obtain ⟨cs, found⟩ : ∃ cs, e.start.IsReadFrom cs := by
    refine Events.exists_isReadFrom read ?_
    rw [← Template.startTags_ofEvents]
    exact List.mem_map_of_mem member
  have spelled := StartTag.isSpelled_of_read found.1
  have shapes := map_eq_of_mapM (fun _ _ => r.shape_of_filled) evaluated
  have names : filled.map Attribute.name = e.start.keptAttributes.map Attribute.name := by
    have firsts := congrArg (List.map Prod.fst) shapes
    rwa [List.map_map, List.map_map] at firsts
  have apartToo : filled.IsChain Attribute.Apart := by
    rwa [Attribute.isChain_apart_iff, shapes, ← Attribute.isChain_apart_iff]
  refine ⟨_, _, r.startTag_eq_madeText spelled evaluated changed,
    Template.parse_of_isReadFrom (StartTag.isReadFrom_madeText (spelled.rebuilt names)
      found.exists_cons apartToo) rfl none, rfl, rfl, fun noDotted noEquals => ?_⟩
  obtain ⟨tagName, attributeNames⟩ := StartTag.names_of_read found.1 noDotted noEquals
  exact ⟨tagName, StartTag.toList_keptNames spelled attributeNames⟩

/-- A drawing with a directive, an expression, and names in capital letters. -/
def drawing : String :=
  "<SVG ViewBox='0 0 $page.t 9' :text='$page.t' Hidden Title=$page.t/>"

def drawingTag : StartTag :=
  ⟨"svg", [⟨"viewbox", some "0 0 $page.t 9"⟩, ⟨":text", some "$page.t"⟩, ⟨"hidden", none⟩,
    ⟨"title", some "$page.t/"⟩], drawing, "SVG", ["ViewBox", ":text", "Hidden", "Title"], false⟩

def pageContext (t : String) : Context :=
  .ofNamespaces [("page", .record [("t", .string t)])] .default

/-- Quotes and angle brackets in the data stay in their values. -/
theorem parse_startTag_drawing :
    let r : Renderer := ⟨.builtin, []⟩
    ∃ t, Template.parse drawing none = .ok t ∧ ∃ e ∈ t.elements, e.start = drawingTag ∧
      ∃ text tag, r.startTag (pageContext "1\" onclick=\"<") e = .ok text ∧
        Template.parse text none = .ok ⟨[.element ⟨tag, .start, [], false⟩], none⟩ ∧
        tag.name = "svg" ∧
        tag.attributes = [⟨"viewbox", some "0 0 1\" onclick=\"< 9"⟩, ⟨"hidden", none⟩,
          ⟨"title", some "1\" onclick=\"</"⟩] ∧
        tag.writtenName.toList = "SVG".toList ∧
        tag.writtenAttributes.map String.toList =
          ["ViewBox".toList, "Hidden".toList, "Title".toList] := by
  intro r
  have starts : (Template.parse drawing none).map
      (fun t => decide (t.elements.map Element.start = [drawingTag])) = .ok true := by
    decide +kernel
  obtain ⟨t, parsed, tags⟩ := map_eq_ok_iff.mp starts
  have tags := of_decide_eq_true tags
  obtain ⟨e, member, same⟩ : ∃ e ∈ t.elements, e.start = drawingTag := by
    rw [← List.mem_map, tags]
    exact List.mem_singleton_self drawingTag
  have evaluated : drawingTag.keptAttributes.mapM (r.filled (pageContext "1\" onclick=\"<")) =
      .ok [⟨"viewbox", some "0 0 1\" onclick=\"< 9"⟩, ⟨"hidden", none⟩,
        ⟨"title", some "1\" onclick=\"</"⟩] := by
    decide +kernel
  have changed : drawingTag.attributes.any changesTag = true := by decide +kernel
  have apart : drawingTag.keptAttributes.IsChain Attribute.Apart := by decide +kernel
  have noDotted : 'İ' ∉ StartTag.nameOf drawingTag.raw.toList := by decide +kernel
  have noEquals : ∀ a ∈ drawingTag.attributes, a.name.toList.head? ≠ some '=' := by
    decide +kernel
  have names : StartTag.nameOf drawingTag.raw.toList = "SVG".toList ∧ drawingTag.sourceNames =
      ["ViewBox".toList, "Hidden".toList, "Title".toList] := by
    decide +kernel
  rw [← same] at evaluated changed apart noDotted noEquals names
  obtain ⟨text, tag, written, read, name, attributes, spelled⟩ :=
    r.parse_startTag parsed member evaluated changed apart
  obtain ⟨tagName, attributeNames⟩ := spelled noDotted noEquals
  rw [names.1] at tagName
  rw [names.2] at attributeNames
  exact ⟨t, parsed, e, member, same, text, tag, written, read, by rw [name, same]; rfl, attributes,
    tagName, attributeNames⟩

/-- An attribute is taken for the value of the one in front of it. -/
theorem parse_startTag_joins :
    let r : Renderer := ⟨.builtin, []⟩
    ∃ t, Template.parse "<a x/=y='$page.t'>" none = .ok t ∧
      t.elements.map (·.start.attributes) = [[⟨"x", none⟩, ⟨"=y", some "$page.t"⟩]] ∧
      r.template t (pageContext "1") = .ok "<a x =y=\"1\">" ∧
      ∃ back, Template.parse "<a x =y=\"1\">" none = .ok back ∧
        back.elements.map (·.start.attributes) = [[⟨"x", some "y=\"1\""⟩]] := by
  intro r
  have first : (Template.parse "<a x/=y='$page.t'>" none).map (fun t =>
      decide (t.elements.map (·.start.attributes) = [[⟨"x", none⟩, ⟨"=y", some "$page.t"⟩]] ∧
        r.template t (pageContext "1") = .ok "<a x =y=\"1\">")) = .ok true := by
    decide +kernel
  have second : (Template.parse "<a x =y=\"1\">" none).map (fun t =>
      decide (t.elements.map (·.start.attributes) = [[⟨"x", some "y=\"1\""⟩]])) = .ok true := by
    decide +kernel
  obtain ⟨t, parsed, facts⟩ := map_eq_ok_iff.mp first
  obtain ⟨back, parsedBack, joined⟩ := map_eq_ok_iff.mp second
  obtain ⟨attributes, rendered⟩ := of_decide_eq_true facts
  exact ⟨t, parsed, attributes, rendered, back, parsedBack, of_decide_eq_true joined⟩

end Renderer

end LayoutBinding
