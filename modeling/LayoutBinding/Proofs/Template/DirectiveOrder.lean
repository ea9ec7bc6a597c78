import Mathlib.Data.List.Nodup
import LayoutBinding.Proofs.Template.RenderingOrder

/-!
# Where the directives stand in a start tag

Directives are applied in an order of their own, and a start tag that is written anew has
only the other attributes.  So it makes no difference where in the tag the directives stand,
as long as none of them stands there twice.
-/

namespace LayoutBinding

/-! ### Keys in permuted lists -/

section Keys

variable {α κ : Type} [DecidableEq κ] {key : α → κ} {values : List α}

theorem filter_key_eq_toList (distinct : (values.map key).Nodup) (k : κ) :
    values.filter (key · = k) = (values.find? (key · = k)).toList := by
  induction values with
  | nil => rfl
  | cons value values ih =>
      rw [List.map_cons, List.nodup_cons] at distinct
      by_cases same : key value = k
      · have others : values.filter (key · = k) = [] := by
          rw [List.filter_eq_nil_iff]
          intro other member again
          rw [← same, decide_eq_true_eq] at again
          exact distinct.1 (again ▸ List.mem_map_of_mem member)
        rw [List.filter_cons_of_pos (by simpa using same), others,
          List.find?_cons_of_pos (by simpa using same)]
        rfl
      · rw [List.filter_cons_of_neg (by simpa using same), ih distinct.2,
          List.find?_cons_of_neg (by simpa using same)]

/-- Where keys are distinct, the values of a key do not depend on the order. -/
theorem filter_key_eq_of_perm {others : List α} (permuted : others.Perm values)
    (distinct : (values.map key).Nodup) (k : κ) :
    others.filter (key · = k) = values.filter (key · = k) := by
  have filtered := permuted.filter (key · = k)
  rw [filter_key_eq_toList distinct] at filtered ⊢
  cases found : values.find? (key · = k) with
  | none =>
      rw [found] at filtered
      exact filtered.eq_nil
  | some value =>
      rw [found] at filtered
      exact List.perm_singleton.mp filtered

end Keys

/-! ### Attributes and their written names -/

theorem Directive.ofName?_eq_some_iff {name : String} {directive : Directive} :
    ofName? name = some directive ↔ name = directive.attributeName := by
  constructor
  · intro asked
    exact (attributeName_of_ofName? asked).symm
  · rintro rfl
    cases directive <;> rfl

/-- Whether an attribute is no directive. -/
def Attribute.isKept (a : Attribute) : Bool :=
  (Directive.ofName? a.name).isNone

namespace StartTag

def directives (tag : StartTag) : List Directive :=
  tag.attributes.filterMap fun a => Directive.ofName? a.name

def pairs (tag : StartTag) : List (String × Attribute) :=
  tag.writtenAttributes.zip tag.attributes

/-- The attributes without the directives, each behind its name as it was written. -/
def keptPairs (tag : StartTag) : List (String × Attribute) :=
  tag.pairs.filter (·.2.isKept)

def withPairs (tag : StartTag) (pairs : List (String × Attribute)) : StartTag :=
  { tag with attributes := pairs.map Prod.snd, writtenAttributes := pairs.map Prod.fst }

@[simp]
theorem pairs_withPairs (tag : StartTag) (pairs : List (String × Attribute)) :
    (tag.withPairs pairs).pairs = pairs := by
  rw [StartTag.pairs, withPairs, List.zip_map']
  exact List.map_id pairs

theorem map_snd_pairs {tag : StartTag}
    (aligned : tag.writtenAttributes.length = tag.attributes.length) :
    tag.pairs.map Prod.snd = tag.attributes :=
  List.map_snd_zip (Nat.le_of_eq aligned.symm)

end StartTag

namespace Element

def withPairs (e : Element) (pairs : List (String × Attribute)) : Element :=
  { e with start := e.start.withPairs pairs }

/-! ### Bindings -/

variable {names : List String} {e : Element}

theorem directive_of_binding {directive : Directive} {value : Option String} {made : Binding}
    (bound : e.binding names directive value = .ok made) : made.directive = directive := by
  obtain ⟨_, _, _, _, rfl⟩ := exists_of_binding_eq_ok bound
  rfl

theorem map_directive_bindingsOf {attributes : List Attribute} {made : List Binding}
    (bound : e.bindingsOf names attributes = .ok made) :
    made.map Binding.directive = attributes.filterMap fun a => Directive.ofName? a.name := by
  rw [map_eq_of_mapM (fun _ _ => directive_of_binding) bound, List.map_filterMap]
  simp [Function.comp_def]

/-- Attributes in another order make the same bindings if no directive is asked for twice. -/
theorem bindings_withPairs {pairs : List (String × Attribute)} {bindings : List Binding}
    (permuted : (pairs.map Prod.snd).Perm e.start.attributes) (once : e.start.directives.Nodup)
    (bound : e.bindings names = .ok bindings) :
    (e.withPairs pairs).bindings names = .ok bindings := by
  obtain ⟨made, madeBound, rfl⟩ := bindings_eq_ok_iff.mp bound
  obtain ⟨others, othersBound, same⟩ := exists_mapM_of_perm (permuted.filterMap _) madeBound
  have distinct : (made.map Binding.directive).Nodup := by
    rw [map_directive_bindingsOf madeBound]
    exact once
  refine bindings_eq_ok_iff.mpr ⟨others, othersBound, List.flatMap_congr fun directive _ => ?_⟩
  exact (filter_key_eq_of_perm same distinct directive).symm

end Element

/-! ### The start tag -/

namespace Renderer

theorem attributeText_of_not_isKept (r : Renderer) {context : Context} (writtenName : String)
    {a : Attribute} (left : a.isKept = false) : r.attributeText context writtenName a = .ok "" := by
  obtain ⟨directive, asked⟩ : ∃ directive, Directive.ofName? a.name = some directive := by
    simpa [Attribute.isKept, Option.isSome_iff_exists] using left
  rw [attributeText, asked]

/-- A start tag that is written anew: the name and the attributes without the directives. -/
def tagAnew (r : Renderer) (context : Context) (tag : StartTag) : Outcome String :=
  (fun parts => "<" ++ tag.writtenName ++ parts ++
    if tag.selfClosing && isVoidName tag.name then " />" else ">") <$>
    String.join <$> tag.keptPairs.mapM fun (writtenName, a) =>
      r.attributeText context writtenName a

theorem startTag_eq (r : Renderer) (context : Context) (e : Element) :
    r.startTag context e =
      if e.start.attributes.any changesTag || e.start.raw = "" then r.tagAnew context e.start
      else .ok e.start.raw := by
  split
  next changed =>
    rw [r.startTag_eq_of_changed context e changed, tagAnew, StartTag.keptPairs,
      join_mapM_filter]
    · rfl
    · rintro ⟨writtenName, a⟩ _ left
      exact r.attributeText_of_not_isKept writtenName left
  next unchanged =>
    simp only [startTag]
    rw [if_neg unchanged]

/-- Directives leave nothing in a start tag, wherever they stand. -/
theorem startTag_withPairs (r : Renderer) (context : Context) {e : Element}
    {pairs : List (String × Attribute)}
    (permuted : (pairs.map Prod.snd).Perm e.start.attributes)
    (kept : pairs.filter (·.2.isKept) = e.start.keptPairs) :
    r.startTag context (e.withPairs pairs) = r.startTag context e := by
  have keptPairs : (e.start.withPairs pairs).keptPairs = e.start.keptPairs := by
    rw [StartTag.keptPairs, StartTag.pairs_withPairs, kept]
  have tag : r.tagAnew context (e.withPairs pairs).start = r.tagAnew context e.start := by
    change r.tagAnew context (e.start.withPairs pairs) = _
    rw [tagAnew, keptPairs]
    rfl
  have changed : (e.withPairs pairs).start.attributes.any changesTag =
      e.start.attributes.any changesTag :=
    permuted.any_eq
  rw [startTag_eq, startTag_eq, tag, changed]
  rfl

/-! ### Rendering -/

/-- An element is rendered in the same way, or fails with the same error, when its attributes
are permuted together with their written names, if those that are no directives keep their
order, no directive stands twice and the directives can be bound. -/
theorem node_withPairs (r : Renderer) (e : Element) {pairs : List (String × Attribute)}
    {bindings : List Binding}
    (aligned : e.start.writtenAttributes.length = e.start.attributes.length)
    (permuted : pairs.Perm e.start.pairs)
    (kept : pairs.filter (·.2.isKept) = e.start.pairs.filter (·.2.isKept))
    (once : e.start.directives.Nodup) (bound : e.bindings r.names = .ok bindings)
    (context : Context) :
    r.node (.element (e.withPairs pairs)) context = r.node (.element e) context := by
  have attributes : (pairs.map Prod.snd).Perm e.start.attributes := by
    rw [← StartTag.map_snd_pairs aligned]
    exact permuted.map Prod.snd
  have emitted : r.emit (e.withPairs pairs) (r.nodes (e.withPairs pairs).children) =
      r.emit e (r.nodes e.children) := by
    funext turn content
    simp only [emit]
    rw [r.startTag_withPairs turn attributes kept]
    rfl
  rw [r.node_element_of_bindings (Element.bindings_withPairs attributes once bound),
    r.node_element_of_bindings bound, emitted]
  rfl

/-- A list item for every tag, its directives between and behind the other attributes. -/
def numberedItem : Element :=
  ⟨⟨"li", [⟨"title", some "no. $loop.index"⟩, ⟨":text", some "$loop.it"⟩, ⟨"class", some "tag"⟩,
      ⟨":loop", some "$tags"⟩],
    "", "li", ["Title", ":text", "class", ":loop"], false⟩, .start, [.raw "tag"], true⟩

/-- The attributes of the list item with the directives first. -/
def directivesFirst : List (String × Attribute) :=
  [(":loop", ⟨":loop", some "$tags"⟩), (":text", ⟨":text", some "$loop.it"⟩),
    ("Title", ⟨"title", some "no. $loop.index"⟩), ("class", ⟨"class", some "tag"⟩)]

theorem node_withPairs_directivesFirst :
    let r : Renderer := ⟨.builtin, ["tags"]⟩
    let context : Context :=
      .ofNamespaces [("tags", .list [.string "go", .string "lean"])] .default
    directivesFirst.Perm numberedItem.start.pairs ∧
      directivesFirst.filter (·.2.isKept) = numberedItem.start.pairs.filter (·.2.isKept) ∧
      numberedItem.start.directives = [.text, .loop] ∧
      r.node (.element (numberedItem.withPairs directivesFirst)) context =
        r.node (.element numberedItem) context ∧
      r.node (.element numberedItem) context =
        .ok ("<li Title=\"no. 0\" class=\"tag\">go</li>" ++
          "<li Title=\"no. 1\" class=\"tag\">lean</li>") := by
  intro r context
  have computed : (numberedItem.bindings ["tags"]).map (fun _ => ()) = .ok () := by decide +kernel
  obtain ⟨bindings, bound, -⟩ := map_eq_ok_iff.mp computed
  have permuted : directivesFirst.Perm numberedItem.start.pairs := by decide +kernel
  have kept : directivesFirst.filter (·.2.isKept) =
      numberedItem.start.pairs.filter (·.2.isKept) := by decide +kernel
  have asked : numberedItem.start.directives = [.text, .loop] := by decide +kernel
  have once : numberedItem.start.directives.Nodup := asked ▸ by decide
  exact ⟨permuted, kept, asked,
    r.node_withPairs numberedItem rfl permuted kept once bound context, by decide +kernel⟩

end Renderer

end LayoutBinding
