import LayoutBinding.Proofs.Template.LoopUnrolling
import LayoutBinding.Proofs.Template.Output

/-!
# The order of a rendering

A rendering visits the elements in document order, and what a loop repeats once for
each turn.  On a visit something of the element itself is evaluated: its directives
are bound, the expression of a directive gets a value, or the start tag is written.
The rendering succeeds if all visits succeed, and else it fails like the first visit
that fails, at the place of the element visited.
-/

namespace LayoutBinding

namespace Outcome

variable {α β : Type}

/-- The success or the failure of a computation without its result. -/
def completion (outcome : Outcome α) : Outcome Unit :=
  outcome.map fun _ => ()

theorem completion_map (f : α → β) (outcome : Outcome α) :
    completion (f <$> outcome) = completion outcome := by
  cases outcome <;> rfl

theorem completion_annotate (outcome : Outcome α) (source location : Option String) :
    completion (outcome.annotate source location) =
      (completion outcome).annotate source location := by
  cases outcome <;> rfl

theorem completion_mapM (f : α → Outcome β) (values : List α) :
    completion (values.mapM f) = forM values fun value => completion (f value) := by
  induction values with
  | nil => rfl
  | cons value values ih =>
      rw [List.mapM_cons, List.forM_cons, ← ih]
      cases f value with
      | error failure => rfl
      | ok first => cases values.mapM f <;> rfl

theorem annotate_forM (f : α → Outcome Unit) (values : List α)
    (source location : Option String) :
    annotate (forM values f) source location =
      forM values fun value => annotate (f value) source location := by
  induction values with
  | nil => rfl
  | cons value values ih => rw [List.forM_cons, List.forM_cons, annotate_bind, ih]

theorem withLocation_withLocation (outcome : Outcome α) (first second : String) :
    (outcome.withLocation first).withLocation second = outcome.withLocation first := by
  cases outcome with
  | ok value => rfl
  | error failure =>
      cases failure with
      | fault fault => rfl
      | error e => simp [withLocation, Failure.annotate, Error.annotate_annotate]

theorem completion_eq_error_iff {outcome : Outcome α} {failure : Failure} :
    completion outcome = .error failure ↔ outcome = .error failure := by
  cases outcome with
  | error other => exact ⟨fun same => by cases same; rfl, fun same => by cases same; rfl⟩
  | ok value => exact ⟨nofun, nofun⟩

end Outcome

theorem forM_flatMap {α β ε : Type} (f : α → List β) (check : β → Except ε Unit)
    (values : List α) :
    forM (values.flatMap f) check = forM values fun value => forM (f value) check := by
  induction values with
  | nil => rfl
  | cons value values ih => rw [List.flatMap_cons, List.forM_append, List.forM_cons, ih]

theorem forM_eq_error_iff {α ε : Type} {check : α → Except ε Unit} {values : List α}
    {failure : ε} :
    forM values check = .error failure ↔
      ∃ before value after, values = before ++ value :: after ∧
        (∀ earlier ∈ before, check earlier = .ok ()) ∧ check value = .error failure := by
  induction values with
  | nil =>
      constructor
      · nofun
      · rintro ⟨before, value, after, split, -⟩
        cases before <;> cases split
  | cons first others ih =>
      rw [List.forM_cons]
      cases checked : check first with
      | error failure' =>
          constructor
          · rintro same
            cases same
            exact ⟨[], first, others, rfl, nofun, checked⟩
          · rintro ⟨before, value, after, split, succeed, fails⟩
            cases before with
            | nil =>
                obtain ⟨rfl, rfl⟩ := List.cons.inj split
                exact checked.symm.trans fails
            | cons earlier before =>
                obtain ⟨rfl, rfl⟩ := List.cons.inj split
                cases checked.symm.trans (succeed first List.mem_cons_self)
      | ok done =>
          change forM others check = _ ↔ _
          rw [ih]
          constructor
          · rintro ⟨before, value, after, rfl, succeed, fails⟩
            exact ⟨first :: before, value, after, rfl,
              List.forall_mem_cons.mpr ⟨checked, succeed⟩, fails⟩
          · rintro ⟨before, value, after, split, succeed, fails⟩
            cases before with
            | nil =>
                obtain ⟨rfl, rfl⟩ := List.cons.inj split
                cases checked.symm.trans fails
            | cons earlier before =>
                obtain ⟨rfl, rfl⟩ := List.cons.inj split
                exact ⟨before, value, after, rfl, (List.forall_mem_cons.mp succeed).2, fails⟩

theorem Directive.attributeName_of_ofName? {name : String} {directive : Directive}
    (asked : ofName? name = some directive) : directive.attributeName = name := by
  have named := List.find?_some asked
  exact of_decide_eq_true named

/-- The directive of an attribute binds an expression, which is the value. -/
def Attribute.Binds (names : List String) (a : Attribute) (directive : Directive)
    (expression : Expression) : Prop :=
  Directive.ofName? a.name = some directive ∧
    ∃ written, a.value = some written ∧ Expression.parse names written = .ok expression

namespace Element

theorem exists_binds_of_bindingsOf {names : List String} {e : Element}
    {attributes : List Attribute} {made : List Binding}
    (bound : e.bindingsOf names attributes = .ok made) {b : Binding} (member : b ∈ made) :
    ∃ a ∈ attributes, a.Binds names b.directive b.expression := by
  induction attributes generalizing made with
  | nil =>
      cases bound
      cases member
  | cons a attributes ih =>
      cases asked : Directive.ofName? a.name with
      | none =>
          rw [bindingsOf_cons_of_none names e asked] at bound
          obtain ⟨other, among, binds⟩ := ih bound member
          exact ⟨other, List.mem_cons_of_mem a among, binds⟩
      | some directive =>
          rw [bindingsOf_cons names e asked] at bound
          obtain ⟨first, firstBound, bound⟩ := bind_eq_ok_iff.mp bound
          obtain ⟨others, othersBound, bound⟩ := bind_eq_ok_iff.mp bound
          cases bound
          rcases List.mem_cons.mp member with rfl | member
          · obtain ⟨written, expression, given, parsed, rfl⟩ := exists_of_binding_eq_ok firstBound
            exact ⟨a, List.mem_cons_self, asked, written, given, parsed⟩
          · obtain ⟨other, among, binds⟩ := ih othersBound member
            exact ⟨other, List.mem_cons_of_mem a among, binds⟩

theorem exists_binds {names : List String} {e : Element} {bindings : List Binding}
    (bound : e.bindings names = .ok bindings) {b : Binding} (member : b ∈ bindings) :
    ∃ a ∈ e.start.attributes, a.Binds names b.directive b.expression := by
  obtain ⟨made, madeBound, rfl⟩ := bindings_eq_ok_iff.mp bound
  obtain ⟨directive, _, member⟩ := List.mem_flatMap.mp member
  exact exists_binds_of_bindingsOf madeBound (List.mem_filter.mp member).1

end Element

/-- What is evaluated for an element itself. -/
inductive Duty where
  /-- The directives of the element are bound to their expressions. -/
  | binding
  /-- The expression of a loop gets its items in a context. -/
  | loop (expression : Expression) (context : Context)
  /-- The expression of the content gets its text in a context. -/
  | content (expression : Expression) (context : Context)
  | startTag (context : Context)

/-- A step of a rendering. -/
structure Visit where
  element : Element
  duty : Duty

namespace Renderer

/-- Whether a visit succeeds. -/
def visit (r : Renderer) (v : Visit) : Outcome Unit :=
  match v.duty with
  | .binding => (Outcome.ofExcept (v.element.bindings r.names)).completion
  | .loop expression context => (r.items context expression).completion
  | .content expression context => (r.shown context expression).completion
  | .startTag context => (r.startTag context v.element).completion

/-- The visits that the bindings of an element lead to; the content of the element may
have been replaced. -/
def visitsOfBindings (r : Renderer) (e : Element) (inside : Context → List Visit) :
    List Binding → Context → Bool → List Visit
  | [], context, replaced =>
      ⟨e, .startTag context⟩ :: if replaced || !e.start.opens then [] else inside context
  | ⟨.loop, expression⟩ :: bindings, context, replaced =>
      ⟨e, .loop expression context⟩ ::
        match r.items context expression with
        | .ok items =>
            items.zipIdx.flatMap fun (item, index) =>
              visitsOfBindings r e inside bindings (context.enterLoop item index items.length)
                replaced
        | .error _ => []
  | ⟨.text, expression⟩ :: bindings, context, _ =>
      ⟨e, .content expression context⟩ :: visitsOfBindings r e inside bindings context true
  | ⟨.html, expression⟩ :: bindings, context, _ =>
      ⟨e, .content expression context⟩ :: visitsOfBindings r e inside bindings context true

mutual

/-- The visits in rendering a node. -/
def visitsOf (r : Renderer) : Node → Context → List Visit
  | .raw _, _ => []
  | .element ⟨start, place, children, closed⟩, context =>
      ⟨⟨start, place, children, closed⟩, .binding⟩ ::
        match Element.bindings r.names ⟨start, place, children, closed⟩ with
        | .ok bindings =>
            visitsOfBindings r ⟨start, place, children, closed⟩ (visits r children) bindings
              context false
        | .error _ => []
termination_by structural node => node

/-- The visits in rendering nodes, in order. -/
def visits (r : Renderer) : List Node → Context → List Visit
  | [], _ => []
  | node :: nodes, context => visitsOf r node context ++ visits r nodes context
termination_by structural nodes => nodes

end

/-- A visit, with the place of the element in its error. -/
def attempt (r : Renderer) (v : Visit) : Outcome Unit :=
  (r.visit v).withLocation v.element.location

theorem completion_emit (r : Renderer) (e : Element) (inside : Context → Outcome String)
    (context : Context) (content : Option String) :
    (r.emit e inside context content).completion =
      (r.startTag context e).completion >>= fun _ =>
        if content.isSome || !e.start.opens then .ok () else (inside context).completion := by
  cases content with
  | some given =>
      cases isVoid : e.isVoid with
      | true => rw [emit_of_isVoid r inside context isVoid]; cases r.startTag context e <;> rfl
      | false =>
          rw [emit_of_given r inside context isVoid, Outcome.completion_map]
          cases r.startTag context e <;> rfl
  | none =>
      cases opens : e.start.opens with
      | true =>
          rw [emit_of_opens r inside context opens]
          cases r.startTag context e with
          | error failure => rfl
          | ok start => cases inside context <;> rfl
      | false =>
          rw [emit_of_alone r inside context opens]
          cases r.startTag context e <;> rfl

/-- Applying the bindings of an element succeeds or fails like the visits that they lead
to, if this holds for what is inside the element. -/
theorem completion_applyAll (r : Renderer) {e : Element} {inside : Context → Outcome String}
    {visitsInside : Context → List Visit}
    (agree : ∀ context, ((inside context).withLocation e.location).completion =
      forM (visitsInside context) r.attempt) (bindings : List Binding) (context : Context)
    (content : Option String) :
    ((r.applyAll (r.emit e inside) bindings context content).withLocation
        e.location).completion =
      forM (r.visitsOfBindings e visitsInside bindings context content.isSome) r.attempt := by
  induction bindings generalizing context content with
  | nil =>
      rw [applyAll, visitsOfBindings, List.forM_cons, Outcome.withLocation,
        Outcome.completion_annotate, completion_emit, Outcome.annotate_bind]
      refine bind_congr fun _ => ?_
      cases content.isSome || !e.start.opens with
      | true => rfl
      | false => exact (Outcome.completion_annotate ..).symm.trans (agree context)
  | cons binding bindings ih =>
      obtain ⟨directive, expression⟩ := binding
      cases directive with
      | loop =>
          change _ = (r.items context expression).completion.withLocation e.location >>= _
          cases evaluated : r.items context expression with
          | error failure =>
              rw [applyAll, evaluated]
              rfl
          | ok items =>
              rw [r.applyAll_loop _ evaluated, Outcome.withLocation, Outcome.annotate_map,
                Outcome.annotate_mapM, Outcome.completion_map, Outcome.completion_mapM]
              change _ = forM (items.zipIdx.flatMap _) r.attempt
              rw [forM_flatMap]
              exact congrArg (forM items.zipIdx) (funext fun _ => ih ..)
      | text =>
          change _ = (r.shown context expression).completion.withLocation e.location >>= _
          rw [applyAll]
          cases r.shown context expression with
          | error failure => rfl
          | ok t => exact ih context (some (escapeHtml t.content))
      | html =>
          change _ = (r.shown context expression).completion.withLocation e.location >>= _
          rw [applyAll]
          cases r.shown context expression with
          | error failure => rfl
          | ok t => exact ih context (some t.content)

theorem completion_element (r : Renderer) {e : Element} {inside : Context → Outcome String}
    {visitsInside : Context → List Visit}
    (agree : ∀ context, (inside context).completion = forM (visitsInside context) r.attempt)
    (context : Context) :
    (r.element e inside context).completion =
      forM (⟨e, .binding⟩ ::
        match e.bindings r.names with
        | .ok bindings => r.visitsOfBindings e visitsInside bindings context false
        | .error _ => []) r.attempt := by
  -- The visits inside have annotated their errors, so the place of `e` is too late.
  have located (context : Context) : ((inside context).withLocation e.location).completion =
      forM (visitsInside context) r.attempt := by
    rw [Outcome.withLocation, Outcome.completion_annotate, agree, Outcome.annotate_forM]
    exact congrArg (forM (visitsInside context)) <| funext fun v =>
      Outcome.withLocation_withLocation ..
  rw [List.forM_cons]
  change _ = (Outcome.ofExcept (e.bindings r.names)).completion.withLocation e.location >>= _
  rw [element]
  cases e.bindings r.names with
  | error failure => rfl
  | ok bindings => exact r.completion_applyAll located bindings context none

mutual

theorem completion_node (r : Renderer) : ∀ (node : Node) (context : Context),
    (r.node node context).completion = forM (r.visitsOf node context) r.attempt
  | .raw _, _ => rfl
  | .element ⟨_, _, children, _⟩, context =>
      r.completion_element (completion_nodes r children) context
termination_by structural node => node

/-- Nodes are rendered with success if all visits succeed, and else with the failure of
the first visit that fails. -/
theorem completion_nodes (r : Renderer) : ∀ (nodes : List Node) (context : Context),
    (r.nodes nodes context).completion = forM (r.visits nodes context) r.attempt
  | [], _ => rfl
  | node :: others, context => by
      rw [visits, List.forM_append, ← completion_node r node context,
        ← completion_nodes r others context, nodes]
      cases r.node node context with
      | error failure => rfl
      | ok first => cases r.nodes others context <;> rfl
termination_by structural nodes => nodes

end

/-! ### Whom a visit is about -/

/-- The expression that is evaluated on a visit belongs to a directive of the element. -/
def IsOwn (r : Renderer) (v : Visit) : Prop :=
  match v.duty with
  | .loop expression _ =>
      ∃ a ∈ v.element.start.attributes, a.Binds r.names .loop expression
  | .content expression _ =>
      ∃ a ∈ v.element.start.attributes, ∃ directive, directive.setsContent = true ∧
        a.Binds r.names directive expression
  | _ => True

theorem of_mem_visitsOfBindings (r : Renderer) {e : Element} {inside : Context → List Visit}
    {v : Visit} {bindings : List Binding}
    (own : ∀ b ∈ bindings, ∃ a ∈ e.start.attributes, a.Binds r.names b.directive b.expression)
    {context : Context} {replaced : Bool}
    (member : v ∈ r.visitsOfBindings e inside bindings context replaced) :
    v.element = e ∧ r.IsOwn v ∨ ∃ context', v ∈ inside context' := by
  induction bindings generalizing context replaced with
  | nil =>
      rcases List.mem_cons.mp member with rfl | member
      · exact .inl ⟨rfl, trivial⟩
      · split at member
        · cases member
        · exact .inr ⟨context, member⟩
  | cons binding bindings ih =>
      obtain ⟨first, others⟩ := List.forall_mem_cons.mp own
      obtain ⟨directive, expression⟩ := binding
      cases directive with
      | loop =>
          rcases List.mem_cons.mp member with rfl | member
          · exact .inl ⟨rfl, first⟩
          · split at member
            · obtain ⟨_, _, member⟩ := List.mem_flatMap.mp member
              exact ih others member
            · cases member
      | text =>
          rcases List.mem_cons.mp member with rfl | member
          · obtain ⟨a, among, binds⟩ := first
            exact .inl ⟨rfl, a, among, .text, rfl, binds⟩
          · exact ih others member
      | html =>
          rcases List.mem_cons.mp member with rfl | member
          · obtain ⟨a, among, binds⟩ := first
            exact .inl ⟨rfl, a, among, .html, rfl, binds⟩
          · exact ih others member

mutual

theorem of_mem_visitsOf (r : Renderer) (v : Visit) : ∀ (node : Node) (context : Context),
    v ∈ r.visitsOf node context → v.element ∈ node.elements ∧ r.IsOwn v
  | .raw _, _ => nofun
  | .element ⟨start, place, children, closed⟩, context => by
      intro member
      rcases List.mem_cons.mp member with rfl | member
      · exact ⟨List.mem_cons_self, trivial⟩
      · split at member
        next bindings bound =>
          have own (b : Binding) (among : b ∈ bindings) := Element.exists_binds bound among
          rcases r.of_mem_visitsOfBindings own member with ⟨same, own⟩ | inside
          · rw [same]
            exact ⟨List.mem_cons_self, own⟩
          · obtain ⟨context', member⟩ := inside
            obtain ⟨among, own⟩ := of_mem_visits r v children context' member
            exact ⟨List.mem_cons_of_mem _ among, own⟩
        next => cases member
termination_by structural node => node

/-- A visit is about an element of the nodes and evaluates what belongs to it. -/
theorem of_mem_visits (r : Renderer) (v : Visit) : ∀ (nodes : List Node) (context : Context),
    v ∈ r.visits nodes context → v.element ∈ Node.elementsOfAll nodes ∧ r.IsOwn v
  | [], _ => nofun
  | node :: others, context => by
      intro member
      rw [visits, List.mem_append] at member
      rw [Node.elementsOfAll, List.mem_append]
      rcases member with member | member
      · exact (of_mem_visitsOf r v node context member).imp_left .inl
      · exact (of_mem_visits r v others context member).imp_left .inr
termination_by structural nodes => nodes

end

end Renderer

end LayoutBinding
