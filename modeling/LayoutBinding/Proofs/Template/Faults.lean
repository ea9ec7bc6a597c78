import LayoutBinding.Proofs.Evaluation.Faults
import LayoutBinding.Proofs.Template.Provenance

/-!
# Faults of renderings

Rendering a template for a page ends with an output or with an error for the author.  There
are two ways out of that: a date of the page that leaves the calendar when it is moved to the
configured zone, and a number of the page that is too long to be written.
-/

namespace LayoutBinding

open Outcome

variable {stops : Fault → Prop}

/-! ### Expressions that are read -/

theorem Expression.isRead_of_parse {names : List String} {text : String} {x : Expression}
    (parsed : parse names text = .ok x) : x.IsRead :=
  ⟨_, _, _, parse_eq_ok_iff.mp parsed⟩

theorem Expression.kind_of_parseAt_eq_error {names : List String} {text : String} {start : Nat}
    {e : Error} (fails : parseAt names text start = .error e) : e.kind = .parse := by
  unfold parseAt parseFront at fails
  split at fails
  next => cases fails
  next error failed =>
    cases fails
    split at failed
    next => cases failed
    next fault _ =>
      cases failed
      cases fault <;> rfl

namespace Segment

open Expression

/-- The expressions of a scan are read, also before the place where it fails. -/
theorem isRead_of_mem_scanFrom {declared : List String} {start : Nat} {text : List Char}
    {segment : Segment} (member : segment ∈ (scanFrom declared start text).segments)
    {x : Expression} (embedded : segment.expression = some x) : x.IsRead := by
  have noRun (start stop : Nat) (run : List Char) : segment ∉ literal start stop run := by
    unfold literal
    intro member
    split at member
    · cases member
    · cases List.mem_singleton.mp member
      cases embedded
  rw [scanFrom] at member
  dsimp only at member
  by_cases ends : (literalRun text).2 = []
  · rw [if_pos ends] at member
    exact absurd member (noRun _ _ _)
  · rw [if_neg ends] at member
    cases parsed : parseFront declared (start + (text.length - (literalRun text).2.length))
        (literalRun text).2 with
    | error error =>
        rw [parsed] at member
        exact absurd member (noRun _ _ _)
    | ok result =>
        obtain ⟨y, rest, shorter⟩ := result
        rw [parsed] at member
        rcases List.mem_append.mp member with inRun | member
        · exact absurd inRun (noRun _ _ _)
        · rcases List.mem_cons.mp member with rfl | after
          · cases embedded
            obtain ⟨word, -, derived⟩ := chainAt_of_found (parseFront_eq_ok_iff.mp parsed)
            exact ⟨declared, word, rest, derived⟩
          · have shorterRest : rest.length < text.length :=
              Nat.lt_of_lt_of_le shorter (length_literalRun_le text)
            exact isRead_of_mem_scanFrom after embedded
termination_by text.length

end Segment

theorem Scan.yields_process {α : Type} {scan : Scan} {f : Segment → Outcome α}
    (each : ∀ segment ∈ scan.segments, (f segment).Yields stops fun _ => True)
    (special : ∀ e, scan.failure = some e → e.kind ≠ .general) :
    Yields stops (fun _ => True) (scan.process Failure.error f) := by
  refine (Yields.mapM each).bind fun _ _ => ?_
  cases failed : scan.failure with
  | none => trivial
  | some e => exact special e failed

/-- What is put in for the expressions of a text decides how replacing them ends. -/
theorem yields_substitute {names : List String} (text : String)
    {render : Expression → Outcome String}
    (each : ∀ x, x.IsRead → (render x).Yields stops fun _ => True) :
    Yields stops (fun _ => True) (substitute names text Failure.error render) := by
  refine Yields.bind (Scan.yields_process (fun segment member => ?_) fun e failed => ?_)
    fun _ _ => trivial
  · cases embedded : segment.expression with
    | none => trivial
    | some x => exact each x (Segment.isRead_of_mem_scanFrom member embedded)
  · obtain ⟨_, _, -, unread⟩ := Segment.exists_of_scan_failure failed
    rw [Expression.kind_of_parseAt_eq_error unread]
    nofun

theorem Element.kind_of_bindings_eq_error {names : List String} {e : Element} {error : Error}
    (fails : e.bindings names = .error error) : error.kind = .parse := by
  obtain ⟨⟨directive, value⟩, -, fails⟩ := exists_of_mapM_eq_error (map_eq_error_iff.mp fails)
  simp only [Element.binding] at fails
  split at fails
  · cases fails
    rfl
  · split at fails
    · cases fails
      rfl
    · split at fails
      next => cases fails
      next failure unread =>
        cases fails
        exact (Expression.kind_of_parse_eq_error unread :)

namespace Renderer

variable (functions : FunctionTable) (names : List String)

/-! ### Start tags -/

section

variable {context : Context} (safe : context.IsSafe stops)

include safe

theorem yields_shown {x : Expression} (read : x.IsRead) :
    ((Renderer.mk (.withFunctions functions) names).shown context x).Yields stops
      fun _ => True :=
  ((x.yields_evaluate functions safe read).bind fun _ => Value.yields_toText).annotate _ _

theorem yields_items {x : Expression} (read : x.IsRead) :
    ((Renderer.mk (.withFunctions functions) names).items context x).Yields stops fun items =>
      (∀ item ∈ items, item.Safe context.zone? stops) ∧
        ((Numeral.limited? items.length).isNone = true → stops .numberTooLong) :=
  ((x.yields_evaluate functions safe read).bind fun _ => Value.yields_toItems).annotate _ _

theorem yields_interpolate (value : String) :
    ((Renderer.mk (.withFunctions functions) names).interpolate context value).Yields stops
      fun _ => True :=
  yields_substitute value fun _ read =>
    (yields_shown functions names safe read).map fun _ _ => trivial

theorem yields_attributeText (writtenName : String) (a : Attribute) :
    ((Renderer.mk (.withFunctions functions) names).attributeText context writtenName a).Yields
      stops fun _ => True := by
  unfold attributeText
  split
  · trivial
  · trivial
  · dsimp only
    split
    · exact (yields_interpolate functions names safe _).bind fun _ _ => trivial
    · trivial

theorem yields_startTag (e : Element) :
    ((Renderer.mk (.withFunctions functions) names).startTag context e).Yields stops
      fun _ => True := by
  unfold startTag
  dsimp only
  split
  · exact (Yields.mapM fun (writtenName, a) _ =>
      yields_attributeText functions names safe writtenName a).bind fun _ _ => trivial
  · trivial

end

/-! ### Elements -/

theorem yields_emit (e : Element) {inside : Context → Outcome String}
    (yields : ∀ context, context.IsSafe stops → (inside context).Yields stops fun _ => True)
    {context : Context} (safe : context.IsSafe stops) (content : Option String) :
    ((Renderer.mk (.withFunctions functions) names).emit e inside context content).Yields stops
      fun _ => True := by
  unfold emit
  refine (yields_startTag functions names safe e).bind fun start _ => ?_
  dsimp only
  split
  · trivial
  · split
    · trivial
    · split
      · trivial
      · exact (yields context safe).bind fun _ _ => trivial

theorem yields_applyAll {inside : Context → Option String → Outcome String}
    (yields : ∀ context, context.IsSafe stops → ∀ content,
      (inside context content).Yields stops fun _ => True)
    {bindings : List Binding} (read : ∀ b ∈ bindings, b.expression.IsRead) {context : Context}
    (safe : context.IsSafe stops) (content : Option String) :
    ((Renderer.mk (.withFunctions functions) names).applyAll inside bindings context
      content).Yields stops fun _ => True := by
  induction bindings generalizing context content with
  | nil => exact yields context safe content
  | cons binding bindings ih =>
      obtain ⟨first, others⟩ := List.forall_mem_cons.mp read
      obtain ⟨directive, x⟩ := binding
      cases directive with
      | loop =>
          refine (yields_items functions names safe first).bind fun items ⟨fine, short⟩ => ?_
          have turn (item : Value) (index : Nat) (among : (item, index) ∈ items.zipIdx) :=
            safe.enterLoop short (fine item (List.fst_mem_of_mem_zipIdx among))
              (List.snd_lt_of_mem_zipIdx among)
          exact (Yields.mapM fun (item, index) among =>
            ih others (turn item index among) content).bind fun _ _ => trivial
      | text => exact (yields_shown functions names safe first).bind fun _ _ => ih others safe _
      | html => exact (yields_shown functions names safe first).bind fun _ _ => ih others safe _

theorem yields_element (e : Element) {inside : Context → Outcome String}
    (yields : ∀ context, context.IsSafe stops → (inside context).Yields stops fun _ => True)
    {context : Context} (safe : context.IsSafe stops) :
    ((Renderer.mk (.withFunctions functions) names).element e inside context).Yields stops
      fun _ => True := by
  have bound : (ofExcept (e.bindings names)).Yields stops fun bindings =>
      ∀ b ∈ bindings, b.expression.IsRead := by
    refine yields_ofExcept (fun bindings made b member => ?_) fun error fails general => ?_
    · obtain ⟨a, -, -, written, -, parsed⟩ := Element.exists_binds made member
      exact Expression.isRead_of_parse parsed
    · rw [Element.kind_of_bindings_eq_error fails] at general
      cases general
  refine (bound.bind fun bindings read => ?_).annotate _ _
  exact yields_applyAll functions names
    (fun _ safe content => yields_emit functions names e yields safe content) read safe none

mutual

theorem yields_node : ∀ (n : Node) (context : Context), context.IsSafe stops →
    ((Renderer.mk (.withFunctions functions) names).node n context).Yields stops fun _ => True
  | .raw _, _, _ => trivial
  | .element ⟨_, _, children, _⟩, _, safe =>
      yields_element functions names _ (yields_nodes children) safe
termination_by structural n => n

theorem yields_nodes : ∀ (ns : List Node) (context : Context), context.IsSafe stops →
    ((Renderer.mk (.withFunctions functions) names).nodes ns context).Yields stops fun _ => True
  | [], _, _ => trivial
  | n :: others, context, safe =>
      (yields_node n context safe).bind fun _ _ =>
        (yields_nodes others context safe).bind fun _ _ => trivial
termination_by structural ns => ns

end

/-! ### Pages -/

/-- Rendering a template for a page gives an output or an error of a special sort, unless a
date of the page cannot be moved to the configured zone or a number of the page is too long
to be written.  What may stand in a page is any value but a function, and an anchor only
with a text for its name. -/
theorem template_faults_of_page (t : Template) (p : Page) (index : Option LinkIndex)
    (config : Config) (inert : ∀ part ∈ (Value.page p).parts, part.isInert = true) :
    let outcome := (Renderer.mk (.withFunctions functions) names).template t
      (.ofPage (.page p) index config [])
    let zone := config.timezone.map TimeZone.zone
    (∃ output, outcome = .ok output) ∨
    (∃ e, outcome = .error (.error e) ∧ e.kind ≠ .general) ∨
    (outcome = .error (.fault .dateOutOfRange) ∧
      ∃ part ∈ (Value.page p).parts, part.isStranded zone = true) ∨
    (outcome = .error (.fault .numberTooLong) ∧
      ∃ part ∈ (Value.page p).parts, part.isTooLong = true) := by
  intro outcome zone
  let stops (fault : Fault) : Prop :=
    (fault = .dateOutOfRange ∧ ∃ part ∈ (Value.page p).parts, part.isStranded zone = true) ∨
    (fault = .numberTooLong ∧ ∃ part ∈ (Value.page p).parts, part.isTooLong = true)
  have fine : (Value.page p).Safe zone stops := fun part member =>
    ⟨inert part member, fun long => .inr ⟨rfl, part, member, long⟩,
      fun stranded => .inl ⟨rfl, part, member, stranded⟩⟩
  have ends : outcome.Yields stops fun _ => True :=
    yields_nodes functions names t.nodes _ (Context.isSafe_ofPage fine index)
  cases given : outcome with
  | ok output => exact .inl ⟨output, rfl⟩
  | error failure =>
      rw [given] at ends
      cases failure with
      | error e => exact .inr (.inl ⟨e, rfl, ends⟩)
      | fault fault =>
          rcases ends with ⟨rfl, stranded⟩ | ⟨rfl, long⟩
          · exact .inr (.inr (.inl ⟨rfl, stranded⟩))
          · exact .inr (.inr (.inr ⟨rfl, long⟩))

/-- A page with a tag, a date in universal time, and some further data. -/
def datedPage (d : Date) : Page :=
  ⟨"a", .string "Go", .moment ⟨d, .midnight, some .universal⟩, .absent, [.string "go"], .absent,
    [("rating", .list [.whole 5, .truth true, .mapping false [("by", .absent)]])], [], "", "", []⟩

/-- Every item of a sequence of a page, with the date of the page. -/
def datedList (sequence : String) : Template :=
  ⟨[.element ⟨⟨"p", [⟨":loop", some sequence⟩, ⟨"title", some "$page.date.iso()"⟩,
    ⟨":text", some "$loop.it"⟩], "", "p", [":loop", "title", ":text"], false⟩, .start, [], true⟩],
    none⟩

/-- The configuration with a zone one hour behind universal time. -/
def behindConfig : Config :=
  { Config.default with timezone := some (.fixed ⟨-3600000000, none, by decide⟩) }

/-- A mapping has no text, and nothing in the page can end the rendering otherwise. -/
theorem template_faults_of_page_rating :
    let p := datedPage ⟨2024, 5, 1, by decide⟩
    let outcome (sequence : String) := (Renderer.mk .builtin []).template (datedList sequence)
      (.ofPage (.page p) none behindConfig [])
    (∀ part ∈ (Value.page p).parts, part.isInert = true) ∧
      outcome "$page.tags" = .ok "<p title=\"2024-04-30T23:00:00-01:00\">go</p>" ∧
      ∃ e, outcome "$page.rating" = .error (.error e) ∧ e.kind ≠ .general := by
  intro p outcome
  have inert : ∀ part ∈ (Value.page p).parts, part.isInert = true := by decide
  have movable : ∀ part ∈ (Value.page p).parts,
      part.isStranded (behindConfig.timezone.map TimeZone.zone) = false := by decide +kernel
  have short : ∀ part ∈ (Value.page p).parts, part.isTooLong = false := by decide +kernel
  have rendered : outcome "$page.tags" =
      .ok "<p title=\"2024-04-30T23:00:00-01:00\">go</p>" := by decide +kernel
  have refused : (outcome "$page.rating").toOption = none := by decide +kernel
  refine ⟨inert, rendered, ?_⟩
  obtain ⟨output, given⟩ | failed | ⟨-, part, among, stranded⟩ | ⟨-, part, among, long⟩ :=
    template_faults_of_page (fun _ _ => .ok none) [] (datedList "$page.rating") p none
      behindConfig inert
  · have given : outcome "$page.rating" = .ok output := given
    rw [← toOption_eq_some_iff, refused] at given
    cases given
  · exact failed
  · cases stranded.symm.trans (movable part among)
  · cases long.symm.trans (short part among)

/-- Moving the first moment of the calendar to a zone behind its own ends in a fault. -/
theorem not_documented_in_year_one :
    let p := datedPage ⟨1, 1, 1, by decide⟩
    let outcome := (Renderer.mk .builtin []).template (datedList "$page.tags")
      (.ofPage (.page p) none behindConfig [])
    (∀ part ∈ (Value.page p).parts, part.isInert = true) ∧
      ¬ ((∃ output, outcome = .ok output) ∨ ∃ e, outcome = .error (.error e)) := by
  intro p outcome
  have inert : ∀ part ∈ (Value.page p).parts, part.isInert = true := by decide
  have fault : outcome = .error (.fault .dateOutOfRange) := by decide +kernel
  refine ⟨inert, ?_⟩
  rw [fault]
  rintro (⟨output, ⟨⟩⟩ | ⟨e, ⟨⟩⟩)

end Renderer

end LayoutBinding
