import LayoutBinding.Proofs.Body.Concatenation
import LayoutBinding.Proofs.Link.DeclaredAnchors
import LayoutBinding.Traversal
import Mathlib.Data.List.Infix

/-!
# Anchors of a body

The anchors that a body collects while it is rendered are the ones declared in its text, in
the same order, if every expression that holds what starts a declaration is a plain one
without a dollar sign in front of it.
-/

namespace LayoutBinding

open Expression Grammar Segment Anchor

/-! ### Calls on the namespace of sections -/

section Sections

variable {tools : Toolbox} {context : Context} {extra : List String} {word rest : List Char}
  {expression : Expression}

theorem quotedBody_of_standsForItself {quote : Char} {name : List Char} (noQuote : quote ∉ name)
    (itself : standsForItself name = true) : QuotedBody quote name name := by
  fun_induction standsForItself name with
  | case1 => exact .nil
  | case2 => cases itself
  | case3 c cs ih =>
      rw [List.mem_cons, List.mem_cons, not_or, not_or] at noQuote
      rw [Bool.and_eq_true] at itself
      have other : c ∉ ['n', 't', '\\', '"', '\''] := by simpa using itself.1
      exact .escaped (.other other) (ih noQuote.2.2 itself.2)
  | case4 c cs noEnd noEscape ih =>
      rw [List.mem_cons, not_or] at noQuote
      have noBackslash : c ≠ '\\' := by
        rintro rfl
        cases cs with
        | nil => exact noEnd rfl rfl
        | cons d ds => exact noEscape d ds rfl rfl
      exact .plain (Ne.symm noQuote.1) noBackslash (ih noQuote.2 itself)

/-- A plain declaration is read as the call with its name. -/
theorem eq_of_plainName? {name : List Char}
    (derived : ChainAt (declaredWith extra) word rest expression)
    (plain : plainName? word = some name) :
    expression = ⟨String.ofList word, "section",
      [.call "id" [.literal (.text (String.ofList name))]]⟩ := by
  obtain ⟨front, quote, back, shape, isQuote, blankFront, blankBack, noQuote, -, -, itself⟩ :=
    of_plainName? plain
  have known : String.ofList "section".toList ∈ declaredWith extra :=
    List.mem_append_left extra (by decide)
  have argument : ArgumentAt (declaredWith extra) (quote :: (name ++ [quote])) (back ++ [')'])
      (.literal (.text (String.ofList name))) :=
    .string (.intro isQuote (quotedBody_of_standsForItself noQuote itself))
  have call := SegmentAt.call (nameAt_id _) (.some blankFront blankBack (.last argument))
  have spelled := ChainAt.intro (nameAt_section _) known (.cons call .nil)
  have same : '$' :: ("section".toList ++ '.' :: ("id".toList ++ '(' ::
      (front ++ (quote :: (name ++ [quote]) ++ back) ++ [')']) ++ [])) = word := by
    rw [shape, opening_append, List.append_nil]
    simp only [List.append_assoc, List.cons_append, List.nil_append]
  rw [same, String.ofList_toList, String.ofList_toList] at spelled
  have reads := parse_source_of_chainAt derived
  rw [source_of_chainAt derived] at reads
  have again := parse_source_of_chainAt spelled
  exact Except.ok.inj (reads.symm.trans again)

theorem evaluate_of_plainName? {name : List Char} {value : Value}
    (bound : context.lookup "section" = .ok .sections)
    (derived : ChainAt (declaredWith extra) word rest expression)
    (plain : plainName? word = some name)
    (evaluated : expression.evaluate tools context = .ok value) :
    value = .anchor (.string (String.ofList name)) := by
  rw [eq_of_plainName? derived plain, evaluate, bound] at evaluated
  have called := Outcome.annotate_eq_ok_iff.mp evaluated
  change ((if isBlankText (String.ofList name) then Outcome.refuse .blankAnchor
    else pure (.anchor (.string (String.ofList name)))) >>=
      follow tools context []) = .ok value at called
  split at called
  next => cases called
  next =>
    cases called
    rfl

/-- Without a declaration the namespace of sections gives itself only. -/
theorem evaluate_of_not_opening {value : Value}
    (bound : context.lookup "section" = .ok .sections)
    (derived : ChainAt (declaredWith extra) word rest expression)
    (root : expression.root = "section") (none : ¬opening <:+: word)
    (evaluated : expression.evaluate tools context = .ok value) : value = .sections := by
  cases derived with
  | @intro name steps _ tree named known derived =>
      have rootName : String.ofList name = "section" := root
      rw [evaluate, rootName, bound] at evaluated
      have followed : follow tools context tree .sections = .ok value :=
        Outcome.annotate_eq_ok_iff.mp evaluated
      cases derived with
      | nil =>
          cases followed
          rfl
      | @cons _ steps _ _ _ first others =>
          cases first with
          | field named => cases followed
          | @call called inside _ arguments _ _ =>
              obtain ⟨result, given, -⟩ := bind_eq_ok_iff.mp followed
              obtain ⟨values, -, given⟩ := bind_eq_ok_iff.mp given
              change Value.callSections (String.ofList called) values = .ok result at given
              unfold Value.callSections at given
              split at given
              next isId =>
                -- The source starts with the call, so it starts like a declaration.
                refine absurd ?_ none
                have nameSpelled : name = "section".toList := by
                  rw [← rootName, String.toList_ofList]
                have calledSpelled : called = "id".toList := by
                  rw [← isId, String.toList_ofList]
                subst nameSpelled calledSpelled
                refine List.IsPrefix.isInfix ⟨inside ++ ')' :: steps, ?_⟩
                rw [opening_append]
                simp only [List.append_assoc, List.cons_append, List.nil_append]
              next => cases given

end Sections

/-- Whether an expression gives an anchor. -/
def Expression.givesAnchor (tools : Toolbox) (context : Context) (expression : Expression) : Bool :=
  match expression.evaluate tools context with
  | .ok (.anchor _) => true
  | _ => false

/-! ### The anchors of a body -/

namespace Body

theorem anchors_concat (parts : List Body) :
    (concat parts).anchors = parts.flatMap Body.anchors := by
  induction parts with
  | nil => rfl
  | cons part parts ih =>
      rw [List.flatMap_cons, ← ih]
      rfl

theorem anchors_ofValue_eq_nil {value : Value} (other : ∀ id, value ≠ .anchor id)
    (html : String) : (ofValue value html).anchors = [] := by
  cases value with
  | anchor id => exact absurd rfl (other id)
  | _ => rfl

end Body

namespace Segment

/-- Whether a segment of a text is a plain declaration, with no dollar sign before it, or holds
no start of a declaration. -/
def declaresPlainly (text : String) (segment : Segment) : Bool :=
  match segment.expression with
  | none => true
  | some expression =>
      if opening <:+: expression.source.toList then
        (plainName? expression.source.toList).isSome &&
          (text.toList.take segment.start).getLast? != some '$'
      else
        true

end Segment

def Value.plainContent? : Value → Option String
  | .text ⟨content, false⟩ => some content
  | _ => none

theorem Value.plainContent?_eq_some_iff {value : Value} {s : String} :
    value.plainContent? = some s ↔ value = .string s := by
  constructor
  · intro given
    unfold plainContent? at given
    split at given
    · cases given
      rfl
    · cases given
  · rintro rfl
    rfl

namespace Renderer

section Rendered

variable {r : Renderer} {context : Context} {escape : Bool}

theorem exists_of_bodyPart {expression : Expression} {part : Body}
    (rendered : r.bodyPart context escape expression = .ok part) :
    ∃ value html, expression.evaluate r.tools context = .ok value ∧ part = .ofValue value html := by
  obtain ⟨value, evaluated, rendered⟩ := bind_eq_ok_iff.mp rendered
  obtain ⟨shown, -, rendered⟩ := bind_eq_ok_iff.mp rendered
  cases rendered
  exact ⟨value, _, evaluated, rfl⟩

theorem anchors_of_literal {start stop : Nat} {text : List Char} {parts : List Body}
    (rendered : (literal start stop text).mapM (r.bodySegment context escape) = .ok parts) :
    parts.flatMap Body.anchors = [] := by
  rw [literal] at rendered
  split at rendered
  next =>
    cases rendered
    rfl
  next =>
    cases rendered
    rfl

/-- An expression gives the anchor that is declared in it, if one is. -/
theorem anchors_bodyPart {word rest before : List Char} {expression : Expression} {part : Body}
    (bound : context.lookup "section" = .ok .sections)
    (derived : ChainAt (declaredWith r.names) word rest expression)
    (reads : found (readChain (declaredWith r.names) (word ++ rest)) = some (expression, rest))
    (plain : opening <:+: word → (plainName? word).isSome ∧ before.getLast? ≠ some '$')
    (other : expression.root ≠ "section" → expression.givesAnchor r.tools context = false)
    (rendered : r.bodyPart context escape expression = .ok part) :
    (namesFrom 0 (dollarAfter false before) (word ++ rest)).map
        (fun name => Value.string (String.ofList name)) =
      part.anchors ++ (namesFrom 0 (dollarAfter false (before ++ word)) rest).map
        fun name => Value.string (String.ofList name) := by
  obtain ⟨value, html, evaluated, rfl⟩ := exists_of_bodyPart rendered
  by_cases declares : opening <:+: word
  · obtain ⟨isPlain, noDollar⟩ := plain declares
    obtain ⟨name, isPlain⟩ := Option.isSome_iff_exists.mp isPlain
    have free : dollarAfter false before = false := by
      rw [dollarAfter_eq]
      exact decide_eq_false noDollar
    obtain rfl := evaluate_of_plainName? bound derived isPlain evaluated
    rw [dollarAfter_append, free, namesFrom_of_plainName? isPlain]
    rfl
  · have noAnchor : ∀ id, value ≠ .anchor id := by
      rintro id rfl
      by_cases root : expression.root = "section"
      · cases evaluate_of_not_opening bound derived root declares evaluated
      · have none := other root
        rw [givesAnchor, evaluated] at none
        cases none
    rw [namesFrom_of_chainAt derived reads declares, dollarAfter_append,
      Body.anchors_ofValue_eq_nil noAnchor, List.nil_append]

theorem anchors_of_cutAt {text : String} {start : Nat} {cs : List Char} {segments : List Segment}
    (bound : context.lookup "section" = .ok .sections)
    (cut : CutAt (declaredWith r.names) start cs segments)
    {before : List Char} (place : start = before.length) (whole : text.toList = before ++ cs)
    (plain : ∀ segment ∈ segments, segment.declaresPlainly text = true)
    (others : ∀ segment ∈ segments, ∀ expression ∈ segment.expression,
      expression.root ≠ "section" → expression.givesAnchor r.tools context = false)
    {parts : List Body} (rendered : segments.mapM (r.bodySegment context escape) = .ok parts) :
    parts.flatMap Body.anchors =
      (namesFrom 0 (dollarAfter false before) cs).map fun name => .string (String.ofList name) := by
  induction cut generalizing before parts with
  | @last start run free =>
      have nothing := @namesFrom_plainBefore (dollarAfter false before) [] run free
      rw [List.append_nil] at nothing
      rw [nothing, anchors_of_literal rendered]
      rfl
  | @expression start run word rest expression segments free reads derived cut ih =>
      rw [List.mapM_append] at rendered
      obtain ⟨runParts, runRendered, rendered⟩ := bind_eq_ok_iff.mp rendered
      obtain ⟨otherParts, otherRendered, same⟩ := bind_eq_ok_iff.mp rendered
      cases same
      obtain ⟨part, afterParts, partRendered, afterRendered, rfl⟩ :=
        mapM_cons_eq_ok_iff.mp otherRendered
      have inside := List.mem_append_right (literal start (start + run.length) (undoubled run))
        (@List.mem_cons_self _ ⟨start + run.length, start + run.length + word.length,
          expression.source, some expression⟩ segments)
      have isPlain : opening <:+: word →
          (plainName? word).isSome ∧ (before ++ run).getLast? ≠ some '$' := by
        intro declares
        have given := plain _ inside
        have spelled : expression.source.toList = word := by
          rw [source_of_chainAt derived, String.toList_ofList]
        have front : text.toList.take (start + run.length) = before ++ run := by
          rw [whole, place, ← List.length_append, ← List.append_assoc, List.take_left]
        simpa [declaresPlainly, spelled, declares, front] using given
      have placeAfter : start + run.length + word.length = (before ++ run ++ word).length := by
        rw [List.length_append, List.length_append, place]
      have wholeAfter : text.toList = before ++ run ++ word ++ rest := by
        rw [whole, List.append_assoc, List.append_assoc]
      have after := ih placeAfter wholeAfter
        (fun segment member => plain segment (List.mem_append_right _ (.tail _ member)))
        (fun segment member => others segment (List.mem_append_right _ (.tail _ member)))
        afterRendered
      rw [List.flatMap_append, anchors_of_literal runRendered, List.nil_append, List.flatMap_cons,
        after, namesFrom_plainBefore free, ← dollarAfter_append]
      exact (anchors_bodyPart bound derived reads isPlain (others _ inside expression rfl)
        partRendered).symm

end Rendered

/-- The anchors of a body are the ones declared in its text, in the same order, if all of its
declarations are plain and what else it holds gives no anchor. -/
theorem body_anchors (r : Renderer) {page : Value} {index : Option LinkIndex} {config : Config}
    {extra : List (String × Value)} {escape : Bool} {text : String} {body : Body}
    (free : Entries.contains extra "section" = false)
    (rendered : r.body (.ofPage page index config extra) escape text = .ok body)
    (plain : ∀ segment ∈ (scan r.names text).segments, segment.declaresPlainly text = true)
    (others : ∀ segment ∈ (scan r.names text).segments, ∀ expression ∈ segment.expression,
      expression.root ≠ "section" →
        expression.givesAnchor r.tools (.ofPage page index config extra) = false) :
    body.anchors = (declaredAnchors text).map .string := by
  obtain ⟨parts, finished, given, rfl⟩ := exists_of_body rendered
  have bound := Context.lookup_section_ofPage page index config free
  have whole : text.toList = [] ++ text.toList := rfl
  have anchors := anchors_of_cutAt bound (cutAt_of_scanFrom finished) rfl whole plain others given
  rw [Body.anchors_concat, anchors, declaredAnchors, List.map_map]
  rfl

/-- Dollar signs in the text, both sorts of quotes, and another expression. -/
theorem body_anchors_guide :
    let r : Renderer := ⟨.builtin, []⟩
    let page : Value := .record [("title", .string "Guide")]
    let text := "$5 or $$9 $section.id(\"setup\")Setup of $page.title $section.id( 'use' )"
    ∃ body, r.body (.ofPage page none .default []) false text = .ok body ∧
      (∀ segment ∈ (scan r.names text).segments, segment.declaresPlainly text = true) ∧
      (∀ segment ∈ (scan r.names text).segments, ∀ expression ∈ segment.expression,
        expression.root ≠ "section" →
          expression.givesAnchor r.tools (.ofPage page none .default []) = false) ∧
      body.anchors = [.string "setup", .string "use"] := by
  intro r page text
  have computed : (r.body (.ofPage page none .default []) false text).map (fun _ => ()) = .ok () := by
    decide +kernel
  obtain ⟨body, rendered, -⟩ := map_eq_ok_iff.mp computed
  have plain : ∀ segment ∈ (scan r.names text).segments, segment.declaresPlainly text = true := by
    decide +kernel
  have others : ∀ segment ∈ (scan r.names text).segments, ∀ expression ∈ segment.expression,
      expression.root ≠ "section" →
        expression.givesAnchor r.tools (.ofPage page none .default []) = false := by
    decide +kernel
  have declared : declaredAnchors text = ["setup", "use"] := by decide +kernel
  have anchors := r.body_anchors rfl rendered plain others
  rw [declared] at anchors
  exact ⟨body, rendered, plain, others, anchors⟩

/-- After a pair of dollar signs a declaration is not found, but its anchor is rendered. -/
theorem body_anchors_ne :
    let r : Renderer := ⟨.builtin, []⟩
    ∃ body, r.body (.ofPage .absent none .default []) false "$$$section.id(\"a\")" = .ok body ∧
      body.anchors = [.string "a"] ∧ declaredAnchors "$$$section.id(\"a\")" = [] := by
  intro r
  have computed : (r.body (.ofPage .absent none .default []) false "$$$section.id(\"a\")").map
      (fun body => body.anchors.map Value.plainContent?) = .ok [some "a"] := by
    decide +kernel
  obtain ⟨body, rendered, shape⟩ := map_eq_ok_iff.mp computed
  obtain ⟨anchor, anchors, plain⟩ := List.map_eq_singleton_iff.mp shape
  obtain rfl := Value.plainContent?_eq_some_iff.mp plain
  exact ⟨body, rendered, anchors, by decide +kernel⟩

end Renderer

end LayoutBinding
