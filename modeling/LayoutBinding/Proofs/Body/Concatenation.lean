import LayoutBinding.Body
import LayoutBinding.Proofs.Expression.Joining

/-!
# Bodies one behind the other

A body is rendered segment by segment, and what the segments give is put together in order.
Behind a text that ends in a blank and holds no broken expression every other text is
rendered as it is alone.
-/

namespace LayoutBinding

open Expression Grammar Segment

namespace Body

def literal (cs : List Char) : Body :=
  ⟨String.ofList cs, [], []⟩

@[simp]
theorem empty_append (body : Body) : empty.append body = body := by
  simp [append, empty]

@[simp]
theorem append_empty (body : Body) : body.append empty = body := by
  simp [append, empty]

theorem append_assoc (first second third : Body) :
    (first.append second).append third = first.append (second.append third) := by
  simp [append, String.append_assoc]

theorem literal_nil : literal [] = empty :=
  rfl

theorem literal_append (first second : List Char) :
    literal (first ++ second) = (literal first).append (literal second) := by
  simp [literal, append]

/-- The last hint decides, and the hints of the second body come last. -/
theorem collapsible_append (first second : Body) :
    (first.append second).collapsible = second.collapsible.or first.collapsible := by
  rw [collapsible, append, List.reverse_append, List.find?_append, Option.map_or]
  rfl

end Body

namespace Renderer

def bodySegment (r : Renderer) (context : Context) (escape : Bool) (segment : Segment) :
    Outcome Body :=
  match segment.expression with
  | none => pure ⟨segment.text, [], []⟩
  | some expression => r.bodyPart context escape expression

/-- The body that the segments of a text give. -/
def bodyOfScan (r : Renderer) (context : Context) (escape : Bool) (scan : Scan) :
    Outcome Body := do
  let parts ← scan.process Failure.error (r.bodySegment context escape)
  pure (.concat parts)

/-- Render the rest of a text, which starts at a place. -/
def bodyFrom (r : Renderer) (context : Context) (escape : Bool) (start : Nat)
    (cs : List Char) : Outcome Body :=
  r.bodyOfScan context escape (scanFrom (declaredWith r.names) start cs)

section Rendered

variable {r : Renderer} {context : Context} {escape : Bool}

theorem body_eq_bodyFrom (text : String) :
    r.body context escape text = r.bodyFrom context escape 0 text.toList :=
  rfl

/-! ### Segment by segment -/

theorem bodyOfScan_cons (segment : Segment) (segments : List Segment) (failure : Option Error) :
    r.bodyOfScan context escape ⟨segment :: segments, failure⟩ = (do
      let part ← r.bodySegment context escape segment
      let others ← r.bodyOfScan context escape ⟨segments, failure⟩
      pure (part.append others)) := by
  rw [bodyOfScan, bodyOfScan, Scan.process, Scan.process, List.mapM_cons]
  cases r.bodySegment context escape segment with
  | error failed => rfl
  | ok part =>
      cases segments.mapM (r.bodySegment context escape) with
      | error failed => rfl
      | ok parts => cases failure <;> rfl

theorem bodyOfScan_literal (start stop : Nat) (cs : List Char) (segments : List Segment)
    (failure : Option Error) :
    r.bodyOfScan context escape ⟨literal start stop cs ++ segments, failure⟩ =
      (Body.literal cs).append <$> r.bodyOfScan context escape ⟨segments, failure⟩ := by
  by_cases nothing : cs = []
  · subst nothing
    rw [literal, if_pos rfl, List.nil_append, Body.literal_nil]
    cases r.bodyOfScan context escape ⟨segments, failure⟩ with
    | error failed => rfl
    | ok body => exact congrArg Except.ok (Body.empty_append body).symm
  · rw [literal, if_neg nothing, List.cons_append, List.nil_append, bodyOfScan_cons]
    rfl

/-- Text in which no expression starts stands in front of what the rest gives. -/
theorem bodyFrom_of_plainBefore {run next : List Char} (plain : PlainBefore next run)
    (start : Nat) :
    r.bodyFrom context escape start (run ++ next) =
      (Body.literal (undoubled run)).append <$>
        r.bodyFrom context escape (start + run.length) next := by
  obtain ⟨stop, segments, failure, whole, rest⟩ :=
    scanFrom_of_plainBefore plain (declaredWith r.names) start
  rw [bodyFrom, bodyFrom, whole, rest, bodyOfScan_literal, bodyOfScan_literal,
    Body.literal_append]
  cases r.bodyOfScan context escape ⟨segments, failure⟩ with
  | error failed => rfl
  | ok body => exact congrArg Except.ok (Body.append_assoc _ _ _)

theorem bodyFrom_nil (start : Nat) : r.bodyFrom context escape start [] = .ok .empty := by
  obtain ⟨stop, scanned⟩ := scanFrom_of_run (rfl : literalRun [] = ([], []))
    (declaredWith r.names) start
  rw [bodyFrom, scanned]
  rfl

theorem bodyFrom_plain {run : List Char} (plain : PlainBefore [] run) (start : Nat) :
    r.bodyFrom context escape start run = .ok (.literal (undoubled run)) := by
  have rendered : r.bodyFrom context escape start (run ++ []) = _ :=
    bodyFrom_of_plainBefore plain start
  rw [List.append_nil, bodyFrom_nil] at rendered
  rw [rendered]
  exact congrArg Except.ok (Body.append_empty _)

/-- An expression stands in front of what the rest gives. -/
theorem bodyFrom_of_found {word rest : List Char} {expression : Expression}
    (reads : found (readChain (declaredWith r.names) (word ++ rest)) = some (expression, rest))
    (start : Nat) :
    r.bodyFrom context escape start (word ++ rest) = (do
      let part ← r.bodyPart context escape expression
      let others ← r.bodyFrom context escape (start + word.length) rest
      pure (part.append others)) := by
  have boundary : IsBoundary (word ++ rest) := by
    obtain ⟨name, next, split, named⟩ := exists_of_found_readChain reads
    exact .inr ⟨name ++ next, split, nameStarts_append named next⟩
  have stop : start + ((word ++ rest).length - rest.length) = start + word.length := by
    rw [List.length_append, Nat.add_sub_cancel]
  rw [bodyFrom, scanFrom_of_found (literalRun_of_isBoundary boundary) reads, bodyOfScan_literal,
    bodyOfScan_cons, stop]
  change (Body.literal []).append <$> (do
    let part ← r.bodyPart context escape expression
    let others ← r.bodyFrom context escape (start + word.length) rest
    pure (part.append others)) = _
  simp [Body.literal_nil]

/-! ### One text behind another -/

/-- What a text without a broken expression gives does not depend on where it starts. -/
theorem bodyFrom_of_cutAt {start : Nat} {cs : List Char} {segments : List Segment}
    (cut : CutAt (declaredWith r.names) start cs segments) (place : Nat) :
    r.bodyFrom context escape place cs = r.bodyFrom context escape start cs := by
  induction cut generalizing place with
  | last start plain => rw [bodyFrom_plain plain, bodyFrom_plain plain]
  | @expression start run word rest expression segments plain reads derived cut ih =>
      rw [bodyFrom_of_plainBefore plain, bodyFrom_of_plainBefore plain,
        bodyFrom_of_found reads, bodyFrom_of_found reads, ih]

/-- Behind a text that ends in a blank and is cut to its end, another text is rendered. -/
theorem bodyFrom_append_of_cutAt {start : Nat} {cs : List Char} {segments : List Segment}
    (cut : CutAt (declaredWith r.names) start cs segments) (ends : EndsInBlank cs)
    (more : List Char) :
    r.bodyFrom context escape start (cs ++ more) = (do
      let first ← r.bodyFrom context escape start cs
      let second ← r.bodyFrom context escape (start + cs.length) more
      pure (first.append second)) := by
  induction cut with
  | @last start run plain =>
      have plainMore := plain.append (by rwa [List.append_nil]) more
      rw [List.nil_append] at plainMore
      rw [bodyFrom_of_plainBefore plainMore, bodyFrom_plain plain]
      rfl
  | @expression start run word rest expression segments plain reads derived cut ih =>
      have wordEnds : EndsInBlank (word ++ rest) := by
        refine ends.of_append ?_
        obtain ⟨cs, rfl⟩ := chainAt_head derived
        exact List.cons_ne_nil _ _
      have restEnds := wordEnds.behind (endsInMark_of_chainAt derived)
      have plainMore := plain.append ends more
      have readsMore := found_readChain_append wordEnds reads more
      have lengths : start + (run ++ (word ++ rest)).length =
          start + run.length + word.length + rest.length := by
        rw [List.length_append, List.length_append]
        omega
      rw [List.append_assoc] at plainMore readsMore
      rw [List.append_assoc, List.append_assoc, bodyFrom_of_plainBefore plainMore,
        bodyFrom_of_found readsMore, ih restEnds, bodyFrom_of_plainBefore plain,
        bodyFrom_of_found reads, lengths]
      cases r.bodyPart context escape expression with
      | error failed => rfl
      | ok part =>
          cases r.bodyFrom context escape (start + run.length + word.length) rest with
          | error failed => rfl
          | ok others =>
              cases r.bodyFrom context escape
                  (start + run.length + word.length + rest.length) more with
              | error failed => rfl
              | ok second =>
                  refine congrArg Except.ok ?_
                  rw [Body.append_assoc, Body.append_assoc]

theorem exists_of_bodyOfScan {scan : Scan} {body : Body}
    (rendered : r.bodyOfScan context escape scan = .ok body) :
    ∃ parts, scan.failure = none ∧
      scan.segments.mapM (r.bodySegment context escape) = .ok parts ∧ body = .concat parts := by
  obtain ⟨parts, processed, concatenated⟩ := bind_eq_ok_iff.mp rendered
  cases concatenated
  obtain ⟨results, given, finished⟩ := bind_eq_ok_iff.mp processed
  cases failed : scan.failure with
  | some error =>
      rw [failed] at finished
      cases finished
  | none =>
      rw [failed] at finished
      cases finished
      exact ⟨_, rfl, given, rfl⟩

theorem exists_of_body {text : String} {body : Body}
    (rendered : r.body context escape text = .ok body) :
    ∃ parts, (scan r.names text).failure = none ∧
      (scan r.names text).segments.mapM (r.bodySegment context escape) = .ok parts ∧
      body = .concat parts :=
  exists_of_bodyOfScan rendered

theorem bodyFrom_eq_ok_of {start : Nat} {cs : List Char} {body : Body}
    (rendered : r.bodyFrom context escape start cs = .ok body) (place : Nat) :
    r.bodyFrom context escape place cs = .ok body := by
  obtain ⟨-, finished, -, -⟩ := exists_of_bodyOfScan rendered
  rw [bodyFrom_of_cutAt (cutAt_of_scanFrom finished) place, rendered]

theorem body_append_eq_ok_iff {a b : String} (ends : EndsInBlank a.toList)
    (finished : (scan r.names a).failure = none) {whole : Body} :
    r.body context escape (a ++ b) = .ok whole ↔
      ∃ first second, r.body context escape a = .ok first ∧
        r.body context escape b = .ok second ∧ whole = first.append second := by
  have joined : r.bodyFrom context escape 0 (a.toList ++ b.toList) = _ :=
    bodyFrom_append_of_cutAt (cutAt_of_scanFrom finished) ends b.toList
  rw [← String.toList_append] at joined
  rw [body_eq_bodyFrom, joined]
  constructor
  · intro rendered
    obtain ⟨first, firstRendered, rendered⟩ := bind_eq_ok_iff.mp rendered
    obtain ⟨second, secondRendered, same⟩ := bind_eq_ok_iff.mp rendered
    cases same
    exact ⟨first, second, firstRendered, bodyFrom_eq_ok_of secondRendered 0, rfl⟩
  · rintro ⟨first, second, firstRendered, secondRendered, rfl⟩
    refine bind_eq_ok_iff.mpr ⟨first, firstRendered, ?_⟩
    exact bind_eq_ok_iff.mpr ⟨second, bodyFrom_eq_ok_of secondRendered _, rfl⟩

end Rendered

/-- Behind a text that ends in a blank and holds no broken expression, a text can be rendered
if each of the two can, and what they give is put together; the last hint decides whether the
block can be collapsed. -/
theorem body_append (r : Renderer) (context : Context) (escape : Bool) {a : String}
    (ends : EndsInBlank a.toList) (finished : (scan r.names a).failure = none) (b : String) :
    ((∃ whole, r.body context escape (a ++ b) = .ok whole) ↔
      (∃ first, r.body context escape a = .ok first) ∧
        ∃ second, r.body context escape b = .ok second) ∧
    ∀ first second whole, r.body context escape a = .ok first →
      r.body context escape b = .ok second → r.body context escape (a ++ b) = .ok whole →
        whole.html = first.html ++ second.html ∧ whole.hints = first.hints ++ second.hints ∧
          whole.anchors = first.anchors ++ second.anchors ∧
          whole.collapsible = second.collapsible.or first.collapsible := by
  constructor
  · constructor
    · rintro ⟨whole, rendered⟩
      obtain ⟨first, second, firstRendered, secondRendered, -⟩ :=
        (body_append_eq_ok_iff ends finished).mp rendered
      exact ⟨⟨first, firstRendered⟩, second, secondRendered⟩
    · rintro ⟨⟨first, firstRendered⟩, second, secondRendered⟩
      exact ⟨first.append second, (body_append_eq_ok_iff ends finished).mpr
        ⟨first, second, firstRendered, secondRendered, rfl⟩⟩
  · intro first second whole firstRendered secondRendered rendered
    obtain ⟨_, _, sameFirst, sameSecond, rfl⟩ :=
      (body_append_eq_ok_iff ends finished).mp rendered
    cases firstRendered.symm.trans sameFirst
    cases secondRendered.symm.trans sameSecond
    exact ⟨rfl, rfl, rfl, Body.collapsible_append first second⟩

/-- The first text ends behind an expression that the second one would continue, and both hold
a hint and an anchor. -/
theorem body_append_hints :
    let r : Renderer := ⟨.builtin, []⟩
    let context := Context.ofPage (.record [("title", .string "A & B")]) none .default []
    let a := "$$5 $block.collapsible(true)$section.id(\"top\")$page.title\n"
    let b := ".it('$section.id(\"end\")$block.collapsible(false)$$"
    ∃ first second whole, r.body context true a = .ok first ∧ r.body context true b = .ok second ∧
      r.body context true (a ++ b) = .ok whole ∧
      whole.html = "$5 <a id=\"top\"></a>A &amp; B\n.it('<a id=\"end\"></a>$" ∧
      whole.hints.length = 2 ∧ whole.anchors.length = 2 ∧ whole.collapsible = some false := by
  intro r context a b
  have ends : EndsInBlank a.toList := ⟨'\n', by decide, by decide⟩
  have noFailure : (scan [] a).failure.isNone = true := by decide +kernel
  have finished : (scan [] a).failure = none := Option.isNone_iff_eq_none.mp noFailure
  have firstShown : (r.body context true a).map
      (fun body => (body.html, body.hints.length, body.anchors.length, body.collapsible)) =
        .ok ("$5 <a id=\"top\"></a>A &amp; B\n", 1, 1, some true) := by
    decide +kernel
  have secondShown : (r.body context true b).map
      (fun body => (body.html, body.hints.length, body.anchors.length, body.collapsible)) =
        .ok (".it('<a id=\"end\"></a>$", 1, 1, some false) := by
    decide +kernel
  obtain ⟨first, firstRendered, firstShape⟩ := map_eq_ok_iff.mp firstShown
  obtain ⟨second, secondRendered, secondShape⟩ := map_eq_ok_iff.mp secondShown
  obtain ⟨succeeds, joins⟩ := r.body_append context true ends finished b
  obtain ⟨whole, rendered⟩ := succeeds.mpr ⟨⟨first, firstRendered⟩, second, secondRendered⟩
  obtain ⟨html, hints, anchors, collapsible⟩ :=
    joins first second whole firstRendered secondRendered rendered
  simp only [Prod.mk.injEq] at firstShape secondShape
  refine ⟨first, second, whole, firstRendered, secondRendered, rendered, ?_⟩
  simp [html, hints, anchors, collapsible, firstShape, secondShape]

end Renderer

end LayoutBinding
