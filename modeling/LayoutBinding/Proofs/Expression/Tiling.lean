import Mathlib.Data.List.Chain
import LayoutBinding.Expression.Segment
import LayoutBinding.Proofs.Expression.Front

/-!
# Segments tile the text

The segments of a text that holds no broken expression follow each other from its
start to its end.  No character is lost: an expression stands for itself, and a
literal, in which no expression starts, for its part of the text with every doubled
dollar sign read as one.
-/

namespace LayoutBinding

namespace Segment

open Expression Grammar

/-- Literal text with every doubled dollar sign, from the left, read as one. -/
def undoubled : List Char → List Char
  | '$' :: '$' :: cs => '$' :: undoubled cs
  | c :: cs => c :: undoubled cs
  | [] => []

/-- Text before another text in which no expression starts: a dollar sign is one of a
pair, or what follows it is neither a dollar sign nor the start of a name. -/
inductive PlainBefore (next : List Char) : List Char → Prop
  | nil : PlainBefore next []
  | pair {cs : List Char} (others : PlainBefore next cs) : PlainBefore next ('$' :: '$' :: cs)
  | alone {cs : List Char} (noPair : (cs ++ next).head? ≠ some '$')
      (noName : nameStarts (cs ++ next) = false) (others : PlainBefore next cs) :
      PlainBefore next ('$' :: cs)
  | plain {c : Char} {cs : List Char} (noDollar : c ≠ '$') (others : PlainBefore next cs) :
      PlainBefore next (c :: cs)

/-- Segments that follow each other without a gap between two places, none empty. -/
def Consecutive : Nat → List Segment → Nat → Prop
  | start, [], stop => start = stop
  | start, segment :: segments, stop =>
      segment.start = start ∧ start < segment.stop ∧ Consecutive segment.stop segments stop

/-- A segment stands for its part of a text. -/
def StandsFor (extra : List String) (text : String) (segment : Segment) : Prop :=
  match segment.expression with
  | none =>
      segment.text =
          String.ofList (undoubled (textBetween text segment.start segment.stop).toList) ∧
        PlainBefore (text.toList.drop segment.stop)
          (textBetween text segment.start segment.stop).toList
  | some expression =>
      segment.text = textBetween text segment.start segment.stop ∧
        segment.text = expression.source ∧
        parseAt extra text segment.start = .ok (expression, segment.stop)

/-! ### Literal runs -/

theorem undoubled_cons {c : Char} {cs : List Char}
    (single : c = '$' → cs.head? ≠ some '$') :
    undoubled (c :: cs) = c :: undoubled cs := by
  rw [undoubled]
  rintro others rfl rfl
  exact single rfl rfl

theorem undoubled_eq_nil_iff {cs : List Char} : undoubled cs = [] ↔ cs = [] := by
  fun_cases undoubled cs <;> simp

/-- A run is the literal text of what is in front of its rest, and no expression starts
in it. -/
theorem exists_run_of_literalRun (cs : List Char) :
    ∃ run, cs = run ++ (literalRun cs).2 ∧ (literalRun cs).1 = undoubled run ∧
      PlainBefore (literalRun cs).2 run := by
  fun_induction literalRun cs with
  | case1 => exact ⟨[], rfl, rfl, .nil⟩
  | case2 c =>
      refine ⟨[c], rfl, by rw [undoubled_cons (by simp), undoubled], ?_⟩
      by_cases dollar : c = '$'
      · subst dollar
        exact .alone (by simp) rfl .nil
      · exact .plain dollar .nil
  | case3 cs literal rest reads ih =>
      obtain ⟨run, split, same, plain⟩ := ih
      rw [reads] at split same plain
      exact ⟨'$' :: '$' :: run, by rw [split]; rfl, by rw [undoubled, ← same], .pair plain⟩
  | case4 d cs different starts => exact ⟨[], rfl, rfl, .nil⟩
  | case5 d cs different notStarts literal rest reads ih =>
      -- A dollar sign alone: the next character is none, so no pair starts here.
      obtain ⟨run, split, same, plain⟩ := ih
      rw [reads] at split same plain
      have noPair : (run ++ rest).head? ≠ some '$' := by
        rw [← split]
        simpa using different
      have noName : nameStarts (run ++ rest) = false := by
        rw [← split]
        simpa [nameStarts] using notStarts
      refine ⟨'$' :: run, by rw [split]; rfl, ?_, .alone noPair noName plain⟩
      rw [undoubled_cons, ← same]
      intro _ doubled
      obtain ⟨others, rfl⟩ := List.head?_eq_some_iff.mp doubled
      exact noPair rfl
  | case6 c d cs other literal rest reads ih =>
      obtain ⟨run, split, same, plain⟩ := ih
      rw [reads] at split same plain
      refine ⟨c :: run, by rw [split]; rfl, ?_, .plain other plain⟩
      rw [undoubled_cons fun dollar => absurd dollar other, ← same]

/-! ### The segments of a text -/

/-- The segments of the rest of a text, which starts at a place: literal runs with an
expression after each, and a last literal run. -/
inductive CutAt (declared : List String) : Nat → List Char → List Segment → Prop where
  | last (start : Nat) {run : List Char} (plain : PlainBefore [] run) :
      CutAt declared start run (literal start (start + run.length) (undoubled run))
  | expression (start : Nat) {run word rest : List Char} {expression : Expression}
      {segments : List Segment} (plain : PlainBefore (word ++ rest) run)
      (reads : found (readChain declared (word ++ rest)) = some (expression, rest))
      (derived : ChainAt declared word rest expression)
      (cut : CutAt declared (start + run.length + word.length) rest segments) :
      CutAt declared start (run ++ (word ++ rest))
        (literal start (start + run.length) (undoubled run) ++
          ⟨start + run.length, start + run.length + word.length, expression.source,
            some expression⟩ :: segments)

theorem cutAt_of_scanFrom {declared : List String} {start : Nat} {text : List Char}
    (finished : (scanFrom declared start text).failure = none) :
    CutAt declared start text (scanFrom declared start text).segments := by
  obtain ⟨run, split, same, plain⟩ := exists_run_of_literalRun text
  have place : start + (text.length - (literalRun text).2.length) = start + run.length := by
    have lengths := congrArg List.length split
    rw [List.length_append] at lengths
    omega
  rw [scanFrom] at finished ⊢
  simp only [place, same] at finished ⊢
  by_cases ends : (literalRun text).2 = []
  · rw [ends] at split plain
    rw [List.append_nil] at split
    rw [if_pos ends, split]
    exact .last start plain
  · rw [if_neg ends] at finished ⊢
    cases parsed : parseFront declared (start + run.length) (literalRun text).2 with
    | error error => simp [parsed] at finished
    | ok result =>
        obtain ⟨expression, rest, shorter⟩ := result
        have reads : found (readChain declared (literalRun text).2) =
            some (expression, rest) :=
          parseFront_eq_ok_iff.mp parsed
        obtain ⟨word, wordSplit, derived⟩ := chainAt_of_found reads
        have stop : start + (text.length - rest.length) =
            start + run.length + word.length := by
          have lengths := congrArg List.length split
          rw [wordSplit, List.length_append, List.length_append] at lengths
          omega
        simp only [parsed, stop] at finished ⊢
        have shorterRest : rest.length < text.length :=
          Nat.lt_of_lt_of_le shorter (length_literalRun_le text)
        have after := cutAt_of_scanFrom finished
        rw [wordSplit] at split reads plain
        rw [split]
        exact .expression start plain reads derived after
termination_by text.length

theorem consecutive_append {start middle stop : Nat} {first second : List Segment} :
    Consecutive start first middle → Consecutive middle second stop →
      Consecutive start (first ++ second) stop := by
  intro firstTiles secondTiles
  induction first generalizing start with
  | nil =>
      obtain rfl : start = middle := firstTiles
      exact secondTiles
  | cons segment first ih =>
      obtain ⟨startEq, before, tiles⟩ := firstTiles
      exact ⟨startEq, before, ih tiles⟩

theorem consecutive_literal (start : Nat) (run : List Char) :
    Consecutive start (literal start (start + run.length) (undoubled run))
      (start + run.length) := by
  by_cases empty : run = []
  · subst empty
    rfl
  · have filled := List.length_pos_iff.mpr empty
    rw [literal, if_neg (mt undoubled_eq_nil_iff.mp empty)]
    exact ⟨rfl, by simpa using filled, rfl⟩

theorem consecutive_of_cutAt {declared : List String} {start : Nat} {text : List Char}
    {segments : List Segment} (cut : CutAt declared start text segments) :
    Consecutive start segments (start + text.length) := by
  induction cut with
  | @last start run plain => exact consecutive_literal start run
  | @expression start run word rest expression segments plain reads derived cut ih =>
      refine consecutive_append (consecutive_literal start run) ⟨rfl, ?_, ?_⟩
      · obtain ⟨cs, rfl⟩ := chainAt_head derived
        simp
      · have lengths : start + (run ++ (word ++ rest)).length =
            start + run.length + word.length + rest.length := by
          rw [List.length_append, List.length_append]
          omega
        rw [lengths]
        exact ih

/-- Of two segments one after the other, one is an expression. -/
theorem isChain_of_cutAt {declared : List String} {start : Nat} {text : List Char}
    {segments : List Segment} (cut : CutAt declared start text segments) :
    segments.IsChain fun first second =>
      first.expression.isSome ∨ second.expression.isSome := by
  induction cut with
  | last start plain =>
      rw [literal]
      split <;> simp
  | @expression start run word rest expression segments plain reads derived cut ih =>
      -- An expression may have any neighbour, so only the run in front of it is new.
      have fromExpression := ih.cons (x := ⟨start + run.length,
        start + run.length + word.length, expression.source, some expression⟩) (by simp)
      rw [literal]
      split
      · exact fromExpression
      · exact fromExpression.cons (by simp)

theorem standsFor_of_mem_literal {extra : List String} {text : String} {start : Nat}
    {run rest : List Char} {segment : Segment} (split : text.toList.drop start = run ++ rest)
    (plain : PlainBefore rest run)
    (member : segment ∈ literal start (start + run.length) (undoubled run)) :
    segment.StandsFor extra text := by
  rw [literal] at member
  split at member
  next => simp at member
  next =>
    obtain rfl := List.mem_singleton.mp member
    have behind : text.toList.drop (start + run.length) = rest := by
      rw [← List.drop_drop, split, List.drop_left]
    change String.ofList (undoubled run) = _ ∧ PlainBefore _ _
    rw [textBetween_of_drop split, String.toList_ofList, behind]
    exact ⟨rfl, plain⟩

theorem standsFor_of_cutAt {extra : List String} {text : String} {start : Nat}
    {rest : List Char} {segments : List Segment}
    (cut : CutAt (declaredWith extra) start rest segments)
    (place : text.toList.drop start = rest) :
    ∀ segment ∈ segments, segment.StandsFor extra text := by
  induction cut with
  | last start plain =>
      intro segment member
      exact standsFor_of_mem_literal (by rw [place, List.append_nil]) plain member
  | @expression start run word rest expression segments plain reads derived cut ih =>
      have atExpression : text.toList.drop (start + run.length) = word ++ rest := by
        rw [← List.drop_drop, place, List.drop_left]
      have afterExpression : text.toList.drop (start + run.length + word.length) = rest := by
        rw [← List.drop_drop, atExpression, List.drop_left]
      intro segment member
      rcases List.mem_append.mp member with inRun | member
      · exact standsFor_of_mem_literal place plain inRun
      rcases List.mem_cons.mp member with rfl | after
      · refine ⟨?_, rfl, parseAt_eq_ok_iff.mpr ⟨rest, by rwa [atExpression], ?_⟩⟩
        · rw [textBetween_of_drop atExpression]
          exact source_of_chainAt derived
        · have lengths := congrArg List.length atExpression
          obtain ⟨cs, rfl⟩ := chainAt_head derived
          simp only [List.length_drop, String.length_toList, List.length_append,
            List.length_cons] at lengths ⊢
          omega
      · exact ih afterExpression segment after

/-! ### No character is lost -/

theorem textBetween_append {start middle stop : Nat} (text : String)
    (first : start ≤ middle) (second : middle ≤ stop) :
    textBetween text start middle ++ textBetween text middle stop =
      textBetween text start stop := by
  have lengths : stop - start = middle - start + (stop - middle) := by omega
  have places : middle = start + (middle - start) := by omega
  rw [textBetween, textBetween, textBetween, ← String.ofList_append, lengths, List.take_add,
    List.drop_drop, ← places]

theorem Consecutive.le {segments : List Segment} {start stop : Nat} :
    Consecutive start segments stop → start ≤ stop := by
  induction segments generalizing start with
  | nil =>
      rintro rfl
      exact Nat.le_refl start
  | cons segment segments ih =>
      rintro ⟨rfl, before, tiles⟩
      exact Nat.le_trans (Nat.le_of_lt before) (ih tiles)

/-- Segments that follow each other cover the text between the two places. -/
theorem Consecutive.join_textBetween {segments : List Segment} {start stop : Nat}
    (text : String) (tiles : Consecutive start segments stop) :
    String.join (segments.map fun segment =>
      textBetween text segment.start segment.stop) = textBetween text start stop := by
  induction segments generalizing start with
  | nil =>
      obtain rfl : start = stop := tiles
      simp [textBetween]
  | cons segment segments ih =>
      obtain ⟨rfl, before, tiles⟩ := tiles
      rw [List.map_cons, String.join_cons, ih tiles]
      exact textBetween_append text (Nat.le_of_lt before) tiles.le

/-- The segments of a text without a broken expression tile it: they follow each other
from its start to its end, no two literals are neighbours, and each stands for its
part of the text. -/
theorem scan_tiles (extra : List String) (text : String)
    (finished : (scan extra text).failure = none) :
    Consecutive 0 (scan extra text).segments text.length ∧
      ((scan extra text).segments.IsChain fun first second =>
        first.expression.isSome ∨ second.expression.isSome) ∧
      (∀ segment ∈ (scan extra text).segments, segment.StandsFor extra text) ∧
      String.join ((scan extra text).segments.map fun segment =>
        textBetween text segment.start segment.stop) = text := by
  have cut := cutAt_of_scanFrom finished
  have tiles : Consecutive 0 (scan extra text).segments text.length := by
    have fromStart := consecutive_of_cutAt cut
    rwa [String.length_toList, Nat.zero_add] at fromStart
  refine ⟨tiles, isChain_of_cutAt cut, standsFor_of_cutAt cut List.drop_zero, ?_⟩
  rw [tiles.join_textBetween, textBetween, List.drop_zero, Nat.sub_zero,
    ← String.length_toList, List.take_length, String.ofList_toList]

/-- Runs of dollar signs before, between and after expressions. -/
theorem scan_tiles_dollars :
    (scan [] "$5 $$$page.title$$$$page$loop.it().$").failure = none ∧
      Consecutive 0 (scan [] "$5 $$$page.title$$$$page$loop.it().$").segments 36 ∧
      (scan [] "$5 $$$page.title$$$$page$loop.it().$").segments.map Segment.text =
        ["$5 $", "$page.title", "$$page", "$loop.it()", ".$"] := by
  have finished : (scan [] "$5 $$$page.title$$$$page$loop.it().$").failure = none := by
    have noFailure : (scan [] "$5 $$$page.title$$$$page$loop.it().$").failure.isNone = true := by
      decide +kernel
    exact Option.isNone_iff_eq_none.mp noFailure
  exact ⟨finished, (scan_tiles [] _ finished).1, by decide +kernel⟩

end Segment

end LayoutBinding
