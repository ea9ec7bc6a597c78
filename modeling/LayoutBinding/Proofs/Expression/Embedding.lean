import LayoutBinding.Fault
import LayoutBinding.Proofs.Expression.Tiling

/-!
# Embedding expressions in a text

A text with every dollar sign doubled is read as itself.  Expressions can be written
between such texts, if what follows each of them cannot continue it: each is read back as
far as it was written, and nothing else is read as an expression.
-/

namespace LayoutBinding

namespace Segment

open Expression Grammar

/-- Literal text with every dollar sign written twice. -/
def doubled (cs : List Char) : List Char :=
  cs.flatMap fun c => if c = '$' then ['$', '$'] else [c]

@[simp]
theorem doubled_nil : doubled [] = [] :=
  rfl

@[simp]
theorem doubled_dollar (cs : List Char) : doubled ('$' :: cs) = '$' :: '$' :: doubled cs :=
  rfl

theorem doubled_cons {c : Char} (other : c ≠ '$') (cs : List Char) :
    doubled (c :: cs) = c :: doubled cs := by
  simp [doubled, other]

/-! ### Literal runs -/

/-- Nothing comes next, or a dollar sign that a name follows. -/
def IsBoundary (next : List Char) : Prop :=
  next = [] ∨ ∃ cs, next = '$' :: cs ∧ nameStarts cs = true

theorem literalRun_of_isBoundary {next : List Char} (boundary : IsBoundary next) :
    literalRun next = ([], next) := by
  rcases boundary with rfl | ⟨cs, rfl, starts⟩
  · rfl
  · cases cs with
    | nil => cases starts
    | cons d cs =>
        have named : startsName d = true := starts
        have notDollar : d ≠ '$' := by
          rintro rfl
          exact absurd named (by decide +kernel)
        simp [literalRun, notDollar, named]

theorem literalRun_cons {c : Char} (other : c ≠ '$') (cs : List Char) :
    literalRun (c :: cs) = (c :: (literalRun cs).1, (literalRun cs).2) := by
  cases cs with
  | nil => rfl
  | cons d cs => simp [literalRun, other]

/-- A doubled text is a literal run up to where an expression starts. -/
theorem literalRun_doubled (cs : List Char) {next : List Char} (boundary : IsBoundary next) :
    literalRun (doubled cs ++ next) = (cs, next) := by
  induction cs with
  | nil => exact literalRun_of_isBoundary boundary
  | cons c cs ih =>
      by_cases dollar : c = '$'
      · subst dollar
        simp [literalRun, ih]
      · rw [doubled_cons dollar, List.cons_append, literalRun_cons dollar, ih]

/-! ### Equations of the scan -/

theorem scanFrom_of_literalRun {declared : List String} {text cs next : List Char}
    (run : literalRun text = (cs, next)) (start : Nat) :
    scanFrom declared start text =
      let place := start + (text.length - next.length)
      if next = [] then
        ⟨literal start place cs, none⟩
      else
        match parseFront declared place next with
        | .error error => ⟨literal start place cs, some error⟩
        | .ok (expression, ⟨rest, _⟩) =>
            let stop := start + (text.length - rest.length)
            let after := scanFrom declared stop rest
            ⟨literal start place cs ++
              ⟨place, stop, expression.source, some expression⟩ :: after.segments,
              after.failure⟩ := by
  obtain rfl : (literalRun text).1 = cs := by rw [run]
  obtain rfl : (literalRun text).2 = next := by rw [run]
  rw [scanFrom]
  by_cases finished : (literalRun text).2 = []
  · simp only [if_pos finished]
  · simp only [if_neg finished]
    cases parseFront declared (start + (text.length - (literalRun text).2.length))
        (literalRun text).2 with
    | error e => rfl
    | ok result => rfl

theorem scanFrom_of_run {text cs : List Char} (run : literalRun text = (cs, []))
    (declared : List String) (start : Nat) :
    ∃ stop, scanFrom declared start text = ⟨literal start stop cs, none⟩ := by
  rw [scanFrom_of_literalRun run]
  exact ⟨_, if_pos rfl⟩

theorem scanFrom_of_found {declared : List String} {text cs next rest : List Char}
    {expression : Expression} (run : literalRun text = (cs, next))
    (reads : found (readChain declared next) = some (expression, rest)) (start : Nat) :
    scanFrom declared start text =
      let place := start + (text.length - next.length)
      let stop := start + (text.length - rest.length)
      ⟨literal start place cs ++
          ⟨place, stop, expression.source, some expression⟩ ::
            (scanFrom declared stop rest).segments,
        (scanFrom declared stop rest).failure⟩ := by
  obtain ⟨short, -⟩ := found_eq_some_iff.mp reads
  have given : next ≠ [] := by
    rintro rfl
    exact Nat.not_lt_zero _ short
  have parsed (place : Nat) :
      parseFront declared place next = .ok (expression, ⟨rest, short⟩) :=
    parseFront_eq_ok_iff.mpr reads
  rw [scanFrom_of_literalRun run]
  simp only [if_neg given, parsed]

/-! ### Insets -/

/-- An expression written in a text, and the literal text after it. -/
structure Inset where
  source : String
  expression : Expression
  /-- The literal text up to the next expression or to the end. -/
  literal : String

namespace Inset

/-- What insets are written as. -/
def written : List Inset → List Char
  | [] => []
  | inset :: insets => inset.source.toList ++ (doubled inset.literal.toList ++ written insets)

/-- A text with insets, in which literal text has its dollar signs doubled. -/
def embedded (first : String) (insets : List Inset) : String :=
  String.ofList (doubled first.toList ++ written insets)

/-- Each source is a whole expression without blanks around it, and what follows it cannot
continue it. -/
def Fit (extra : List String) : List Inset → Prop
  | [] => True
  | inset :: insets =>
      trimBlanks inset.source = inset.source ∧
        parse extra inset.source = .ok inset.expression ∧
        Stops (doubled inset.literal.toList ++ written insets) ∧ Fit extra insets

/-- What is written of insets starts with an expression, or nothing is written. -/
theorem isBoundary_written {extra : List String} {insets : List Inset}
    (fit : Fit extra insets) : IsBoundary (written insets) := by
  cases insets with
  | nil => exact .inl rfl
  | cons inset insets =>
      obtain ⟨trimmed, parsed, -, -⟩ := fit
      have derived := chainAt_of_parse trimmed parsed
      rw [written]
      generalize inset.source.toList = word, inset.expression = expression at derived
      cases derived with
      | @intro name steps _ _ named =>
          rw [List.cons_append, List.append_assoc]
          exact .inr ⟨_, rfl, nameStarts_append named _⟩

end Inset

/-! ### Reading insets back -/

def replaced {ε : Type} (render : Expression → Except ε String) (segment : Segment) :
    Except ε String :=
  match segment.expression with
  | none => pure segment.text
  | some expression => render expression

theorem expressions_literal (start stop : Nat) (cs : List Char) :
    (literal start stop cs).filterMap Segment.expression = [] := by
  rw [literal]
  split <;> simp

theorem mapM_replaced_literal {ε : Type} (render : Expression → Except ε String)
    (start stop : Nat) (cs : List Char) :
    ∃ texts, (literal start stop cs).mapM (replaced render) = .ok texts ∧
      String.join texts = String.ofList cs := by
  rw [literal]
  split
  next nothing => exact ⟨[], rfl, by simp [nothing]⟩
  next => exact ⟨[String.ofList cs], rfl, by simp⟩

theorem join_mapM_replaced {ε : Type} (render : Expression → Except ε String)
    (start place stop : Nat) (cs : List Char) (expression : Expression)
    (segments : List Segment) :
    String.join <$> (literal start place cs ++
        ⟨place, stop, expression.source, some expression⟩ :: segments).mapM (replaced render) =
      render expression >>= fun text =>
        (String.ofList cs ++ text ++ ·) <$> String.join <$> segments.mapM (replaced render) := by
  obtain ⟨texts, literals, joined⟩ := mapM_replaced_literal render start place cs
  have literals : (literal start place cs).mapM (replaced render) = pure texts := literals
  rw [List.mapM_append, literals, List.mapM_cons]
  simp [replaced, joined, String.append_assoc]

/-- What is written of insets after literal text is scanned to the end.  Its expressions are
those of the insets, and its segments are replaced by the literal texts and by what the
expressions are replaced by, in order. -/
theorem scanFrom_written {extra : List String} {insets : List Inset}
    (fit : Inset.Fit extra insets) (start : Nat) (cs : List Char) :
    let scan := scanFrom (declaredWith extra) start (doubled cs ++ Inset.written insets)
    scan.failure = none ∧
      scan.segments.filterMap Segment.expression = insets.map Inset.expression ∧
      ∀ {ε : Type} (render : Expression → Except ε String),
        String.join <$> scan.segments.mapM (replaced render) =
          (fun shown => String.ofList cs ++ String.join shown) <$>
            insets.mapM fun inset => (· ++ inset.literal) <$> render inset.expression := by
  induction insets generalizing start cs with
  | nil =>
      have run := literalRun_doubled cs (Inset.isBoundary_written fit)
      obtain ⟨stop, scanned⟩ := scanFrom_of_run run (declaredWith extra) start
      dsimp only
      rw [scanned]
      refine ⟨rfl, expressions_literal _ _ _, fun render => ?_⟩
      obtain ⟨texts, replaces, joined⟩ := mapM_replaced_literal render start stop cs
      rw [replaces]
      change Except.ok (String.join texts) = Except.ok (String.ofList cs ++ "")
      rw [joined, String.append_empty]
  | cons inset insets ih =>
      have run := literalRun_doubled cs (Inset.isBoundary_written fit)
      obtain ⟨trimmed, parsed, stops, fit⟩ := fit
      have reads := found_of_chainAt stops (chainAt_of_parse trimmed parsed)
      obtain ⟨finished, same, replaces⟩ := ih fit _ inset.literal.toList
      dsimp only
      rw [scanFrom_of_found run reads start]
      refine ⟨finished, ?_, fun render => ?_⟩
      · rw [List.filterMap_append, expressions_literal, List.map_cons, ← same]
        rfl
      · rw [join_mapM_replaced, replaces, List.mapM_cons]
        simp [String.append_assoc]

theorem substitute_of_finished {ε : Type} {extra : List String} {text : String}
    (finished : (scan extra text).failure = none) (failed : Error → ε)
    (render : Expression → Except ε String) :
    substitute extra text failed render =
      String.join <$> (scan extra text).segments.mapM (replaced render) := by
  change (do
    let parts ← (scan extra text).process failed (replaced render)
    pure (String.join parts)) = _
  rw [Scan.process, finished]
  simp

/-- The scan of a text with insets and what the text becomes. -/
theorem scan_embedded {extra : List String} {insets : List Inset}
    (fit : Inset.Fit extra insets) (first : String) :
    (scan extra (Inset.embedded first insets)).segments.filterMap Segment.expression =
        insets.map Inset.expression ∧
      ∀ {ε : Type} (failed : Error → ε) (render : Expression → Except ε String),
        substitute extra (Inset.embedded first insets) failed render =
          (fun shown => first ++ String.join shown) <$>
            insets.mapM fun inset => (· ++ inset.literal) <$> render inset.expression := by
  obtain ⟨finished, expressions, replaces⟩ := scanFrom_written fit 0 first.toList
  have scanned : scan extra (Inset.embedded first insets) =
      scanFrom (declaredWith extra) 0 (doubled first.toList ++ Inset.written insets) := by
    rw [scan, Inset.embedded, String.toList_ofList]
  rw [← scanned] at finished expressions replaces
  refine ⟨expressions, fun failed render => ?_⟩
  rw [substitute_of_finished finished, replaces, String.ofList_toList]

/-- Expressions that are written between texts with doubled dollar signs are found in order,
and nothing else is: replacing the expressions gives the texts themselves with the
replacements between them.  In particular a text with doubled dollar signs holds no
expression and gives itself, whatever expressions are replaced by. -/
theorem substitute_embedded {extra : List String} {insets : List Inset}
    (fit : Inset.Fit extra insets) (first : String) :
    (scan extra (Inset.embedded first insets)).segments.filterMap Segment.expression =
        insets.map Inset.expression ∧
      (∀ {ε : Type} (failed : Error → ε) (render : Expression → Except ε String),
        substitute extra (Inset.embedded first insets) failed render =
          (fun shown => first ++ String.join shown) <$>
            insets.mapM fun inset => (· ++ inset.literal) <$> render inset.expression) ∧
      (∀ {ε : Type} (failed : Error → ε) (render : Expression → String),
        substitute extra (Inset.embedded first insets) failed (fun x => .ok (render x)) =
          .ok (first ++ String.join (insets.map fun inset =>
            render inset.expression ++ inset.literal))) ∧
      ∀ text : String,
        (scan extra (String.ofList (doubled text.toList))).segments.filterMap
            Segment.expression = [] ∧
          ∀ {ε : Type} (failed : Error → ε) (render : Expression → Except ε String),
            substitute extra (String.ofList (doubled text.toList)) failed render = .ok text := by
  obtain ⟨expressions, replaces⟩ := scan_embedded fit first
  refine ⟨expressions, replaces, fun failed render => ?_, fun text => ?_⟩
  · rw [replaces]
    change (fun shown => first ++ String.join shown) <$>
      insets.mapM (fun inset => pure (render inset.expression ++ inset.literal)) = _
    rw [List.mapM_pure]
    rfl
  · have alone : Inset.embedded text [] = String.ofList (doubled text.toList) := by
      rw [Inset.embedded, Inset.written, List.append_nil]
    have fit : Inset.Fit extra [] := trivial
    obtain ⟨expressions, replaces⟩ := scan_embedded fit text
    rw [alone] at expressions replaces
    refine ⟨expressions, fun failed render => ?_⟩
    rw [replaces]
    change Except.ok (text ++ "") = _
    rw [String.append_empty]

/-- Expressions that touch each other, with dollar signs around them. -/
theorem substitute_embedded_touching :
    ∃ insets : List Inset,
      Inset.Fit [] insets ∧
        insets.map Inset.source = ["$page.title", "$loop.it('$')", "$page"] ∧
        Inset.embedded "$" insets = "$$$page.title$loop.it('$')$$ (5$page." ∧
        ∀ render : Expression → String,
          substitute [] (Inset.embedded "$" insets) (id : Error → Error)
              (fun x => .ok (render x)) =
            .ok ("$" ++ String.join (insets.map fun inset =>
              render inset.expression ++ inset.literal)) := by
  have parses : ∀ source ∈ ["$page.title", "$loop.it('$')", "$page"],
      trimBlanks source = source ∧ (parse [] source).toOption.isSome := by
    decide +kernel
  simp only [List.forall_mem_cons, Option.isSome_iff_exists, toOption_eq_some_iff] at parses
  obtain ⟨⟨titleTrimmed, title, titleRead⟩, ⟨itemTrimmed, item, itemRead⟩,
    ⟨pageTrimmed, page, pageRead⟩, -⟩ := parses
  have dollar (cs : List Char) : Stops ('$' :: cs) :=
    ⟨endsRun_cons (by decide +kernel) cs, by simp, by simp⟩
  have point : Stops ['.'] :=
    ⟨endsRun_cons (by decide +kernel) [], by simp, by simp [nameStarts]⟩
  have fit : Inset.Fit [] [⟨"$page.title", title, ""⟩, ⟨"$loop.it('$')", item, "$ (5"⟩,
      ⟨"$page", page, "."⟩] := by
    refine ⟨titleTrimmed, titleRead, ?_, itemTrimmed, itemRead, ?_, pageTrimmed, pageRead, ?_,
      trivial⟩
    · simp [Inset.written, doubled, dollar]
    · simp [Inset.written, doubled, dollar]
    · simp [Inset.written, doubled, point]
  exact ⟨_, fit, rfl, by simp [Inset.embedded, Inset.written, doubled],
    (substitute_embedded fit "$").2.2.1 id⟩

end Segment

end LayoutBinding
