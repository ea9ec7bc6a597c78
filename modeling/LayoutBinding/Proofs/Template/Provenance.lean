import LayoutBinding.Proofs.Evaluation.Blame
import LayoutBinding.Proofs.Expression.Tiling
import LayoutBinding.Proofs.Template.RenderingOrder
import LayoutBinding.Proofs.Text.Trimming

/-!
# Where errors come from

The error of a rendering names an element and the part of its own start tag that failed.
The element is the one of the first visit that fails: neither an element around it nor
one inside it is blamed.
-/

namespace LayoutBinding

open Outcome

/-! ### Embedded expressions -/

namespace Expression

/-- What is shown of a text: its longest start that is one line of at most sixty characters. -/
structure IsExcerpt (text : List Char) (shown : String) : Prop where
  starts : shown.toList <+: text
  oneLine : '\n' ∉ shown.toList
  short : shown.toList.length ≤ 60
  longest : ∀ start, start <+: text → '\n' ∉ start → start.length ≤ 60 →
    start.length ≤ shown.toList.length

theorem isExcerpt_excerpt (text : List Char) : IsExcerpt text (excerpt text) where
  starts := by
    rw [excerpt, String.toList_ofList]
    exact (List.take_prefix 60 _).trans (List.takeWhile_prefix _)
  oneLine := by
    rw [excerpt, String.toList_ofList]
    intro member
    simpa using List.mem_takeWhile_imp (List.mem_of_mem_take member)
  short := by
    rw [excerpt, String.toList_ofList]
    exact List.length_take_le 60 _
  longest := by
    rintro start ⟨more, rfl⟩ oneLine short
    have kept : ∀ c ∈ start, (!decide (c = '\n')) = true := by
      intro c member
      simpa using ne_of_mem_of_not_mem member oneLine
    rw [excerpt, String.toList_ofList, List.length_take]
    apply le_min short
    simp only [ne_eq, decide_not]
    rw [List.takeWhile_append_of_pos kept, List.length_append]
    exact Nat.le_add_right _ _

theorem parseFront_eq_error {declared : List String} {before : Nat} {input : List Char}
    {e : Error} (fails : parseFront declared before input = .error e) :
    e = ⟨e.cause, some (excerpt input), none⟩ := by
  unfold parseFront at fails
  split at fails
  · cases fails
  · cases fails
    rfl

theorem parseAt_eq_error {names : List String} {text : String} {start : Nat} {e : Error}
    (fails : parseAt names text start = .error e) :
    e = ⟨e.cause, some (excerpt (text.toList.drop start)), none⟩ := by
  unfold parseAt at fails
  split at fails
  · cases fails
  next parsed =>
    cases fails
    exact parseFront_eq_error parsed

theorem parse_eq_error {names : List String} {text : String} {e : Error}
    (fails : parse names text = .error e) :
    e = ⟨e.cause, some (String.ofList (trim Character.isBlank text.toList)), none⟩ := by
  simp only [parse] at fails
  split at fails
  · cases fails
  · cases fails
    rfl

end Expression

namespace Segment

theorem exists_cons_of_literalRun {cs : List Char} (given : (literalRun cs).2 ≠ []) :
    ∃ rest, (literalRun cs).2 = '$' :: rest := by
  fun_induction literalRun cs <;> simp_all

open Expression in
/-- A scan fails at a dollar sign where no expression can be read. -/
theorem exists_of_scanFrom_failure {declared : List String} {start : Nat} {text : List Char}
    {e : Error} (fails : (scanFrom declared start text).failure = some e) :
    ∃ before rest, text = before ++ '$' :: rest ∧
      parseFront declared (start + before.length) ('$' :: rest) = .error e := by
  obtain ⟨run, split, -⟩ := exists_run_of_literalRun text
  have place : text.length - (literalRun text).2.length = run.length := by
    have lengths := congrArg List.length split
    rw [List.length_append] at lengths
    omega
  rw [scanFrom] at fails
  simp only [place] at fails
  by_cases ends : (literalRun text).2 = []
  · rw [if_pos ends] at fails
    cases fails
  · rw [if_neg ends] at fails
    cases parsed : parseFront declared (start + run.length) (literalRun text).2 with
    | error error =>
        rw [parsed] at fails
        cases fails
        obtain ⟨rest, same⟩ := exists_cons_of_literalRun ends
        rw [same] at split parsed
        exact ⟨run, rest, split, parsed⟩
    | ok result =>
        obtain ⟨expression, rest, shorter⟩ := result
        obtain ⟨word, wordSplit, -⟩ := chainAt_of_found (parseFront_eq_ok_iff.mp parsed)
        have whole : text = (run ++ word) ++ rest := by
          rw [List.append_assoc, ← wordSplit]
          exact split
        have stop : text.length - rest.length = run.length + word.length := by
          rw [whole, List.length_append, List.length_append, Nat.add_sub_cancel]
        simp only [parsed, stop] at fails
        have shorterRest : rest.length < text.length :=
          Nat.lt_of_lt_of_le shorter (length_literalRun_le text)
        obtain ⟨before, broken, restSplit, fails⟩ := exists_of_scanFrom_failure fails
        refine ⟨run ++ word ++ before, broken, ?_, ?_⟩
        · rw [whole, restSplit, List.append_assoc _ before]
        · rwa [List.length_append, List.length_append, ← Nat.add_assoc]
termination_by text.length

theorem exists_of_scan_failure {names : List String} {text : String} {e : Error}
    (fails : (scan names text).failure = some e) :
    ∃ before rest, text.toList = before ++ '$' :: rest ∧
      Expression.parseAt names text before.length = .error e := by
  obtain ⟨before, rest, split, fails⟩ := exists_of_scanFrom_failure fails
  have behind : text.toList.drop before.length = '$' :: rest := by
    rw [split, List.drop_left]
  rw [Nat.zero_add, ← behind] at fails
  refine ⟨before, rest, split, ?_⟩
  rw [Expression.parseAt, fails]

end Segment

theorem Scan.exists_of_process_eq_error {ε α : Type} {s : Scan} {failed : Error → ε}
    {f : Segment → Except ε α} {failure : ε} (fails : s.process failed f = .error failure) :
    (∃ e, s.failure = some e ∧ failure = failed e) ∨
      ∃ segment ∈ s.segments, f segment = .error failure := by
  rw [process] at fails
  cases processed : s.segments.mapM f with
  | error other =>
      rw [processed] at fails
      cases fails
      exact .inr (exists_of_mapM_eq_error processed)
  | ok results =>
      rw [processed] at fails
      cases ended : s.failure with
      | none =>
          simp only [ended] at fails
          cases fails
      | some e =>
          simp only [ended] at fails
          cases fails
          exact .inl ⟨e, rfl, rfl⟩

theorem substitute_eq_error {names : List String} {text : String}
    {render : Expression → Outcome String} {failure : Failure}
    (fails : substitute names text Failure.error render = .error failure) :
    (∃ e, (Segment.scan names text).failure = some e ∧ failure = .error e) ∨
      ∃ s ∈ (Segment.scan names text).segments, ∃ x, s.expression = some x ∧
        render x = .error failure := by
  have fails := map_eq_error_iff.mp ((map_eq_pure_bind _ _).trans fails)
  rcases (Segment.scan names text).exists_of_process_eq_error fails with ended | stuck
  · exact .inl ended
  · obtain ⟨segment, among, fails⟩ := stuck
    cases embedded : segment.expression with
    | none =>
        rw [embedded] at fails
        cases fails
    | some x =>
        rw [embedded] at fails
        exact .inr ⟨segment, among, x, embedded, fails⟩

namespace Renderer

/-- A visit fails because of a part of the element's own start tag. -/
inductive Blames (r : Renderer) : Visit → String → Cause → Prop
  /-- A directive is to set the content of an element that has none. -/
  | voidContent {e : Element} {a : Attribute} {directive : Directive}
      (own : a ∈ e.start.attributes) (asked : Directive.ofName? a.name = some directive)
      (sets : directive.setsContent) (isVoid : e.isVoid) :
      Blames r ⟨e, .binding⟩ (a.name ++ "=\"" ++ a.value.getD "" ++ "\"")
        (.voidContent a.name e.name)
  | missing {e : Element} {a : Attribute} {directive : Directive}
      (own : a ∈ e.start.attributes) (asked : Directive.ofName? a.name = some directive)
      (blank : ∀ c ∈ (a.value.getD "").toList, Character.isBlank c = true) :
      Blames r ⟨e, .binding⟩ (a.name ++ "=\"\"") (.missingExpression a.name)
  /-- The value of a directive, without the blanks around it, is no expression. -/
  | malformed {e : Element} {a : Attribute} {directive : Directive} {written source : String}
      {error : Error}
      (own : a ∈ e.start.attributes) (asked : Directive.ofName? a.name = some directive)
      (given : a.value = some written)
      (unread : Expression.parse r.names written = .error error)
      (trimmed : IsTrimmed Character.isBlank written.toList source.toList) :
      Blames r ⟨e, .binding⟩ source error.cause
  /-- The expression of a loop gives no items. -/
  | loop {e : Element} {a : Attribute} {x : Expression} {context : Context} {source : String}
      {cause : Cause}
      (own : a ∈ e.start.attributes) (binds : a.Binds r.names .loop x)
      (blames : x.BlamesIn r.tools context Value.toItems source cause) :
      Blames r ⟨e, .loop x context⟩ source cause
  /-- The expression of the content gives no text. -/
  | content {e : Element} {a : Attribute} {directive : Directive} {x : Expression}
      {context : Context} {source : String} {cause : Cause}
      (own : a ∈ e.start.attributes) (binds : a.Binds r.names directive x)
      (sets : directive.setsContent)
      (blames : x.BlamesIn r.tools context Value.toText source cause) :
      Blames r ⟨e, .content x context⟩ source cause
  /-- An expression in the value of an attribute gives no text. -/
  | attribute {e : Element} {a : Attribute} {value : String} {segment : Segment} {x : Expression}
      {context : Context} {source : String} {cause : Cause}
      (own : a ∈ e.start.attributes) (plain : Directive.ofName? a.name = none)
      (given : a.value = some value) (among : segment ∈ (Segment.scan r.names value).segments)
      (embedded : segment.expression = some x)
      (blames : x.BlamesIn r.tools context Value.toText source cause) :
      Blames r ⟨e, .startTag context⟩ source cause
  /-- A dollar sign starts an expression in the value of an attribute, but none can be read
  there. -/
  | unreadable {e : Element} {a : Attribute} {value source : String} {before rest : List Char}
      {error : Error} {context : Context}
      (own : a ∈ e.start.attributes) (plain : Directive.ofName? a.name = none)
      (given : a.value = some value) (split : value.toList = before ++ '$' :: rest)
      (unread : Expression.parseAt r.names value before.length = .error error)
      (shown : Expression.IsExcerpt ('$' :: rest) source) :
      Blames r ⟨e, .startTag context⟩ source error.cause

/-- Binding the directives of an element fails because of one of them. -/
theorem blames_of_bindings (r : Renderer) {e : Element} {error : Error}
    (fails : e.bindings r.names = .error error) :
    ∃ source, error = ⟨error.cause, some source, some e.location⟩ ∧
      r.Blames ⟨e, .binding⟩ source error.cause := by
  obtain ⟨⟨directive, value⟩, among, fails⟩ :=
    exists_of_mapM_eq_error (map_eq_error_iff.mp fails)
  obtain ⟨a, own, found⟩ := List.mem_filterMap.mp among
  obtain ⟨directive, asked, same⟩ := Option.map_eq_some_iff.mp found
  cases same
  have named := Directive.attributeName_of_ofName? asked
  change e.binding r.names directive a.value = .error error at fails
  simp only [Element.binding] at fails
  split at fails
  next voidContent =>
    cases fails
    obtain ⟨sets, isVoid⟩ := (Bool.and_eq_true _ _).mp voidContent
    rw [named]
    exact ⟨_, rfl, .voidContent own asked sets isVoid⟩
  next =>
    split at fails
    next blank =>
      cases fails
      have excerpt : a.name ++ "=\"" ++ "" ++ "\"" = a.name ++ "=\"\"" := by
        rw [String.append_empty, String.append_assoc]
        rfl
      rw [named, excerpt]
      exact ⟨_, rfl, .missing own asked (List.all_eq_true.mp blank)⟩
    next blank =>
      cases given : a.value with
      | none => simp [given, isBlankText] at blank
      | some written =>
          rw [given] at fails
          split at fails
          next => cases fails
          next error unread =>
            cases fails
            have trimmed : IsTrimmed Character.isBlank written.toList
                (String.ofList (trim Character.isBlank written.toList)).toList := by
              rw [String.toList_ofList]
              exact isTrimmed_trim _ _
            have blames : r.Blames ⟨e, .binding⟩ _ error.cause :=
              .malformed own asked given unread trimmed
            refine ⟨_, ?_, blames⟩
            rw [Expression.parse_eq_error unread]
            rfl

variable {r : Renderer} (bare : r.tools.IsBare) {context : Context}

include bare

theorem blamesIn_of_shown {x : Expression} {e : Error}
    (fails : r.shown context x = .error (.error e)) :
    ∃ source, e = ⟨e.cause, some source, none⟩ ∧
      x.BlamesIn r.tools context Value.toText source e.cause :=
  Expression.exists_blamesIn bare Value.isBare_toText fails

theorem blamesIn_of_items {x : Expression} {e : Error}
    (fails : r.items context x = .error (.error e)) :
    ∃ source, e = ⟨e.cause, some source, none⟩ ∧
      x.BlamesIn r.tools context Value.toItems source e.cause :=
  Expression.exists_blamesIn bare Value.isBare_toItems fails

/-- Writing a start tag fails because of an attribute without a directive. -/
theorem blames_of_startTag {e : Element} {error : Error}
    (fails : r.startTag context e = .error (.error error)) :
    ∃ source, error = ⟨error.cause, some source, none⟩ ∧
      r.Blames ⟨e, .startTag context⟩ source error.cause := by
  have changed : (e.start.attributes.any changesTag || e.start.raw = "") = true := by
    by_contra same
    simp only [startTag] at fails
    rw [if_neg same] at fails
    cases fails
  rw [r.startTag_eq_of_changed context e changed] at fails
  obtain ⟨⟨writtenName, a⟩, among, fails⟩ :=
    exists_of_mapM_eq_error (map_eq_error_iff.mp (map_eq_error_iff.mp fails))
  have own : a ∈ e.start.attributes := (List.of_mem_zip among).2
  change r.attributeText context writtenName a = .error (.error error) at fails
  cases plain : Directive.ofName? a.name with
  | some directive =>
      simp only [attributeText, plain] at fails
      cases fails
  | none =>
      cases given : a.value with
      | none =>
          simp only [attributeText, plain, given] at fails
          cases fails
      | some value =>
          rw [r.attributeText_of_some context writtenName plain given] at fails
          have fails := map_eq_error_iff.mp fails
          split at fails
          next =>
            rcases substitute_eq_error fails with unread | stuck
            · obtain ⟨inner, scanned, same⟩ := unread
              cases same
              obtain ⟨before, rest, split, unread⟩ := Segment.exists_of_scan_failure scanned
              have shape := Expression.parseAt_eq_error unread
              rw [split, List.drop_left] at shape
              exact ⟨_, shape, .unreadable own plain given split unread
                (Expression.isExcerpt_excerpt _)⟩
            · obtain ⟨segment, among, x, embedded, fails⟩ := stuck
              obtain ⟨source, shape, blames⟩ :=
                blamesIn_of_shown bare (map_eq_error_iff.mp fails)
              exact ⟨source, shape, .attribute own plain given among embedded blames⟩
          next => cases fails

/-- The error of a visit names the element visited and what is to blame in its start tag. -/
theorem blames_of_attempt {v : Visit} (own : r.IsOwn v) {error : Error}
    (failed : r.attempt v = .error (.error error)) :
    ∃ source, error = ⟨error.cause, some source, some v.element.location⟩ ∧
      r.Blames v source error.cause := by
  obtain ⟨inner, fails, rfl⟩ := exists_of_annotate_eq_error failed
  obtain ⟨e, duty⟩ := v
  cases duty with
  | binding =>
      have fails := map_eq_error_iff.mp fails
      cases bound : e.bindings r.names with
      | ok bindings =>
          rw [show Element.bindings r.names e = _ from bound] at fails
          cases fails
      | error found =>
          rw [show Element.bindings r.names e = _ from bound] at fails
          cases fails
          obtain ⟨source, shape, blames⟩ := r.blames_of_bindings bound
          refine ⟨source, ?_, blames⟩
          rw [shape]
          rfl
  | loop x context =>
      obtain ⟨a, among, binds⟩ := own
      obtain ⟨source, shape, blames⟩ :=
        blamesIn_of_items bare (completion_eq_error_iff.mp fails)
      refine ⟨source, ?_, .loop among binds blames⟩
      rw [shape]
      rfl
  | content x context =>
      obtain ⟨a, among, directive, sets, binds⟩ := own
      obtain ⟨source, shape, blames⟩ :=
        blamesIn_of_shown bare (completion_eq_error_iff.mp fails)
      refine ⟨source, ?_, .content among binds sets blames⟩
      rw [shape]
      rfl
  | startTag context =>
      obtain ⟨source, shape, blames⟩ :=
        blames_of_startTag bare (completion_eq_error_iff.mp fails)
      refine ⟨source, ?_, blames⟩
      rw [shape]
      rfl

/-- The error of a rendering comes from the first visit that fails: it names the place of
the element visited, and as its source the part of the start tag of this very element
that is to blame. -/
theorem template_blames_first_failing {t : Template} {error : Error}
    (failed : r.template t context = .error (.error error)) :
    ∃ before v after source, r.visits t.nodes context = before ++ v :: after ∧
      (∀ earlier ∈ before, r.visit earlier = .ok ()) ∧
      v.element ∈ t.elements ∧
      error = ⟨error.cause, some source, some v.element.location⟩ ∧
      r.Blames v source error.cause := by
  have fails := completion_eq_error_iff.mpr failed
  rw [template, completion_nodes] at fails
  obtain ⟨before, v, after, split, succeed, fails⟩ := forM_eq_error_iff.mp fails
  have visited : v ∈ r.visits t.nodes context := by simp [split]
  obtain ⟨among, own⟩ := r.of_mem_visits v t.nodes context visited
  obtain ⟨source, shape, blames⟩ := blames_of_attempt bare own fails
  refine ⟨before, v, after, source, split, ?_, among, shape, blames⟩
  exact fun earlier member => annotate_eq_ok_iff.mp (succeed earlier member)

omit bare

/-- A list whose items hold a link with the tags of a row. -/
def rowList : Template :=
  ⟨[.element ⟨⟨"ul", [⟨":loop", some "$rows"⟩], "<ul :loop='$rows'>", "ul", [":loop"], false⟩,
      ⟨1, 0⟩, [.raw "- ", .element ⟨⟨"a", [⟨"href", some "/"⟩,
        ⟨"title", some "in $loop.it.tags.join($loop.it.between)"⟩], "", "a", ["href", "title"],
        false⟩, ⟨2, 4⟩, [.raw "tags"], true⟩], true⟩], none⟩

/-- The second row lacks the field that an argument asks for. -/
def rowContext : Context :=
  .ofNamespaces [("rows", .list
    [.record [("tags", .list [.string "go"]), ("between", .string ", ")],
      .record [("tags", .list [.string "lean"])]])] .default

/-- An element with one attribute, in a line of its own. -/
def oneAttribute (name : String) (a : Attribute) : Template :=
  ⟨[.raw "* ", .element ⟨⟨name, [a], "", name, [a.name], false⟩, ⟨3, 2⟩, [], false⟩], none⟩

/-- An element and its attribute for each way to be to blame, with the source and the cause of
the error.  The last value has two lines, and in the first of them a call that goes wrong. -/
def blamed : List ((String × Attribute) × String × Cause) :=
  [(("img", ⟨":text", some " $rows "⟩), ":text=\" $rows \"", .voidContent ":text" "img"),
    (("p", ⟨":html", some " "⟩), ":html=\"\"", .missingExpression ":html"),
    (("p", ⟨":text", some " $rows. "⟩), "$rows.", .malformed .emptySegment 6),
    (("ul", ⟨":loop", some " $rows.len "⟩), "$rows.len", .noSequence "number"),
    (("p", ⟨":text", some " $rows.first.name "⟩), "$rows.first.name", .noField "record" "name"),
    (("a", ⟨"title", some "all of $rows"⟩), "$rows", .noText "sequence" false),
    (("a", ⟨"title", some
        "$$ $rows.len: $rows.join(', ' or whatever else there is to put between them)\nand $rows"⟩),
      "$rows.join(', ' or whatever else there is to put between the",
      .malformed (.afterArgument 'o' "join") 30)]

theorem template_blames_first_failing_row :
    let r : Renderer := ⟨.builtin, ["rows"]⟩
    let error : Error := ⟨.noField "record" "between", some "$loop.it.between",
      some "<a> at line 2, column 5"⟩
    r.tools.IsBare ∧ r.template rowList rowContext = .error (.error error) ∧
      (∃ before v after source, r.visits rowList.nodes rowContext = before ++ v :: after ∧
        (∀ earlier ∈ before, r.visit earlier = .ok ()) ∧
        v.element ∈ rowList.elements ∧
        error = ⟨error.cause, some source, some v.element.location⟩ ∧
        r.Blames v source error.cause) ∧
      ∀ part ∈ blamed,
        let t := oneAttribute part.1.1 part.1.2
        r.template t rowContext = .error (.error ⟨part.2.2, some part.2.1,
          some ("<" ++ part.1.1 ++ "> at line 3, column 3")⟩) ∧
        ∃ before v after, r.visits t.nodes rowContext = before ++ v :: after ∧
          (∀ earlier ∈ before, r.visit earlier = .ok ()) ∧
          v.element ∈ t.elements ∧ r.Blames v part.2.1 part.2.2 := by
  intro r error
  have failed : r.template rowList rowContext = .error (.error error) := by decide +kernel
  have allFail : ∀ part ∈ blamed,
      r.template (oneAttribute part.1.1 part.1.2) rowContext = .error (.error ⟨part.2.2,
        some part.2.1, some ("<" ++ part.1.1 ++ "> at line 3, column 3")⟩) := by decide +kernel
  refine ⟨Toolbox.isBare_builtin, failed,
    r.template_blames_first_failing Toolbox.isBare_builtin failed, fun part member => ?_⟩
  have fails := allFail part member
  obtain ⟨before, v, after, source, split, passed, among, shape, blames⟩ :=
    r.template_blames_first_failing Toolbox.isBare_builtin fails
  obtain rfl : part.2.1 = source := Option.some.inj (congrArg Error.source shape)
  exact ⟨fails, before, v, after, split, passed, among, blames⟩

end Renderer

end LayoutBinding
