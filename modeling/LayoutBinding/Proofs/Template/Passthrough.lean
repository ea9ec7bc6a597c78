import LayoutBinding.Proofs.Template.Pieces
import LayoutBinding.Proofs.Template.Transcript

/-!
# Templates that are copied

A template that binds nothing is written out piece by piece.  Most pieces are copied; the
others are written in one way, however they were spelled: references end with a semicolon,
end tags are spelled like their start tags, and comments and marked sections have one sort
of end.  So such a template is copied as a whole just where all its pieces are spelled in
this way and none of them is lost.
-/

namespace LayoutBinding

namespace Piece

/-- What a piece gives in the output when elements with these start tags are open. -/
def output (opened : List StartTag) (p : Piece) : List Char :=
  match p.event with
  | some event => (event.text opened).toList
  | none => []

/-- The start tags of the open elements after a piece. -/
def openAfter (opened : List StartTag) (p : Piece) : List StartTag :=
  match p.event with
  | some event => event.openAfter opened
  | none => opened

/-- What pieces give in order. -/
def outputs : List StartTag → List Piece → List Char
  | _, [] => []
  | opened, p :: pieces => p.output opened ++ outputs (p.openAfter opened) pieces

theorem outputs_eq_transcript (opened : List StartTag) (pieces : List Piece) :
    outputs opened pieces = (Event.transcript opened (events pieces)).toList := by
  induction pieces generalizing opened with
  | nil => rfl
  | cons p pieces ih =>
      obtain ⟨event, written⟩ := p
      cases event with
      | none => exact ih opened
      | some event =>
          rw [outputs, ih]
          exact String.toList_append.symm

/-- Whether a piece is spelled in the way in which its event is written. -/
def isCopied (opened : List StartTag) (p : Piece) : Bool :=
  match p.event with
  | some (.nameReference _) => p.written.getLast? = some ';'
  | some (.numberReference _) => p.written.getLast? = some ';'
  | some (.endTag name) => p.written = ((Event.endTag name).text opened).toList
  | some (.comment text) => p.written = ("<!--" ++ text ++ "-->").toList
  | some (.section text) => p.written = ("<![" ++ text ++ "]>").toList
  | some _ => true
  | none => false

/-- Whether all pieces are spelled in this way. -/
def areCopied : List StartTag → List Piece → Bool
  | _, [] => true
  | opened, p :: pieces => p.isCopied opened && areCopied (p.openAfter opened) pieces

/-! ### One piece -/

theorem eq_of_append_bracket {first second after behind : List Char} (firstOther : '>' ∉ first)
    (secondOther : '>' ∉ second) (same : first ++ '>' :: after = second ++ '>' :: behind) :
    first = second := by
  have taken {front : List Char} (rest : List Char) (other : '>' ∉ front) :
      (front ++ '>' :: rest).takeWhile (· ≠ '>') = front := by
    rw [List.takeWhile_append_of_pos, List.takeWhile_cons_of_neg (by decide), List.append_nil]
    exact fun c member => decide_eq_true fun bracket => other (bracket ▸ member)
  rw [← taken after firstOther, same, taken behind secondOther]

/-- The names of open elements hold no closing bracket. -/
def NamesArePlain (opened : List StartTag) : Prop :=
  ∀ tag ∈ opened, '>' ∉ tag.writtenName.toList

namespace Form

variable {p : Piece} {next : List Char} {opened : List StartTag}

theorem written_ne_nil (form : p.Form next) : p.written ≠ [] := by
  cases form <;> simp_all

theorem namesArePlain_openAfter (form : p.Form next) (plain : NamesArePlain opened) :
    NamesArePlain (p.openAfter opened) := by
  cases form with
  | startTag given name =>
      intro tag member
      simp only [openAfter, Event.openAfter] at member
      split at member
      · rcases List.mem_cons.mp member with rfl | member
        · exact name
        · exact plain tag member
      · exact plain tag member
  | endTag =>
      intro tag member
      simp only [openAfter, Event.openAfter] at member
      split at member
      · exact plain tag ((List.dropWhile_suffix _).subset (List.mem_of_mem_tail member))
      · exact plain tag member
  | _ => exact plain

/-! #### What the forms give -/

theorem output_startTag {tag : StartTag} {place : Place} (given : tag.raw ≠ "")
    (written : List Char) :
    output opened ⟨some (.startTag tag place), written⟩ = tag.raw.toList := by
  simp [output, Event.text, StartTag.text, given]

@[simp]
theorem output_data (text written : List Char) :
    output opened ⟨some (.data (String.ofList text)), written⟩ = text := by
  simp [output, Event.text]

@[simp]
theorem output_nameReference (name written : List Char) :
    output opened ⟨some (.nameReference (String.ofList name)), written⟩ =
      '&' :: (name ++ [';']) := by
  simp [output, Event.text]

@[simp]
theorem output_numberReference (digits written : List Char) :
    output opened ⟨some (.numberReference (String.ofList digits)), written⟩ =
      '&' :: '#' :: (digits ++ [';']) := by
  simp [output, Event.text]

@[simp]
theorem output_comment (text written : List Char) :
    output opened ⟨some (.comment (String.ofList text)), written⟩ =
      '<' :: '!' :: '-' :: '-' :: (text ++ ['-', '-', '>']) := by
  simp [output, Event.text]

@[simp]
theorem output_declaration (text written : List Char) :
    output opened ⟨some (.declaration (String.ofList text)), written⟩ =
      '<' :: '!' :: (text ++ ['>']) := by
  simp [output, Event.text]

@[simp]
theorem output_instruction (text written : List Char) :
    output opened ⟨some (.instruction (String.ofList text)), written⟩ =
      '<' :: '?' :: (text ++ ['>']) := by
  simp [output, Event.text]

@[simp]
theorem output_section (text written : List Char) :
    output opened ⟨some (.section (String.ofList text)), written⟩ =
      '<' :: '!' :: '[' :: (text ++ [']', '>']) := by
  simp [output, Event.text]

theorem exists_of_endTag {name : String} (plain : NamesArePlain opened)
    (other : '>' ∉ name.toList) :
    ∃ shown, '>' ∉ shown ∧
      ((Event.endTag name).text opened).toList = '<' :: '/' :: (shown ++ ['>']) := by
  rw [Event.text]
  cases found : opened.find? (·.name = name) with
  | none => exact ⟨name.toList, other, by simp⟩
  | some tag =>
      exact ⟨tag.writtenName.toList, plain tag (List.mem_of_find?_eq_some found),
        by simp [StartTag.endTag]⟩

theorem stop_eq_of_getLast? {name stop : List Char} (plain : ';' ∉ name)
    (stops : stop = [';'] ∨ stop = [] ∧ next.head? ≠ some ';')
    (ends : ('&' :: (name ++ stop)).getLast? = some ';') : stop = [';'] := by
  rcases stops with closed | ⟨rfl, -⟩
  · exact closed
  · rw [List.append_nil] at ends
    rcases List.mem_cons.mp (List.mem_of_getLast? ends) with same | member
    · cases same
    · exact absurd member plain

theorem output_eq_of_isCopied (form : p.Form next) (copied : p.isCopied opened) :
    p.output opened = p.written := by
  cases form with
  | startTag given name => exact output_startTag given _
  | data given => exact output_data _ _
  | nameReference plain stops =>
      rw [stop_eq_of_getLast? plain stops (of_decide_eq_true copied)]
      exact output_nameReference _ _
  | @numberReference digits stop next plain stops =>
      have hashed : ';' ∉ '#' :: digits := by simp [plain]
      rw [stop_eq_of_getLast? hashed stops (of_decide_eq_true copied)]
      exact output_numberReference _ _
  | declaration => exact output_declaration _ _
  | instruction => exact output_instruction _ _
  | endTag | comment | bogus | markedSection => exact (of_decide_eq_true copied).symm
  | namelessEnd | ampersand | lost => cases copied

theorem count_output_le (form : p.Form next) (plain : NamesArePlain opened) :
    (p.output opened).count '>' ≤ p.written.count '>' := by
  cases form with
  | startTag given name => rw [output_startTag given]
  | data given => rw [output_data]
  | nameReference => simp
  | numberReference => simp
  | @endTag name inside _ other first =>
      obtain ⟨shown, noBracket, written⟩ := exists_of_endTag plain other
      change (((Event.endTag name).text opened).toList).count '>' ≤ _
      rw [written]
      simp [List.count_eq_zero_of_not_mem noBracket]
  | comment => simp
  | bogus first => simp [List.count_cons, List.count_eq_zero_of_not_mem first]
  | declaration => rw [output_declaration]
  | instruction => rw [output_instruction]
  | markedSection => simp
  | namelessEnd | ampersand | lost => exact Nat.zero_le _

/-- A piece that begins the output as it begins the source is copied, if what follows it
is not more than the source has. -/
theorem isCopied_of_output_append (form : p.Form next) (plain : NamesArePlain opened)
    {out : List Char} (same : p.output opened ++ out = p.written ++ next)
    (count : out.count '>' ≤ next.count '>')
    (first : ∀ c, next = [c] → c.isAlpha → out = [] ∨ out.head? = some c)
    (last : next = [] → out = []) : p.isCopied opened := by
  cases form with
  | startTag | data | declaration | instruction => rfl
  | nameReference plain stops =>
      rcases stops with rfl | ⟨rfl, other⟩
      · simp [isCopied, List.getLast?_cons]
      · simp at same
        rw [← same] at other
        exact absurd rfl other
  | numberReference plain stops =>
      rcases stops with rfl | ⟨rfl, other⟩
      · simp [isCopied, List.getLast?_cons]
      · simp at same
        rw [← same] at other
        exact absurd rfl other
  | @endTag name inside next other noBracket =>
      obtain ⟨shown, shownOther, written⟩ := exists_of_endTag plain other
      change ((Event.endTag name).text opened).toList ++ out = _ at same
      rw [written] at same
      have inner : shown ++ '>' :: out = inside ++ '>' :: next := by simpa using same
      have equal := eq_of_append_bracket shownOther noBracket inner
      exact decide_eq_true (by rw [written, equal])
  | @comment text filler next blank =>
      have inner : [] ++ '>' :: out = filler ++ '>' :: next := by simpa using same
      have equal := eq_of_append_bracket List.not_mem_nil blank inner
      exact decide_eq_true (by simp [← equal])
  | @bogus mark text next noBracket =>
      obtain ⟨-, inner⟩ : '!' = mark ∧ '-' :: '-' :: (text ++ ['-', '-']) ++ '>' :: out =
          text ++ '>' :: next := by simpa using same
      have equal := eq_of_append_bracket (by simp [noBracket]) noBracket inner
      have lengths := congrArg List.length equal
      simp only [List.length_cons, List.length_append, List.length_nil] at lengths
      omega
  | @markedSection text filler next other =>
      have inner : [] ++ '>' :: out = filler ++ '>' :: next := by simpa using same
      have equal := eq_of_append_bracket List.not_mem_nil other inner
      exact decide_eq_true (by simp [← equal])
  | namelessEnd =>
      have inner : out = '<' :: '/' :: '>' :: next := same
      rw [inner, List.count_cons_of_ne (by decide), List.count_cons_of_ne (by decide),
        List.count_cons_self] at count
      exact absurd count (Nat.not_succ_le_self _)
  | @ampersand c letter =>
      have inner : out = ['&', c] := same
      rcases first c rfl letter with nothing | head
      · rw [inner] at nothing
        cases nothing
      · rw [inner] at head
        obtain rfl : '&' = c := Option.some.inj head
        cases letter
  | lost given =>
      have inner : out = _ ++ [] := same
      rw [last rfl, List.append_nil] at inner
      exact absurd inner.symm given

end Form

/-! ### All pieces -/

theorem count_outputs_le {pieces : List Piece} (formed : AreFormed [] pieces)
    {opened : List StartTag} (plain : NamesArePlain opened) :
    (outputs opened pieces).count '>' ≤ (source pieces).count '>' := by
  induction pieces generalizing opened with
  | nil => exact Nat.le_refl 0
  | cons p pieces ih =>
      obtain ⟨form, formed⟩ := formed
      rw [outputs, source_cons, List.count_append, List.count_append]
      exact Nat.add_le_add (form.count_output_le plain)
        (ih formed (form.namesArePlain_openAfter plain))

theorem eq_nil_of_source {pieces : List Piece} (formed : AreFormed [] pieces)
    (nothing : source pieces = []) : pieces = [] := by
  cases pieces with
  | nil => rfl
  | cons p pieces => exact absurd (List.append_eq_nil_iff.mp nothing).1 formed.1.written_ne_nil

/-- Pieces that start with a letter give it first, or they give nothing. -/
theorem head?_outputs {pieces : List Piece} (formed : AreFormed [] pieces)
    (opened : List StartTag) {c : Char} (letter : c.isAlpha) (starts : source pieces = [c]) :
    outputs opened pieces = [] ∨ (outputs opened pieces).head? = some c := by
  cases pieces with
  | nil => cases starts
  | cons p pieces =>
      obtain ⟨form, formed⟩ := formed
      have given := form.written_ne_nil
      rw [List.append_nil] at form
      have head (same : p.output opened = p.written) :
          (outputs opened (p :: pieces)).head? = some c := by
        obtain ⟨first, others, written⟩ := List.exists_cons_of_ne_nil given
        rw [source_cons, written] at starts
        obtain rfl : first = c := (List.cons.inj starts).1
        rw [outputs, same, written]
        rfl
      generalize nextEq : source pieces = next at form
      cases form with
      | startTag rawGiven => exact .inr (head (Form.output_startTag rawGiven _))
      | data => exact .inr (head (Form.output_data _ _))
      | lost =>
          rw [eq_nil_of_source formed nextEq]
          exact .inl rfl
      | _ =>
          obtain ⟨same, -⟩ := List.cons.inj starts
          rw [← same] at letter
          cases letter

/-- Pieces are written like their source just where each of them is copied. -/
theorem outputs_eq_source_iff {pieces : List Piece} (formed : AreFormed [] pieces)
    {opened : List StartTag} (plain : NamesArePlain opened) :
    outputs opened pieces = source pieces ↔ areCopied opened pieces := by
  induction pieces generalizing opened with
  | nil => exact ⟨fun _ => rfl, fun _ => rfl⟩
  | cons p pieces ih =>
      obtain ⟨form, formed⟩ := formed
      rw [List.append_nil] at form
      have after := form.namesArePlain_openAfter plain
      rw [outputs, source_cons, areCopied, Bool.and_eq_true, ← ih formed after]
      constructor
      · intro same
        have copied : p.isCopied opened := by
          refine form.isCopied_of_output_append plain same (count_outputs_le formed after) ?_ ?_
          · exact fun c starts letter => head?_outputs formed _ letter starts
          · intro nothing
            rw [eq_nil_of_source formed nothing]
            rfl
        rw [form.output_eq_of_isCopied copied] at same
        exact ⟨copied, List.append_cancel_left same⟩
      · rintro ⟨copied, same⟩
        rw [form.output_eq_of_isCopied copied, same]

end Piece

namespace Renderer

/-- A template that binds nothing is written out piece by piece, in every context; it is
copied as a whole just where every piece is spelled as it is written out. -/
theorem template_eq_source_iff (r : Renderer) {source : String} {name : Option String}
    {t : Template} (parsed : Template.parse source name = .ok t)
    (plain : ∀ e ∈ t.elements, e.start.IsPlain) (context : Context) :
    Piece.source (Events.piecesOf source.toList) = source.toList ∧
      r.template t context =
        .ok (String.ofList (Piece.outputs [] (Events.piecesOf source.toList))) ∧
      (r.template t context = .ok source ↔ Piece.areCopied [] (Events.piecesOf source.toList)) := by
  obtain ⟨read, readEvents, rfl⟩ := map_eq_ok_iff.mp parsed
  obtain ⟨events, whole, formed⟩ := Events.pieces_of_ofChars readEvents
  have written : r.template ⟨Template.ofEvents read, name⟩ context =
      .ok (String.ofList (Piece.outputs [] (Events.piecesOf source.toList))) := by
    rw [template, r.nodes_of_isPlain context _ fun e member =>
      ⟨plain e member, Template.isSound_of_mem member⟩, Template.gatheredAll_ofEvents,
      Event.gatheredAll_characters, Piece.outputs_eq_transcript, events]
  refine ⟨whole, written, ?_⟩
  rw [written, ← Piece.outputs_eq_source_iff formed (List.forall_mem_nil _), whole]
  constructor
  · intro same
    have characters := congrArg String.toList (Except.ok.inj same)
    rwa [String.toList_ofList] at characters
  · intro same
    rw [same, String.ofList_toList]

/-- An article with one piece of each sort that is copied, capital letters among them. -/
def article : String :=
  "<!DOCTYPE html><?php x?><P CLASS=a>1 &lt; &#50;<br/><B>b</B></P><!-- n -->"

theorem template_eq_source_iff_article :
    ∃ t, Template.parse article none = .ok t ∧ (∀ e ∈ t.elements, e.start.IsPlain) ∧
      Piece.areCopied [] (Events.piecesOf article.toList) ∧
      ∀ (r : Renderer) (context : Context), r.template t context = .ok article := by
  have tags : (Template.parse article none).map
      (fun t => decide (∀ e ∈ t.elements, e.start.IsPlain)) = .ok true := by
    decide +kernel
  obtain ⟨t, parsed, plain⟩ := map_eq_ok_iff.mp tags
  have plain := of_decide_eq_true plain
  have copied : Piece.areCopied [] (Events.piecesOf article.toList) := by decide +kernel
  exact ⟨t, parsed, plain, copied, fun r context =>
    (r.template_eq_source_iff parsed plain context).2.2.mpr copied⟩

/-- A reference without a semicolon is not copied: it is given one. -/
theorem template_ne_source_of_openReference :
    ∃ t, Template.parse "<p>&copy 2026</p>" none = .ok t ∧
      (∀ e ∈ t.elements, e.start.IsPlain) ∧
      Renderer.template ⟨.builtin, []⟩ t (.ofNamespaces [] .default) = .ok "<p>&copy; 2026</p>" ∧
      Renderer.template ⟨.builtin, []⟩ t (.ofNamespaces [] .default) ≠ .ok "<p>&copy 2026</p>" := by
  have computed : (Template.parse "<p>&copy 2026</p>" none).map (fun t =>
      decide ((∀ e ∈ t.elements, e.start.IsPlain) ∧
        Renderer.template ⟨.builtin, []⟩ t (.ofNamespaces [] .default) =
          .ok "<p>&copy; 2026</p>")) = .ok true := by
    decide +kernel
  obtain ⟨t, parsed, facts⟩ := map_eq_ok_iff.mp computed
  obtain ⟨plain, rendered⟩ := of_decide_eq_true facts
  exact ⟨t, parsed, plain, rendered, by rw [rendered]; decide⟩

end Renderer

end LayoutBinding
