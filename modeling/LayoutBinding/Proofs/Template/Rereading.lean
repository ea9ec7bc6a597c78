import LayoutBinding.Proofs.Template.Splitting
import LayoutBinding.Proofs.Template.TagNames
import LayoutBinding.Proofs.Template.TagPlaces
import LayoutBinding.Proofs.Template.UnfinishedTag

/-!
# Reading again what was written

An event that is no start tag is written in one way.  What is written is read as the same
event, in front of anything that begins like what followed it in the source.
-/

namespace LayoutBinding

namespace Events

/-- The characters are read as the event in front of a text. -/
def ReadsAs (written : List Char) (event : Event) (out : List Char) : Prop :=
  ∀ place, move false none place (written ++ out) = .advance (some event) written.length

theorem move_of_construct {final : Bool} {place : Place} {cs : List Char} {event : Option Event}
    {length : Nat} (stands : angleConstruct place ('<' :: cs) = some (.complete event length)) :
    move final none place ('<' :: cs) = .advance event length := by
  simp [move, atAngle, stands]

theorem angleConstruct_comment (place : Place) (body : List Char) :
    angleConstruct place ('<' :: '!' :: '-' :: '-' :: body) =
      some (delimited .comment 4 commentEnd? ('<' :: '!' :: '-' :: '-' :: body) 4) := by
  simp [angleConstruct]

theorem angleConstruct_instruction (place : Place) (body : List Char) :
    angleConstruct place ('<' :: '?' :: body) =
      some (delimited .instruction 2 angle? ('<' :: '?' :: body) 2) := by
  simp [angleConstruct]

theorem angleConstruct_declaration (place : Place) {body : List Char}
    (noComment : body.head? ≠ some '-') :
    angleConstruct place ('<' :: '!' :: body) = some (declaration ('<' :: '!' :: body)) := by
  cases body with
  | nil => rfl
  | cons c body =>
      have other : c ≠ '-' := fun same => noComment (congrArg some same)
      simp [angleConstruct, other.symm]

theorem angleConstruct_endTag (place : Place) (body : List Char) :
    angleConstruct place ('<' :: '/' :: body) = some (endTag ('<' :: '/' :: body)) := by
  simp [angleConstruct]

section Constructs

variable {text out : List Char}

/-! ### Comments, declarations and instructions -/

theorem readsAs_comment
    (inside : ∀ part, part ≠ [] → part <:+ text →
      commentEnd? (part ++ '-' :: '-' :: '>' :: out) = none) :
    ReadsAs (['<', '!', '-', '-'] ++ (text ++ ['-', '-', '>'])) (.comment (String.ofList text))
      out := by
  intro place
  have read := delimited_append .comment ['<', '!', '-', '-'] ['-', '-', '>']
    (by decide : 4 ≤ 4) rfl inside
  exact move_of_construct ((angleConstruct_comment place _).trans (congrArg some read))

theorem readsAs_bogus (first : '>' ∉ text) :
    ReadsAs (['<', '!', '-', '-'] ++ (text ++ ['-', '-', '>'])) (.comment (String.ofList text))
      out :=
  readsAs_comment fun _ given suffix =>
    commentEnd?_eq_none _ given fun member => first (suffix.subset member)

theorem readsAs_instruction (first : '>' ∉ text) :
    ReadsAs (['<', '?'] ++ (text ++ ['>'])) (.instruction (String.ofList text)) out := by
  intro place
  have read := delimited_append .instruction ['<', '?'] ['>'] (by decide : 2 ≤ 2) rfl
    (angle?_eq_none first out)
  exact move_of_construct ((angleConstruct_instruction place _).trans (congrArg some read))

theorem declaration_doctype {word : List Char} (isDoctype : word.map Char.toLower = "doctype".toList)
    (body : List Char) :
    declaration ('<' :: '!' :: (word ++ body)) =
        delimited .declaration 2 angle? ('<' :: '!' :: (word ++ body)) 9 ∧
      (word ++ body).head? ≠ some '-' := by
  have length : word.length = 7 := by simpa using congrArg List.length isDoctype
  have starts : startsWithWord "<!doctype".toList ('<' :: '!' :: (word ++ body)) = true := by
    have taken : ('<' :: '!' :: (word ++ body)).take 9 = '<' :: '!' :: word := by
      simp [length]
    have lowers : ('<' :: '!' :: word).map Char.toLower = "<!doctype".toList := by
      rw [List.map_cons, List.map_cons, isDoctype]
      rfl
    exact beq_iff_eq.mpr ((congrArg (List.map Char.toLower) taken).trans lowers)
  obtain ⟨d, others, rfl⟩ := List.exists_cons_of_ne_nil
    (List.ne_nil_of_length_pos (length ▸ by decide : 0 < word.length))
  have first : d.toLower = 'd' := (List.cons.inj isDoctype).1
  constructor
  · rw [declaration, if_neg, if_pos starts]
    intro square
    obtain ⟨inside, same⟩ := List.isPrefixOf_iff_prefix.mp square
    have other : '[' = d := (List.cons.inj (List.cons.inj (List.cons.inj same).2).2).1
    rw [← other] at first
    exact absurd first (by decide)
  · intro dash
    obtain rfl : d = '-' := Option.some.inj dash
    exact absurd first (by decide)

theorem readsAs_declaration {word : List Char}
    (isDoctype : word.map Char.toLower = "doctype".toList) (first : '>' ∉ text) :
    ReadsAs ('<' :: '!' :: word ++ (text ++ ['>'])) (.declaration (String.ofList (word ++ text)))
      out := by
  intro place
  have length : ('<' :: '!' :: word).length = 9 := by simpa using congrArg List.length isDoctype
  have read := delimited_append .declaration ('<' :: '!' :: word) ['>']
    (Nat.le_add_left 2 word.length) rfl (angle?_eq_none first out)
  rw [length] at read
  have whole : '<' :: '!' :: word ++ (text ++ ['>']) ++ out =
      '<' :: '!' :: (word ++ (text ++ ['>'] ++ out)) := by simp
  obtain ⟨isDeclaration, noComment⟩ := declaration_doctype isDoctype (text ++ ['>'] ++ out)
  rw [whole] at read ⊢
  apply move_of_construct
  rw [angleConstruct_declaration place noComment, isDeclaration, read]
  rfl

/-! ### Marked sections -/

/-- Whether the text of a marked section starts with one of the names of conditions. -/
def isConditional : List Char → Bool
  | [] => false
  | c :: cs => c.isAlpha && ["if", "else", "endif"].contains
      (String.ofList ((c :: cs.takeWhile continuesSectionName).map Char.toLower))

theorem continuesSectionName_stop : continuesSectionName ']' = false := by decide

theorem takeWhile_continuesSectionName (front : List Char) (tail : List Char) :
    (front ++ ']' :: tail).takeWhile continuesSectionName =
      front.takeWhile continuesSectionName :=
  StartTag.takeWhile_append_of_ends fun _ first =>
    Option.some.inj first ▸ continuesSectionName_stop

theorem markedSection_of_isConditional {text : List Char} (conditional : isConditional text = true)
    (tail : List Char) :
    markedSection ('<' :: '!' :: '[' :: (text ++ ']' :: tail)) =
      delimited .section 3 conditionEnd? ('<' :: '!' :: '[' :: (text ++ ']' :: tail)) 3 := by
  cases text with
  | nil => cases conditional
  | cons c text =>
      obtain ⟨letter, named⟩ := Bool.and_eq_true_iff.mp conditional
      have named := List.contains_iff_mem.mp named
      have more : ((text ++ ']' :: tail).dropWhile continuesSectionName).length ≠
          (((text ++ ']' :: tail).dropWhile continuesSectionName).takeWhile
            Character.isBlank).length := by
        intro length
        have same := (List.takeWhile_prefix Character.isBlank).eq_of_length length.symm
        have member : ']' ∈ (text ++ ']' :: tail).dropWhile continuesSectionName := by
          rw [StartTag.dropWhile_append_of_ends fun _ first =>
            Option.some.inj first ▸ continuesSectionName_stop]
          exact List.mem_append_right _ List.mem_cons_self
        rw [← same] at member
        exact absurd (List.mem_takeWhile_imp member) (by decide)
      have name := takeWhile_continuesSectionName text tail
      rw [← name] at named
      rw [markedSection]
      simp only [List.drop_succ_cons, List.drop_zero, List.cons_append, if_pos letter, if_neg more]
      have other : ["temp", "cdata", "ignore", "include", "rcdata"].contains
          (String.ofList ((c :: (text ++ ']' :: tail).takeWhile continuesSectionName).map
            Char.toLower)) = false := by
        simp only [List.mem_cons, List.not_mem_nil, or_false] at named
        rcases named with same | same | same <;> rw [same] <;> decide
      rw [if_neg (by rw [other]; decide), if_pos (List.contains_iff_mem.mpr named)]

theorem readsAs_section (conditional : isConditional text = true)
    (inside : ∀ part, part ≠ [] → part <:+ text →
      conditionEnd? (part ++ ']' :: '>' :: out) = none) :
    ReadsAs (['<', '!', '['] ++ (text ++ [']', '>'])) (.section (String.ofList text)) out := by
  intro place
  have read := delimited_append .section ['<', '!', '['] [']', '>'] (by decide : 3 ≤ 3) rfl inside
  have whole : ['<', '!', '['] ++ (text ++ [']', '>']) ++ out =
      '<' :: '!' :: '[' :: (text ++ ']' :: '>' :: out) := by simp
  have isSection : "<![".toList.isPrefixOf ('<' :: '!' :: '[' :: (text ++ ']' :: '>' :: out)) =
      true := rfl
  rw [whole] at read ⊢
  apply move_of_construct
  rw [angleConstruct_declaration place (fun dash => by cases dash), declaration, if_pos isSection,
    markedSection_of_isConditional conditional]
  exact congrArg some read

/-! ### End tags -/

/-- Whether the characters can be the name of an end tag, with nothing else in it. -/
def isEndName : List Char → Bool
  | [] => false
  | c :: cs => c.isAlpha && cs.all fun d => StartTag.continuesName d && !Character.isBlank d

theorem continuesEndName_lt {c : Char} (continues : continuesEndName c = true) :
    c.toNat < 128 := by
  simp only [continuesEndName, Char.isAlphanum, Bool.or_eq_true, decide_eq_true_eq] at continues
  rcases continues with ((((letter | digit) | rfl) | rfl) | rfl) | rfl
  · exact Character.lt_of_isAlpha letter
  · simp only [Char.isDigit, Bool.and_eq_true, decide_eq_true_eq, ge_iff_le,
      UInt32.le_iff_toNat_le] at digit
    exact Nat.lt_of_le_of_lt digit.2 (by decide)
  all_goals decide

theorem isBlank_of_isAlpha {c : Char} (letter : c.isAlpha = true) : Character.isBlank c = false :=
  Character.eq_ofNat_of_lt (P := fun c => c.isAlpha = true → Character.isBlank c = false)
    (by decide) (Character.lt_of_isAlpha letter) letter

theorem of_isEndName {name : List Char} (isName : isEndName name = true) :
    ∃ c cs, name = c :: cs ∧ c.isAlpha = true ∧ (∀ d ∈ cs, StartTag.continuesName d = true) ∧
      ∀ d ∈ cs, Character.isBlank d = false := by
  cases name with
  | nil => cases isName
  | cons c cs =>
      obtain ⟨letter, continues⟩ := Bool.and_eq_true_iff.mp isName
      have each := List.all_eq_true.mp continues
      refine ⟨c, cs, rfl, letter, fun d member => ?_, fun d member => ?_⟩
      · exact (Bool.and_eq_true_iff.mp (each d member)).1
      · simpa using (Bool.and_eq_true_iff.mp (each d member)).2

theorem plainEndName?_of_isEndName {c : Char} {cs : List Char}
    (isName : isEndName (c :: cs) = true) (out : List Char) :
    plainEndName? ('<' :: '/' :: c :: (cs ++ '>' :: out)) =
      if cs.dropWhile continuesEndName = [] then some (StartTag.lowered (c :: cs)) else none := by
  obtain ⟨_, _, same, letter, continues, noBlanks⟩ := of_isEndName isName
  obtain ⟨rfl, rfl⟩ := List.cons.inj same
  have stays : (c :: (cs ++ '>' :: out)).dropWhile Character.isBlank = c :: (cs ++ '>' :: out) :=
    List.dropWhile_cons_of_neg (by simp [isBlank_of_isAlpha letter])
  have ends : Grammar.EndsRun continuesEndName ('>' :: out) := fun _ first =>
    Option.some.inj first ▸ (by decide)
  rw [plainEndName?]
  simp only [List.drop_succ_cons, List.drop_zero, stays, if_pos letter]
  rw [StartTag.dropWhile_append_of_ends ends, StartTag.takeWhile_append_of_ends ends]
  cases more : cs.dropWhile continuesEndName with
  | nil =>
      have plain := List.dropWhile_eq_nil_iff.mp more
      have ascii : ∀ d ∈ c :: cs, d.toNat < 128 := by
        refine List.forall_mem_cons.mpr ⟨Character.lt_of_isAlpha letter, fun d member => ?_⟩
        exact continuesEndName_lt (plain d member)
      have closes : (bracket? ([] ++ '>' :: out)).isSome = true := rfl
      rw [if_pos closes, if_pos rfl, List.takeWhile_eq_self_iff.mpr plain, StartTag.lowered,
        Character.lowerAll_of_ascii ascii]
  | cons d rest =>
      have member : d ∈ cs :=
        (List.dropWhile_suffix continuesEndName).subset (more ▸ List.mem_cons_self)
      have nothing : bracket? (d :: rest ++ '>' :: out) = none := by
        rw [bracket?_eq_none_iff, List.cons_append,
          List.dropWhile_cons_of_neg (by simp [noBlanks d member])]
        intro first
        obtain rfl : d = '>' := Option.some.inj first
        exact absurd (continues '>' member) (by decide)
      rw [nothing, if_neg (by simp), if_neg (List.cons_ne_nil d rest)]

theorem readsAs_endTag {name : List Char} (isName : isEndName name = true) :
    ReadsAs (['<', '/'] ++ (name ++ ['>'])) (.endTag (StartTag.lowered name)) out := by
  intro place
  obtain ⟨c, cs, rfl, letter, continues, -⟩ := of_isEndName isName
  have noBracket : '>' ∉ '/' :: c :: cs := by
    intro member
    rcases List.mem_cons.mp member with same | member
    · cases same
    · rcases List.mem_cons.mp member with rfl | member
      · cases letter
      · exact absurd (continues '>' member) (by decide)
  have whole : ['<', '/'] ++ (c :: cs ++ ['>']) ++ out =
      '<' :: '/' :: c :: (cs ++ '>' :: out) := by simp
  have split : splitAtFirst angle? ('/' :: c :: (cs ++ '>' :: out)) = some ('/' :: c :: cs, out) :=
    splitAtFirst_angle? noBracket out
  have length : ('<' :: '/' :: c :: (cs ++ '>' :: out)).length - out.length =
      (['<', '/'] ++ (c :: cs ++ ['>'])).length := by
    simp only [List.length_cons, List.length_append, List.length_nil]
    omega
  have name : (cs ++ '>' :: out).takeWhile StartTag.continuesName = cs := by
    have ends : Grammar.EndsRun StartTag.continuesName ('>' :: out) := fun _ first =>
      Option.some.inj first ▸ (by decide)
    rw [StartTag.takeWhile_append_of_ends ends, List.takeWhile_eq_self_iff.mpr continues]
  rw [whole]
  apply move_of_construct
  rw [angleConstruct_endTag, endTag]
  simp only [List.drop_succ_cons, List.drop_zero, split, length,
    plainEndName?_of_isEndName isName out]
  split
  next found =>
    split at found
    · rw [← Option.some.inj found]
    · cases found
  next => rw [if_pos letter, name]

/-! ### References -/

theorem move_ampersand (final : Bool) (place : Place) (cs : List Char) :
    move final none place ('&' :: cs) = atAmpersand final ('&' :: cs) := by
  simp [move]

theorem readsAs_nameReference {c : Char} {name : List Char} (letter : c.isAlpha = true)
    (continues : ∀ d ∈ name, continuesReference d = true) :
    ReadsAs ('&' :: (c :: name ++ [';'])) (.nameReference (String.ofList (c :: name))) out := by
  intro place
  have whole : '&' :: (c :: name ++ [';']) ++ out = '&' :: c :: (name ++ ';' :: out) := by simp
  have ends : Grammar.EndsRun continuesReference (';' :: out) := fun _ first =>
    Option.some.inj first ▸ (by decide)
  rw [whole, move_ampersand]
  unfold atAmpersand
  split
  next body same =>
    obtain ⟨rfl, -⟩ : c = '#' ∧ name ++ ';' :: out = body := by simpa using same
    cases letter
  next d rest _ same =>
    obtain ⟨rfl, rfl⟩ : c = d ∧ name ++ ';' :: out = rest := by simpa using same
    rw [if_pos letter]
    dsimp only
    rw [Expression.takeWhile_append_of_endsRun continues ends,
      Expression.dropWhile_append_of_endsRun continues ends, referenceName?,
      if_pos (List.cons_ne_nil ';' out)]
    simp [Nat.add_comm]
  next same => cases same

theorem atAmpersand_number (final : Bool) (body : List Char) :
    atAmpersand final ('&' :: '#' :: body) =
      match digitsOf body, body.drop (markedDigitsOf body).length with
      | _ :: _, c :: _ =>
          if Reference.isHexDigit c then
            if body.contains ';' then .halt (Events.text ['&', '#']) 2 else .halt none 0
          else
            .advance (some (.numberReference (String.ofList (markedDigitsOf body))))
              (2 + (markedDigitsOf body).length + if c = ';' then 1 else 0)
      | _, _ => if body.contains ';' then .halt (Events.text ['&', '#']) 2 else .halt none 0 :=
  rfl

theorem digitsOf_append {body : List Char} (given : digitsOf body ≠ []) (out : List Char) :
    digitsOf (markedDigitsOf body ++ ';' :: out) = digitsOf body ∧
      markedDigitsOf (markedDigitsOf body ++ ';' :: out) = markedDigitsOf body := by
  have ends {test : Char → Bool} (stops : test ';' = false) :
      Grammar.EndsRun test (';' :: out) := fun _ first => Option.some.inj first ▸ stops
  unfold markedDigitsOf digitsOf at *
  cases marked : isHexMarked body with
  | true =>
      cases body with
      | nil => cases marked
      | cons x body =>
          have run : (body.takeWhile Reference.isHexDigit ++ ';' :: out).takeWhile
              Reference.isHexDigit = body.takeWhile Reference.isHexDigit :=
            Expression.takeWhile_append_of_endsRun (fun _ => List.mem_takeWhile_imp)
              (ends (by decide))
          have again : isHexMarked (x :: (body.takeWhile Reference.isHexDigit ++ ';' :: out)) =
              true := marked
          simp [again, run]
  | false =>
      rw [marked] at given
      have run : (body.takeWhile Char.isDigit ++ ';' :: out).takeWhile Char.isDigit =
          body.takeWhile Char.isDigit :=
        Expression.takeWhile_append_of_endsRun (fun _ => List.mem_takeWhile_imp)
          (ends (by decide))
      have again : isHexMarked (body.takeWhile Char.isDigit ++ ';' :: out) = false := by
        cases body with
        | nil => exact absurd rfl given
        | cons x body =>
            cases digit : x.isDigit with
            | true =>
                rw [List.takeWhile_cons_of_pos digit]
                exact marked
            | false => exact absurd (List.takeWhile_cons_of_neg (by simp [digit])) given
      simp [again, run]

theorem readsAs_numberReference {body : List Char} (given : digitsOf body ≠ []) :
    ReadsAs ('&' :: '#' :: (markedDigitsOf body ++ [';']))
      (.numberReference (String.ofList (markedDigitsOf body))) out := by
  intro place
  have whole : '&' :: '#' :: (markedDigitsOf body ++ [';']) ++ out =
      '&' :: '#' :: (markedDigitsOf body ++ ';' :: out) := by simp
  obtain ⟨digits, marked⟩ := digitsOf_append given out
  obtain ⟨first, others, some⟩ := List.exists_cons_of_ne_nil given
  have noDigit : Reference.isHexDigit ';' = false := by decide
  rw [whole, move_ampersand, atAmpersand_number, digits, marked, List.drop_left, some]
  simp [noDigit]
  omega

/-! ### Text -/

theorem readsAs_run {run : List Char} (given : run ≠ [])
    (plain : ∀ d ∈ run, startsConstruct d = false)
    (ends : ∀ d ∈ out.head?, startsConstruct d = true) :
    ReadsAs run (.data (String.ofList run)) out := by
  intro place
  have inside : ∀ d ∈ run, (!startsConstruct d) = true := fun d member => by
    rw [plain d member, Bool.not_false]
  have stops : Grammar.EndsRun (!startsConstruct ·) out := by
    intro d first
    change (!startsConstruct d) = false
    rw [ends d first, Bool.not_true]
  obtain ⟨c, others, rfl⟩ := List.exists_cons_of_ne_nil given
  have first := plain c List.mem_cons_self
  simp only [startsConstruct, Bool.or_eq_false_iff, decide_eq_false_iff_not] at first
  have taken := Expression.takeWhile_append_of_endsRun inside stops
  rw [List.cons_append] at taken ⊢
  rw [move]
  dsimp only
  rw [if_neg first.1, if_neg first.2, taken]
  rfl

theorem readsAs_angle {d : Char} (noLetter : d.isAlpha = false) (noSlash : d ≠ '/')
    (noMark : d ≠ '!') (noQuestion : d ≠ '?') (first : out.head? = some d) :
    ReadsAs ['<'] (.data (String.ofList ['<'])) out := by
  intro place
  obtain ⟨rest, rfl⟩ := List.head?_eq_some_iff.mp first
  have nothing : angleConstruct place ('<' :: d :: rest) = none := by
    simp [angleConstruct, noLetter, noSlash, noMark, noQuestion, noMark.symm]
  rw [List.singleton_append, move]
  dsimp only
  rw [if_pos rfl, atAngle, nothing]
  rfl

theorem readsAs_ampersand {d : Char} (noLetter : d.isAlpha = false) (noHash : d ≠ '#')
    (first : out.head? = some d) : ReadsAs ['&'] (.data (String.ofList ['&'])) out := by
  intro place
  obtain ⟨rest, rfl⟩ := List.head?_eq_some_iff.mp first
  rw [List.singleton_append, move_ampersand]
  unfold atAmpersand
  split
  next same => exact absurd (List.cons.inj same).1 noHash
  next _ same =>
    cases same
    rw [if_neg (by simp [noLetter])]
    rfl
  next same => cases same

theorem readsAs_unfinished {c : Char} {name : List Char} (letter : c.isAlpha = true)
    (continues : ∀ d ∈ c :: name, StartTag.continuesName d = true)
    (joined : StartTag.separates ((c :: name).getLast?.getD '<') = false)
    (first : out.head? = some '\x00') :
    ReadsAs ('<' :: c :: name) (.data (String.ofList ('<' :: c :: name))) out := by
  intro place
  obtain ⟨rest, rfl⟩ := List.head?_eq_some_iff.mp first
  have read : StartTag.read ('<' :: c :: (name ++ '\x00' :: rest)) = .text (1 + (c :: name).length) :=
    StartTag.read_null continues joined
  have taken : ('<' :: c :: (name ++ '\x00' :: rest)).take (1 + (c :: name).length) =
      '<' :: c :: name := by
    rw [Nat.add_comm]
    simp
  have whole : '<' :: c :: name ++ '\x00' :: rest = '<' :: c :: (name ++ '\x00' :: rest) := by simp
  rw [whole]
  apply move_of_construct
  rw [angleConstruct]
  simp only [if_pos letter, read, taken]
  simp [Nat.add_comm]

end Constructs

/-! ### What the source was read as -/

/-- An event that is no tag is read again from its text. -/
def IsReread (out : List Char) (event : Event) : Prop :=
  ∀ text, event.rawText? = some text → ReadsAs text.toList event out

section Source

variable {place : Place} {cs out : List Char} {length : Nat} {event : Event}

theorem isReread_data {text : List Char} (again : ReadsAs text (.data (String.ofList text)) out) :
    IsReread out (.data (String.ofList text)) := by
  rintro _ ⟨⟩
  rwa [String.toList_ofList]

theorem isReread_comment {text : List Char}
    (again : ReadsAs (['<', '!', '-', '-'] ++ (text ++ ['-', '-', '>']))
      (.comment (String.ofList text)) out) : IsReread out (.comment (String.ofList text)) := by
  rintro _ ⟨⟩
  simpa using again

/-- Text that starts like a tag is read again as text. -/
theorem readsAs_of_read {c : Char} {body : List Char} (letter : c.isAlpha = true)
    (read : StartTag.read ('<' :: c :: body) = .text length)
    (heads : out.head? = (('<' :: c :: body).drop length).head?) :
    ReadsAs (('<' :: c :: body).take length)
      (.data (String.ofList (('<' :: c :: body).take length))) out := by
  obtain ⟨⟨tail, behind⟩, rfl, joined⟩ := StartTag.read_eq_text read
  have isName : StartTag.nameOf ('<' :: c :: body) =
      c :: body.takeWhile StartTag.continuesName :=
    List.takeWhile_cons_of_pos (StartTag.continuesName_of_isAlpha letter)
  have continues : ∀ d ∈ StartTag.nameOf ('<' :: c :: body), StartTag.continuesName d = true :=
    fun _ => List.mem_takeWhile_imp
  have split : StartTag.nameOf ('<' :: c :: body) ++ StartTag.afterNameOf ('<' :: c :: body) =
      c :: body := List.takeWhile_append_dropWhile
  rw [isName] at continues joined heads split ⊢
  rw [behind] at split
  rw [← split, Nat.add_comm, List.take_succ_cons, List.take_left]
  rw [← split, Nat.add_comm, List.drop_succ_cons, List.drop_left] at heads
  exact readsAs_unfinished letter continues joined heads

/-- What is taken for a comment is a comment when it is read again. -/
theorem isReread_of_bogus {mark : Char} {body : List Char}
    (read : delimited .comment 2 angle? ('<' :: mark :: body) 2 =
      .complete (some event) length) : IsReread out event := by
  obtain ⟨before, rest, split, same, -⟩ := exists_of_delimited read
  cases same
  exact isReread_comment (readsAs_bogus (of_splitAtFirst_angle? split).2)

theorem isReread_of_comment {body : List Char}
    (read : delimited .comment 4 commentEnd? ('<' :: '!' :: '-' :: '-' :: body) 4 =
      .complete (some event) length) : IsReread out event := by
  obtain ⟨before, rest, split, same, -⟩ := exists_of_delimited read
  obtain ⟨stop, -, closes, inside⟩ := splitAtFirst_eq_some_iff.mp split
  obtain ⟨tail, rfl⟩ : ∃ tail, stop = '-' :: '-' :: tail := by
    unfold commentEnd? at closes
    split at closes
    next tail => exact ⟨tail, rfl⟩
    next => cases closes
  cases same
  exact isReread_comment (readsAs_comment fun part given suffix =>
    commentEnd?_replace _ given (inside part given suffix))

theorem isReread_of_instruction {body : List Char}
    (read : delimited .instruction 2 angle? ('<' :: '?' :: body) 2 =
      .complete (some event) length) : IsReread out event := by
  obtain ⟨before, rest, split, same, -⟩ := exists_of_delimited read
  cases same
  rintro _ ⟨⟩
  have again : ReadsAs _ _ out := readsAs_instruction (of_splitAtFirst_angle? split).2
  simpa using again

theorem exists_of_markedSection {body : List Char}
    (read : markedSection ('<' :: '!' :: '[' :: body) = .complete (some event) length) :
    ∃ before tail, body = before ++ ']' :: tail ∧ event = .section (String.ofList before) := by
  have ofSplit {close? : List Char → Option (List Char)}
      (ends : ∀ stop rest, close? stop = some rest → ∃ tail, stop = ']' :: tail)
      (read : delimited .section 3 close? ('<' :: '!' :: '[' :: body) 3 =
        .complete (some event) length) :
      ∃ before tail, body = before ++ ']' :: tail ∧ event = .section (String.ofList before) := by
    obtain ⟨before, rest, split, same, -⟩ := exists_of_delimited read
    obtain ⟨stop, whole, closes, -⟩ := splitAtFirst_eq_some_iff.mp split
    obtain ⟨tail, rfl⟩ := ends stop rest closes
    exact ⟨before, tail, whole, Option.some.inj same⟩
  unfold markedSection at read
  split at read
  · cases read
  · split at read
    · dsimp only at read
      split at read
      · cases read
      · split at read
        · refine ofSplit (fun stop rest closes => ?_) read
          unfold sectionEnd? at closes
          split at closes
          next tail => exact ⟨tail, rfl⟩
          next => cases closes
        · split at read
          · refine ofSplit (fun stop rest closes => ?_) read
            unfold conditionEnd? at closes
            split at closes
            next tail => exact ⟨tail, rfl⟩
            next => cases closes
          · cases read
    · cases read

theorem isReread_of_markedSection {body : List Char}
    (read : markedSection ('<' :: '!' :: '[' :: body) = .complete (some event) length)
    (kept : ∀ inside, event = .section inside → isConditional inside.toList = true) :
    IsReread out event := by
  obtain ⟨text, tail, rfl, rfl⟩ := exists_of_markedSection read
  have conditional := kept _ rfl
  rw [String.toList_ofList] at conditional
  rw [markedSection_of_isConditional conditional] at read
  obtain ⟨before, rest, split, same, -⟩ := exists_of_delimited read
  obtain rfl : text = before := by
    have texts : Event.section (String.ofList text) = .section (String.ofList before) :=
      Option.some.inj same
    exact String.ofList_injective (Event.section.inj texts)
  obtain ⟨stop, whole, -, inside⟩ := splitAtFirst_eq_some_iff.mp split
  obtain rfl : ']' :: tail = stop := List.append_cancel_left whole
  rintro _ ⟨⟩
  have again : ReadsAs _ _ out := readsAs_section conditional fun part given suffix =>
    conditionEnd?_replace _ given (inside part given suffix)
  simpa using again

theorem isReread_of_declaration {body : List Char}
    (read : declaration ('<' :: '!' :: body) = .complete (some event) length)
    (kept : ∀ inside, event = .section inside → isConditional inside.toList = true) :
    IsReread out event := by
  unfold declaration at read
  split at read
  next isSection =>
    obtain ⟨inside, rfl⟩ : ∃ inside, body = '[' :: inside := by
      obtain ⟨inside, same⟩ := List.isPrefixOf_iff_prefix.mp isSection
      exact ⟨inside, (List.cons.inj (List.cons.inj same).2).2.symm⟩
    exact isReread_of_markedSection read kept
  next =>
    split at read
    next isDoctype =>
      obtain ⟨before, rest, split, same, -⟩ := exists_of_delimited read
      cases same
      rintro _ ⟨⟩
      have word : (body.take 7).map Char.toLower = "doctype".toList :=
        (List.cons.inj (List.cons.inj (beq_iff_eq.mp isDoctype)).2).2
      have again : ReadsAs _ _ out := readsAs_declaration word (of_splitAtFirst_angle? split).2
      simpa using again
    next => exact isReread_of_bogus read

theorem isReread_of_endTag {body : List Char}
    (read : endTag ('<' :: '/' :: body) = .complete (some event) length) :
    IsReread out event := by
  unfold endTag at read
  split at read
  · cases read
  · dsimp only at read
    split at read
    · cases read
      rintro _ ⟨⟩
    · split at read
      · split at read
        · cases read
          rintro _ ⟨⟩
        · split at read
          · cases read
          · exact isReread_of_bogus read
      · cases read

theorem isReread_of_angleConstruct
    (stands : angleConstruct place cs = some (.complete (some event) length))
    (starts : cs.head? = some '<')
    (kept : ∀ inside, event = .section inside → isConditional inside.toList = true)
    (heads : out.head? = (cs.drop length).head?) : IsReread out event := by
  unfold angleConstruct at stands
  split at stands
  next first c body =>
    obtain rfl : first = '<' := Option.some.inj starts
    split at stands
    next letter =>
      split at stands
      · cases stands
      next taken read =>
        cases stands
        exact isReread_data (readsAs_of_read letter read heads)
      · cases stands
        rintro _ ⟨⟩
      · cases stands
    next =>
      split at stands
      next slash =>
        subst slash
        exact isReread_of_endTag (Option.some.inj stands)
      next =>
        split at stands
        next isComment =>
          obtain ⟨inside, same⟩ := List.isPrefixOf_iff_prefix.mp isComment
          rw [← same] at stands
          exact isReread_of_comment (Option.some.inj stands)
        next =>
          split at stands
          next mark =>
            subst mark
            exact isReread_of_instruction (Option.some.inj stands)
          next =>
            split at stands
            next mark =>
              subst mark
              exact isReread_of_declaration (Option.some.inj stands) kept
            next => cases stands
  next => cases stands

theorem isReread_of_atAmpersand {body : List Char}
    (moved : atAmpersand false ('&' :: body) = .advance (some event) length)
    (heads : out.head? = (('&' :: body).drop length).head?) : IsReread out event := by
  cases body with
  | nil => cases moved
  | cons c rest =>
      by_cases number : c = '#'
      · subst number
        rw [atAmpersand_number] at moved
        split at moved
        next d digits e more given _ =>
          split at moved
          · split at moved <;> cases moved
          · cases moved
            rintro _ ⟨⟩
            have again : ReadsAs _ _ out := readsAs_numberReference
              (fun nothing => List.cons_ne_nil d digits (given.symm.trans nothing))
            simpa using again
        next => split at moved <;> cases moved
      · unfold atAmpersand at moved
        split at moved
        next same => exact absurd (List.cons.inj same).1 number
        next d others _ same =>
          cases same
          split at moved
          next letter =>
            dsimp only at moved
            split at moved
            next name found =>
              cases moved
              obtain ⟨⟨after, whole⟩, given⟩ := of_referenceName? (List.cons_ne_nil _ _) found
              obtain ⟨first, inside, rfl⟩ := List.exists_cons_of_ne_nil given
              obtain ⟨rfl, named⟩ := List.cons.inj whole
              have isPart : inside <+: rest.takeWhile continuesReference := ⟨after, named⟩
              have continues : ∀ e ∈ inside, continuesReference e = true := fun _ member =>
                List.mem_takeWhile_imp (isPart.subset member)
              rintro _ ⟨⟩
              have again : ReadsAs _ _ out := readsAs_nameReference letter continues
              simpa using again
            next => split at moved <;> cases moved
          next noLetter =>
            cases moved
            exact isReread_data (readsAs_ampersand (by simpa using noLetter) number heads)
        next same => cases same

theorem isReread_angle {body : List Char}
    (nothing : angleConstruct place ('<' :: body) = none) (more : 2 ≤ ('<' :: body).length)
    (heads : out.head? = body.head?) : IsReread out (.data (String.ofList ['<'])) := by
  cases body with
  | nil => exact absurd more (by decide)
  | cons d rest =>
      unfold angleConstruct at nothing
      dsimp only at nothing
      split at nothing
      · cases nothing
      next noLetter =>
        split at nothing
        · cases nothing
        next noSlash =>
          split at nothing
          · cases nothing
          · split at nothing
            · cases nothing
            next noQuestion =>
              split at nothing
              · cases nothing
              next noMark =>
                exact isReread_data
                  (readsAs_angle (by simpa using noLetter) noSlash noMark noQuestion heads)

/-- What is no tag is read again from its text, in front of anything that begins in the same
way. -/
theorem isReread_of_move
    (moved : move false none place cs = .advance (some event) length)
    (kept : ∀ inside, event = .section inside → isConditional inside.toList = true)
    (heads : out.head? = (cs.drop length).head?) : IsReread out event := by
  unfold move at moved
  dsimp only at moved
  split at moved
  · cases moved
  next c body =>
    split at moved
    next bracket =>
      subst bracket
      unfold atAngle at moved
      split at moved
      next stands =>
        cases moved
        exact isReread_of_angleConstruct stands rfl kept heads
      next => cases moved
      next => cases moved
      next nothing =>
        split at moved
        next more =>
          cases moved
          exact isReread_angle nothing more heads
        next => cases moved
    next noBracket =>
      split at moved
      next mark =>
        subst mark
        exact isReread_of_atAmpersand moved heads
      next noMark =>
        cases moved
        have first : (!startsConstruct c) = true := by simp [startsConstruct, noBracket, noMark]
        refine isReread_data (readsAs_run ?_ (fun d member => ?_) fun d start => ?_)
        · rw [List.takeWhile_cons, if_pos first]
          exact List.cons_ne_nil _ _
        · simpa using List.mem_takeWhile_imp member
        · have split := List.takeWhile_append_dropWhile (p := (!startsConstruct ·)) (l := c :: body)
          have behind : (c :: body).drop ((c :: body).takeWhile (!startsConstruct ·)).length =
              (c :: body).dropWhile (!startsConstruct ·) := by
            conv => lhs; arg 2; rw [← split]
            exact List.drop_left
          rw [heads, behind] at start
          have stops := List.head?_dropWhile_not (!startsConstruct ·) (c :: body)
          rw [Option.mem_def.mp start] at stops
          simpa using stops

end Source

end Events

end LayoutBinding
