import Mathlib.Data.List.TakeWhile
import LayoutBinding.Proofs.Character.LowerCase
import LayoutBinding.Template.StartTag

/-!
# How tags are read

Reading the attributes of a start tag leaves an end of the text, so that a tag, or the text
that is taken where there is none, is a part of the template.  A tag is read from its name,
its attributes and what closes it.  Its name holds no closing bracket, neither as it was
written nor in lower case.
-/

namespace LayoutBinding

namespace StartTag

theorem skipSeparators_suffix (cs : List Char) : skipSeparators cs <:+ cs := by
  fun_induction skipSeparators cs with
  | case1 => exact List.suffix_rfl
  | case2 c => exact List.nil_suffix
  | case3 c => exact List.suffix_rfl
  | case4 c d cs _ ih => exact ih.trans (List.suffix_cons c (d :: cs))
  | case5 c d cs => exact List.suffix_rfl

theorem isBlank_of_startsAttribute {c : Char} (starts : startsAttribute c = true) :
    Character.isBlank c = false := by
  simp only [startsAttribute, Bool.not_eq_true', Bool.or_eq_false_iff] at starts
  exact starts.1.1

theorem skipSeparators_of_starts {c : Char} {cs : List Char}
    (starts : startsAttribute c = true) : skipSeparators (c :: cs) = c :: cs := by
  have noBlank := isBlank_of_startsAttribute starts
  have noSlash : c ≠ '/' := by
    rintro rfl
    cases starts
  cases cs with
  | nil => simp [skipSeparators, noBlank, noSlash]
  | cons d cs => simp [skipSeparators, noBlank, noSlash]

theorem value?_suffix {cs : List Char} {value : Value} (found : value? cs = some value) :
    value.rest <:+ cs := by
  simp only [value?] at found
  have afterFirst := List.dropWhile_suffix Character.isBlank (l := cs)
  generalize cs.dropWhile Character.isBlank = fromEquals at afterFirst found
  have equals : fromEquals.takeWhile (· = '=') ++ fromEquals.dropWhile (· = '=') = fromEquals :=
    List.takeWhile_append_dropWhile
  have equalsOnly : ∀ c ∈ fromEquals.takeWhile (· = '='), c = '=' := fun c member => by
    simpa using List.mem_takeWhile_imp member
  generalize fromEquals.takeWhile (· = '=') = signs at equals equalsOnly found
  generalize fromEquals.dropWhile (· = '=') = afterEquals at equals found
  have afterSigns : afterEquals <:+ cs := (equals ▸ List.suffix_append signs _).trans afterFirst
  have afterBlanks := (List.dropWhile_suffix Character.isBlank).trans afterSigns
  split at found
  · cases found
  · split at found
    · cases found
      exact List.nil_suffix
    next c inside starts =>
      rw [starts] at afterBlanks
      have insideOf : inside <:+ cs := (List.suffix_cons c inside).trans afterBlanks
      split at found
      · split at found
        next quote rest closes =>
          cases found
          have closed : quote :: rest <:+ inside := closes ▸ List.dropWhile_suffix _
          exact ((List.suffix_cons quote rest).trans closed).trans insideOf
        next =>
          split at found
          · cases found
            exact (List.drop_suffix _ _).trans afterSigns
          · split at found
            next together several =>
              cases found
              have unbroken : afterEquals = c :: inside := by
                have split := List.takeWhile_append_dropWhile
                  (p := Character.isBlank) (l := afterEquals)
                rwa [not_not.mp together, starts, List.nil_append, eq_comm] at split
              obtain ⟨front, last, rfl⟩ : ∃ front last, signs = front ++ [last] := by
                have given : signs ≠ [] := by
                  rintro rfl
                  simp at several
                exact ⟨_, _, (List.dropLast_concat_getLast given).symm⟩
              obtain rfl := equalsOnly last (List.mem_append_right _ List.mem_cons_self)
              have lastSign : '=' :: c :: inside <:+ cs := by
                rw [unbroken, List.append_assoc] at equals
                exact (equals ▸ List.suffix_append front _).trans afterFirst
              exact (List.dropWhile_suffix _).trans lastSign
            · cases found
      · cases found
        exact (List.dropWhile_suffix _).trans afterBlanks

theorem attribute?_eq_some_iff {cs : List Char} {written : Written} :
    attribute? cs = some written ↔ ∃ c body, cs = c :: body ∧ startsAttribute c = true ∧
      written =
        match value? (body.dropWhile continuesAttribute) with
        | some value => ⟨c :: body.takeWhile continuesAttribute, some value.text, value.rest⟩
        | none =>
            ⟨c :: body.takeWhile continuesAttribute, none, body.dropWhile continuesAttribute⟩ := by
  constructor
  · intro found
    unfold attribute? at found
    split at found
    · cases found
    next c body =>
      split at found
      next starts =>
        refine ⟨c, body, rfl, starts, ?_⟩
        dsimp only at found
        cases given : value? (body.dropWhile continuesAttribute) with
        | some value =>
            rw [given] at found
            exact (Option.some.inj found).symm
        | none =>
            rw [given] at found
            exact (Option.some.inj found).symm
      · cases found
  · rintro ⟨c, body, rfl, starts, rfl⟩
    rw [attribute?, if_pos starts]
    dsimp only
    cases value? (body.dropWhile continuesAttribute) <;> rfl

theorem attribute?_suffix {cs : List Char} {written : Written}
    (found : attribute? cs = some written) : written.rest <:+ cs.tail := by
  obtain ⟨c, body, rfl, -, rfl⟩ := attribute?_eq_some_iff.mp found
  have afterName := List.dropWhile_suffix continuesAttribute (l := body)
  split
  next value given => exact (value?_suffix given).trans afterName
  next => exact afterName

theorem head?_name_of_attribute? {c : Char} {cs : List Char} {written : Written}
    (found : attribute? (c :: cs) = some written) : written.name.head? = some c := by
  obtain ⟨_, _, same, -, rfl⟩ := attribute?_eq_some_iff.mp found
  obtain ⟨rfl, rfl⟩ := List.cons.inj same
  split <;> rfl

section Steps

variable {fuel : Nat} {before : Char} {cs : List Char}

theorem attributesUpTo_of_none (nothing : attribute? cs = none) :
    attributesUpTo (fuel + 1) before cs = ([], cs) := by
  rw [attributesUpTo, nothing]
  split <;> rfl

theorem attributesUpTo_of_joined (joined : separates before = false) :
    attributesUpTo (fuel + 1) before cs = ([], cs) := by
  rw [attributesUpTo, if_neg (by simp [joined])]

theorem attributesUpTo_of_some {found : Written} (separated : separates before = true)
    (read : attribute? cs = some found) :
    attributesUpTo (fuel + 1) before cs =
      (found :: (attributesUpTo fuel (lastBefore before cs (skipSeparators found.rest))
          (skipSeparators found.rest)).1,
        (attributesUpTo fuel (lastBefore before cs (skipSeparators found.rest))
          (skipSeparators found.rest)).2) := by
  rw [attributesUpTo, if_pos separated, read]

end Steps

theorem attributesUpTo_suffix (fuel : Nat) (before : Char) (cs : List Char) :
    (attributesUpTo fuel before cs).2 <:+ cs := by
  induction fuel generalizing before cs with
  | zero => exact List.suffix_rfl
  | succ fuel ih =>
      rw [attributesUpTo]
      split
      · split
        next found given =>
          have behind := (skipSeparators_suffix _).trans (attribute?_suffix given)
          exact ((ih _ _).trans behind).trans (List.tail_suffix cs)
        next => exact List.suffix_rfl
      · exact List.suffix_rfl

theorem length_attributesUpTo_le (fuel : Nat) (before : Char) (cs : List Char) :
    (attributesUpTo fuel before cs).1.length + (attributesUpTo fuel before cs).2.length ≤
      cs.length := by
  induction fuel generalizing before cs with
  | zero => exact Nat.le_of_eq (Nat.zero_add _)
  | succ fuel ih =>
      rw [attributesUpTo]
      split
      · split
        next found given =>
          have behind := ((skipSeparators_suffix _).trans (attribute?_suffix given)).length_le
          have nonempty : 0 < cs.length := by
            cases cs with
            | nil => cases given
            | cons c cs => exact Nat.succ_pos _
          have later := ih (lastBefore before cs (skipSeparators found.rest))
            (skipSeparators found.rest)
          rw [List.length_tail] at behind
          dsimp only
          rw [List.length_cons]
          omega
        next => exact Nat.le_of_eq (Nat.zero_add _)
      · exact Nat.le_of_eq (Nat.zero_add _)

theorem readAttributes_suffix (before : Char) (cs : List Char) :
    (readAttributes before cs).2 <:+ cs :=
  (attributesUpTo_suffix _ _ _).trans (skipSeparators_suffix cs)

theorem lastBefore_append (before : Char) (used rest : List Char) :
    lastBefore before (used ++ rest) rest = used.getLast?.getD before := by
  simp [lastBefore]

theorem lastBefore_self (before : Char) (rest : List Char) :
    lastBefore before rest rest = before :=
  lastBefore_append before [] rest

def Written.parts (written : Written) : List Char × Option (List Char) :=
  (written.name, written.value)

/-- What closes a start tag. -/
def stop (selfClosing : Bool) : List Char :=
  if selfClosing then ['/', '>'] else ['>']

theorem attribute?_stop (selfClosing : Bool) (tail : List Char) :
    attribute? (stop selfClosing ++ tail) = none := by
  cases selfClosing <;> rfl

/-! ### Names -/

/-- The name of the tag at the start of a text. -/
def nameOf (cs : List Char) : List Char :=
  (cs.drop 1).takeWhile continuesName

/-- What follows the name of the tag at the start of a text. -/
def afterNameOf (cs : List Char) : List Char :=
  (cs.drop 1).dropWhile continuesName

/-- The attributes of the tag at the start of a text, and what follows them. -/
def attributesOf (cs : List Char) : List Written × List Char :=
  readAttributes ((nameOf cs).getLast?.getD '<') (afterNameOf cs)

theorem attributesOf_suffix (cs : List Char) : (attributesOf cs).2 <:+ cs :=
  ((readAttributes_suffix _ _).trans (List.dropWhile_suffix _)).trans (List.drop_suffix 1 cs)

theorem bracket_notMem_lowered {cs : List Char} (plain : '>' ∉ cs) :
    '>' ∉ (lowered cs).toList := by
  rw [lowered, String.toList_ofList, Character.mem_lowerAll_iff (by decide)]
  exact plain

theorem bracket_notMem_name (cs : List Char) : '>' ∉ cs.takeWhile continuesName :=
  fun member => absurd (List.mem_takeWhile_imp member) (by decide)

theorem bracket_notMem_nameAsWritten {name : String} (plain : '>' ∉ name.toList)
    (raw : List Char) : '>' ∉ (nameAsWritten name raw).toList := by
  simp only [nameAsWritten]
  split
  next same =>
    intro member
    rw [String.toList_ofList, ← Character.mem_lowerAll_iff (by decide)] at member
    rw [← same, lowered, String.toList_ofList] at plain
    exact plain member
  next => exact plain

/-! ### Tags -/

/-- The tag with these characters, its name and its attributes. -/
def ofParts (name raw : List Char) (attributes : List Attribute) (selfClosing : Bool) :
    StartTag where
  name := lowered name
  attributes := attributes
  raw := String.ofList raw
  writtenName := nameAsWritten (lowered name) raw
  writtenAttributes := namesAsWritten (lowered name) raw (attributes.map Attribute.name)
  selfClosing := selfClosing

/-- What is read, with so many characters taken as the tag. -/
def complete (cs : List Char) (length : Nat) (selfClosing : Bool) : Reading :=
  match (attributesOf cs).1.mapM Written.toAttribute? with
  | none => .tooLong
  | some attributes => .tag (ofParts (nameOf cs) (cs.take length) attributes selfClosing)

theorem read_eq (cs : List Char) :
    read cs =
      match (attributesOf cs).2 with
      | [] => .incomplete
      | '>' :: _ => complete cs (cs.length - (attributesOf cs).2.length + 1) false
      | '/' :: '>' :: _ => complete cs (cs.length - (attributesOf cs).2.length + 2) true
      | c :: _ =>
          if mayGoOn c then .incomplete else .text (cs.length - (attributesOf cs).2.length) :=
  rfl

theorem read_of_stop {front tail : List Char} {selfClosing : Bool}
    (stops : (attributesOf (front ++ (stop selfClosing ++ tail))).2 = stop selfClosing ++ tail) :
    read (front ++ (stop selfClosing ++ tail)) =
      complete (front ++ (stop selfClosing ++ tail)) (front ++ stop selfClosing).length
        selfClosing := by
  have length : (front ++ (stop selfClosing ++ tail)).length -
      (stop selfClosing ++ tail).length + (stop selfClosing).length =
        (front ++ stop selfClosing).length := by
    simp only [List.length_append]
    omega
  rw [read_eq, stops, ← length]
  cases selfClosing <;> rfl

theorem complete_eq_tag_iff {front tail : List Char} {selfClosing : Bool} {tag : StartTag} :
    complete (front ++ (stop selfClosing ++ tail)) (front ++ stop selfClosing).length
        selfClosing = .tag tag ↔
      ∃ attributes,
        (attributesOf (front ++ (stop selfClosing ++ tail))).1.mapM Written.toAttribute? =
          some attributes ∧
        tag = ofParts (nameOf (front ++ (stop selfClosing ++ tail)))
          (front ++ stop selfClosing) attributes selfClosing := by
  rw [complete, ← List.append_assoc, List.take_left, List.append_assoc]
  split
  next nothing => simp [nothing]
  next attributes decoded => simp [decoded, eq_comm]

/-- A start tag is read where its attributes are followed by what closes it. -/
theorem read_eq_tag_iff {cs : List Char} {tag : StartTag} :
    read cs = .tag tag ↔ ∃ front tail selfClosing attributes,
      cs = front ++ (stop selfClosing ++ tail) ∧
        (attributesOf cs).2 = stop selfClosing ++ tail ∧
        (attributesOf cs).1.mapM Written.toAttribute? = some attributes ∧
        tag = ofParts (nameOf cs) (front ++ stop selfClosing) attributes selfClosing := by
  constructor
  · intro found
    obtain ⟨selfClosing, tail, stops⟩ :
        ∃ selfClosing tail, (attributesOf cs).2 = stop selfClosing ++ tail := by
      rw [read_eq] at found
      split at found
      · cases found
      next tail stands => exact ⟨false, tail, stands⟩
      next tail stands => exact ⟨true, tail, stands⟩
      next => split at found <;> cases found
    obtain ⟨front, whole⟩ : stop selfClosing ++ tail <:+ cs := stops ▸ attributesOf_suffix cs
    subst whole
    rw [read_of_stop stops, complete_eq_tag_iff] at found
    obtain ⟨attributes, decoded, made⟩ := found
    exact ⟨front, tail, selfClosing, attributes, rfl, stops, decoded, made⟩
  · rintro ⟨front, tail, selfClosing, attributes, rfl, stops, decoded, made⟩
    rw [read_of_stop stops, complete_eq_tag_iff]
    exact ⟨attributes, decoded, made⟩

/-- Some text precedes what cannot be an attribute. -/
theorem pos_of_read {cs : List Char} {length : Nat} (found : read cs = .text length) :
    1 ≤ length := by
  have atMost : (attributesOf cs).2.length ≤ cs.length - 1 := by
    have afterAttributes : (attributesOf cs).2 <:+ cs.drop 1 :=
      (readAttributes_suffix _ _).trans (List.dropWhile_suffix _)
    have length := afterAttributes.length_le
    rwa [List.length_drop] at length
  rw [read_eq] at found
  split at found
  · cases found
  · unfold complete at found
    split at found <;> cases found
  · unfold complete at found
    split at found <;> cases found
  next c more _ _ starts =>
    split at found
    · cases found
    · have before := Reading.text.inj found
      rw [starts, List.length_cons] at atMost before
      omega

theorem exists_of_read {cs : List Char} {tag : StartTag} (found : read cs = .tag tag) :
    ∃ raw rest, cs = raw ++ rest ∧ tag.raw = String.ofList raw ∧ raw ≠ [] ∧
      '>' ∉ tag.writtenName.toList := by
  obtain ⟨front, tail, selfClosing, attributes, whole, -, -, rfl⟩ := read_eq_tag_iff.mp found
  have name : '>' ∉ (lowered (nameOf cs)).toList := bracket_notMem_lowered (bracket_notMem_name _)
  refine ⟨front ++ stop selfClosing, tail, ?_, rfl, ?_, ?_⟩
  · rw [whole, List.append_assoc]
  · cases selfClosing <;> simp [stop]
  · dsimp only [ofParts]
    exact bracket_notMem_nameAsWritten name _

end StartTag

end LayoutBinding
