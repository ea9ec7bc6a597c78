import LayoutBinding.Proofs.Template.SpelledTag
import LayoutBinding.Proofs.Template.TagLocality

/-!
# The names of a tag that was read

The names of a tag that was read can be written in a tag again.  They are spelled as in the
text of the tag, unless a name of an attribute starts with an equals sign or the name of the
tag has a longer form in lower case; then they are in lower case.
-/

namespace LayoutBinding

namespace StartTag

theorem isCaseless_of_not_continuesName {c : Char} (stops : continuesName c = false) :
    Character.isCaseless c = true := by
  simp only [continuesName, Bool.not_eq_false', Bool.or_eq_true, decide_eq_true_eq] at stops
  rcases stops with ((((((rfl | rfl) | rfl) | rfl) | rfl) | rfl) | rfl) | rfl <;> decide

theorem isCaseless_of_not_startsAttribute {c : Char} (stops : startsAttribute c = false) :
    Character.isCaseless c = true := by
  simp only [startsAttribute, Bool.not_eq_false', Bool.or_eq_true, decide_eq_true_eq] at stops
  rcases stops with (blank | rfl) | rfl
  · rw [Character.isCaseless, blank, Bool.or_true]
  · decide
  · decide

theorem continuesName_of_isAlpha {c : Char} (letter : c.isAlpha = true) :
    continuesName c = true :=
  Character.eq_ofNat_of_lt (P := fun c => c.isAlpha = true → continuesName c = true)
    (by decide) (Character.lt_of_isAlpha letter) letter

theorem continuesName_of_mem_lowerAll {cs : List Char}
    (continues : ∀ c ∈ cs, continuesName c = true) :
    ∀ c ∈ Character.lowerAll cs, continuesName c = true := by
  intro c member
  by_contra stops
  rw [Bool.not_eq_true] at stops
  have among := (Character.mem_lowerAll_iff (isCaseless_of_not_continuesName stops)).mp member
  exact absurd (continues c among) (by rw [stops]; decide)

/-- A name of an attribute is not empty, and blanks, slashes and brackets are not in it; an
equals sign can only be its first character. -/
theorem isAttributeName_iff {cs : List Char} :
    isAttributeName cs = true ↔
      cs ≠ [] ∧ (∀ c ∈ cs, startsAttribute c = true) ∧ '=' ∉ cs.tail := by
  cases cs with
  | nil => simp [isAttributeName]
  | cons c cs =>
      rw [isAttributeName, Bool.and_eq_true, List.all_eq_true, List.forall_mem_cons,
        List.tail_cons]
      constructor
      · rintro ⟨starts, continues⟩
        refine ⟨List.cons_ne_nil c cs, ⟨starts, fun d member => ?_⟩, fun member => ?_⟩
        · exact (Bool.and_eq_true_iff.mp (continues d member)).1
        · exact absurd (continues '=' member) (by decide)
      · rintro ⟨-, ⟨starts, others⟩, absent⟩
        refine ⟨starts, fun d member => ?_⟩
        rw [continuesAttribute, others d member, Bool.true_and, decide_eq_true_eq]
        rintro rfl
        exact absent member

theorem isAttributeName_lowerAll {cs : List Char} (isName : isAttributeName cs = true) :
    isAttributeName (Character.lowerAll cs) = true := by
  rw [isAttributeName_iff] at isName ⊢
  obtain ⟨given, starts, absent⟩ := isName
  refine ⟨?_, fun c member => ?_, ?_⟩
  · intro nothing
    have length := Character.length_lowerAfter [] cs
    have atLeast := Character.length_le_flatMap_lower cs
    change (Character.lowerAll cs).length = _ at length
    rw [nothing, List.length_nil] at length
    exact given (List.eq_nil_of_length_eq_zero (by omega))
  · by_contra stops
    rw [Bool.not_eq_true] at stops
    have among := (Character.mem_lowerAll_iff (isCaseless_of_not_startsAttribute stops)).mp member
    exact absurd (starts c among) (by rw [stops]; decide)
  · exact Character.notMem_tail_lowerAll (by decide) absent

/-! ### Names that were read -/

theorem lowered_lowered (cs : List Char) : lowered (lowered cs).toList = lowered cs := by
  rw [lowered, lowered, String.toList_ofList, Character.lowerAll_lowerAll]

theorem isAttributeName_of_attribute? {cs : List Char} {written : Written}
    (found : attribute? cs = some written) : isAttributeName written.name = true := by
  obtain ⟨c, body, rfl, starts, rfl⟩ := attribute?_eq_some_iff.mp found
  have isName : isAttributeName (c :: body.takeWhile continuesAttribute) = true := by
    rw [isAttributeName, starts, Bool.true_and]
    exact List.all_takeWhile
  split <;> exact isName

theorem isAttributeName_of_mem_attributesUpTo {fuel : Nat} {before : Char} {cs : List Char}
    {written : Written} (member : written ∈ (attributesUpTo fuel before cs).1) :
    isAttributeName written.name = true := by
  induction fuel generalizing before cs with
  | zero => cases member
  | succ fuel ih =>
      cases separated : separates before with
      | false =>
          rw [attributesUpTo_of_joined separated] at member
          cases member
      | true =>
          cases read : attribute? cs with
          | none =>
              rw [attributesUpTo_of_none read] at member
              cases member
          | some found =>
              rw [attributesUpTo_of_some separated read] at member
              rcases List.mem_cons.mp member with rfl | member
              · exact isAttributeName_of_attribute? read
              · exact ih member

theorem isAttributeName_of_mem_writtenNamesUpTo {fuel : Nat} {cs name : List Char}
    (member : name ∈ writtenNamesUpTo fuel cs) : isAttributeName name = true := by
  induction fuel generalizing cs with
  | zero => cases member
  | succ fuel ih =>
      rw [writtenNamesUpTo] at member
      split at member
      next found read =>
        rcases List.mem_cons.mp member with rfl | member
        · exact isAttributeName_of_attribute? read
        · exact ih member
      next => cases member

theorem map_name_of_mapM {written : List Written} {attributes : List Attribute}
    (decoded : written.mapM Written.toAttribute? = some attributes) :
    attributes.map Attribute.name = written.map (lowered ·.name) := by
  have name {w : Written} {a : Attribute} (one : w.toAttribute? = some a) :
      a.name = lowered w.name := by
    rw [Written.toAttribute?] at one
    split at one
    · obtain rfl := Option.some.inj one
      rfl
    · obtain ⟨_, -, rfl⟩ := Option.map_eq_some_iff.mp one
      rfl
  induction written generalizing attributes with
  | nil =>
      cases decoded
      rfl
  | cons w written ih =>
      rw [List.mapM_cons] at decoded
      obtain ⟨a, one, decoded⟩ := Option.bind_eq_some_iff.mp decoded
      obtain ⟨others, rest, made⟩ := Option.bind_eq_some_iff.mp decoded
      cases made
      rw [List.map_cons, List.map_cons, name one, ih rest]

theorem nameAsWritten_of_stops {front tail : List Char} {selfClosing : Bool}
    (stops : (attributesOf (front ++ (stop selfClosing ++ tail))).2 = stop selfClosing ++ tail) :
    let name := nameOf (front ++ (stop selfClosing ++ tail))
    nameAsWritten (lowered name) (front ++ stop selfClosing) =
      if (lowered name).length = name.length then String.ofList name else lowered name := by
  obtain ⟨c, body, rfl⟩ := exists_cons_of_attributesOf stops
  have whole : c :: body ++ stop selfClosing =
      c :: (body.takeWhile continuesName ++
        (body.dropWhile continuesName ++ stop selfClosing)) := by
    rw [← List.append_assoc, List.takeWhile_append_dropWhile, List.cons_append]
  have more : body.dropWhile continuesName ++ stop selfClosing ≠ [] := by
    cases selfClosing <;> simp [stop]
  rw [nameOf_cons, whole]
  exact nameAsWritten_eq c (body.takeWhile continuesName) more

/-- The names of a tag that was read can be written in a tag. -/
theorem isSpelled_of_read {cs : List Char} {tag : StartTag} (found : read cs = .tag tag) :
    tag.IsSpelled := by
  obtain ⟨front, tail, selfClosing, attributes, rfl, stops, decoded, rfl⟩ :=
    read_eq_tag_iff.mp found
  have names := map_name_of_mapM decoded
  have isName : ∀ n ∈ attributes.map Attribute.name, isAttributeName n.toList = true := by
    intro n member
    rw [names] at member
    obtain ⟨w, among, rfl⟩ := List.mem_map.mp member
    rw [lowered, String.toList_ofList]
    exact isAttributeName_lowerAll (isAttributeName_of_mem_attributesUpTo among)
  have fixed : (attributes.map Attribute.name).map (lowered ·.toList) =
      attributes.map Attribute.name := by
    rw [names, List.map_map]
    exact List.map_congr_left fun w _ => lowered_lowered w.name
  have asWritten := nameAsWritten_of_stops stops
  have continues : ∀ c ∈ nameOf (front ++ (stop selfClosing ++ tail)), continuesName c = true :=
    fun _ member => List.mem_takeWhile_imp member
  generalize nameOf (front ++ (stop selfClosing ++ tail)) = name at continues asWritten ⊢
  generalize front ++ stop selfClosing = raw at asWritten ⊢
  dsimp only at asWritten
  constructor
  case continues =>
    dsimp only [ofParts]
    rw [asWritten]
    split
    · rwa [String.toList_ofList]
    · rw [lowered, String.toList_ofList]
      exact continuesName_of_mem_lowerAll continues
  case name =>
    dsimp only [ofParts]
    rw [asWritten]
    split
    · rw [String.toList_ofList]
    · exact lowered_lowered name
  case length =>
    dsimp only [ofParts]
    rw [asWritten]
    split
    next length => rw [String.length_ofList, length]
    next => rfl
  case isName =>
    dsimp only [ofParts, namesAsWritten]
    split
    · intro n member
      obtain ⟨w, among, rfl⟩ := List.mem_map.mp member
      rw [String.toList_ofList]
      exact isAttributeName_of_mem_writtenNamesUpTo among
    · exact isName
  case names =>
    dsimp only [ofParts, namesAsWritten]
    split
    next same => simpa [Function.comp_def] using same
    next => exact fixed
  case equals =>
    dsimp only [ofParts, namesAsWritten]
    split
    · rintro ⟨n, member, first⟩
      obtain ⟨w, among, rfl⟩ := List.mem_map.mp member
      rw [String.toList_ofList] at first
      exact absurd first (head?_ne_of_mem_writtenNamesUpTo among)
    · exact fun _ => rfl

/-! ### Names as in the source -/

theorem dropWhile_skipSeparators (cs : List Char) :
    (skipSeparators cs).dropWhile (fun c => !(startsAttribute c && c ≠ '=')) =
      cs.dropWhile fun c => !(startsAttribute c && c ≠ '=') := by
  have skipped {c : Char} (skips : Character.isBlank c = true ∨ c = '/') :
      startsAttribute c = false := by
    rcases skips with blank | rfl
    · simp [startsAttribute, blank]
    · decide
  fun_induction skipSeparators cs with
  | case1 => rfl
  | case2 c skips =>
      have starts := skipped (c := c) (by simpa using skips)
      simp [starts]
  | case3 => rfl
  | case4 c d cs skips ih =>
      have starts := skipped (c := c) (by
        rcases Bool.or_eq_true_iff.mp skips with blank | slash
        · exact .inl blank
        · exact .inr (of_decide_eq_true (Bool.and_eq_true_iff.mp slash).1))
      rw [ih]
      simp [starts]
  | case5 => rfl

theorem writtenNamesUpTo_skipSeparators (fuel : Nat) (cs : List Char) :
    writtenNamesUpTo fuel (skipSeparators cs) = writtenNamesUpTo fuel cs := by
  cases fuel with
  | zero => rfl
  | succ fuel => rw [writtenNamesUpTo, writtenNamesUpTo, dropWhile_skipSeparators]

theorem writtenNamesUpTo_stop (fuel : Nat) (selfClosing : Bool) :
    writtenNamesUpTo fuel (stop selfClosing) = [] := by
  cases fuel with
  | zero => rfl
  | succ fuel => cases selfClosing <;> rfl

/-- The names that are looked for are those of the attributes, unless one starts with an
equals sign. -/
theorem writtenNamesUpTo_eq {fuel enough : Nat} {before : Char} {cs : List Char}
    {selfClosing : Bool} (stops : (attributesUpTo fuel before cs).2 = stop selfClosing)
    (noEquals : ∀ w ∈ (attributesUpTo fuel before cs).1, w.name.head? ≠ some '=')
    (atLeast : (attributesUpTo fuel before cs).1.length ≤ enough) :
    writtenNamesUpTo enough cs = (attributesUpTo fuel before cs).1.map Written.name := by
  have atEnd {cs : List Char} {enough : Nat} (same : cs = stop selfClosing) :
      writtenNamesUpTo enough cs = [] := by
    rw [same, writtenNamesUpTo_stop]
  induction fuel generalizing before cs enough with
  | zero => exact atEnd stops
  | succ fuel ih =>
      cases separated : separates before with
      | false =>
          rw [attributesUpTo_of_joined separated] at stops ⊢
          exact atEnd stops
      | true =>
          cases read : attribute? cs with
          | none =>
              rw [attributesUpTo_of_none read] at stops ⊢
              exact atEnd stops
          | some found =>
              rw [attributesUpTo_of_some separated read] at stops noEquals atLeast ⊢
              obtain ⟨first, noEquals⟩ := List.forall_mem_cons.mp noEquals
              obtain ⟨enough, rfl⟩ : ∃ fewer, enough = fewer + 1 :=
                Nat.exists_eq_succ_of_ne_zero (by rintro rfl; exact absurd atLeast (by simp))
              have starts : cs.dropWhile (fun c => !(startsAttribute c && c ≠ '=')) = cs := by
                obtain ⟨c, body, rfl, starts, -⟩ := attribute?_eq_some_iff.mp read
                rw [head?_name_of_attribute? read] at first
                have other : c ≠ '=' := fun same => first (by rw [same])
                simp [starts, other]
              rw [writtenNamesUpTo, starts, read]
              dsimp only
              rw [← writtenNamesUpTo_skipSeparators,
                ih stops noEquals (Nat.le_of_succ_le_succ atLeast), List.map_cons]

theorem length_lowered {cs : List Char} (noDotted : 'İ' ∉ cs) :
    (lowered cs).length = cs.length := by
  rw [lowered, String.length_ofList, Character.lowerAll, Character.length_lowerAfter]
  exact Character.length_flatMap_lower noDotted

/-- The names of the attributes are looked for behind the name of the tag. -/
theorem drop_eq_afterNameOf {cs : List Char} (noDotted : 'İ' ∉ nameOf cs) :
    cs.drop (1 + (lowered (nameOf cs)).length) = afterNameOf cs := by
  have split : nameOf cs ++ afterNameOf cs = cs.drop 1 := List.takeWhile_append_dropWhile
  rw [length_lowered noDotted, ← List.drop_drop, ← split, List.drop_left]

theorem names_of_read {cs : List Char} {tag : StartTag} (found : read cs = .tag tag)
    (noDotted : 'İ' ∉ nameOf tag.raw.toList)
    (noEquals : ∀ a ∈ tag.attributes, a.name.toList.head? ≠ some '=') :
    tag.writtenName.toList = nameOf tag.raw.toList ∧
      tag.writtenAttributes.map String.toList =
        (attributesOf tag.raw.toList).1.map Written.name := by
  -- The tag is read from its own text.
  obtain ⟨tail, -, alone⟩ := read_replace found
  have found := alone [] (.inl fun c _ member => absurd member List.not_mem_nil)
  rw [List.append_nil] at found
  obtain ⟨front, tail, selfClosing, attributes, whole, stops, decoded, made⟩ :=
    read_eq_tag_iff.mp found
  have raw : tag.raw.toList = front ++ stop selfClosing := by
    rw [made]
    exact String.toList_ofList
  obtain rfl : tail = [] := by
    rw [raw] at whole
    simpa using whole
  have writtenName := congrArg StartTag.writtenName made
  have writtenAttributes := congrArg StartTag.writtenAttributes made
  have names := map_name_of_mapM decoded
  rw [congrArg StartTag.attributes made] at noEquals
  dsimp only [ofParts] at writtenName writtenAttributes noEquals
  rw [← raw] at writtenName writtenAttributes
  rw [writtenName, writtenAttributes]
  generalize tag.raw.toList = cs at *
  have noEqualsWritten : ∀ w ∈ (attributesOf cs).1, w.name.head? ≠ some '=' := by
    intro w member first
    obtain ⟨a, among, same⟩ := List.mem_map.mp (names ▸ List.mem_map_of_mem member)
    apply noEquals a among
    rwa [same, lowered, String.toList_ofList,
      Character.head?_lowerAll_iff (by decide : Character.isCaseless '=' = true)]
  have atLeast : (attributesOf cs).1.length ≤ cs.length := by
    have count := length_attributesUpTo_le (afterNameOf cs).length
      (lastBefore ((nameOf cs).getLast?.getD '<') (afterNameOf cs)
        (skipSeparators (afterNameOf cs))) (skipSeparators (afterNameOf cs))
    have behind : skipSeparators (afterNameOf cs) <:+ cs :=
      ((skipSeparators_suffix _).trans (List.dropWhile_suffix _)).trans (List.drop_suffix 1 cs)
    exact (Nat.le_of_add_right_le count).trans behind.length_le
  constructor
  · rw [whole] at stops
    have asWritten := nameAsWritten_of_stops stops
    rw [← whole, ← raw] at asWritten
    rw [asWritten, if_pos (length_lowered noDotted), String.toList_ofList]
  · have looked : writtenNamesUpTo cs.length (cs.drop (1 + (lowered (nameOf cs)).length)) =
        (attributesOf cs).1.map Written.name := by
      rw [drop_eq_afterNameOf noDotted, ← writtenNamesUpTo_skipSeparators]
      rw [List.append_nil] at stops
      exact writtenNamesUpTo_eq stops noEqualsWritten atLeast
    have same : ((attributesOf cs).1.map Written.name).map lowered =
        attributes.map Attribute.name := by
      rw [names, List.map_map]
      rfl
    rw [namesAsWritten, looked, if_pos same, List.map_map]
    simp [Function.comp_def]

end StartTag

end LayoutBinding
