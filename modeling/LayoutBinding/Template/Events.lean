import LayoutBinding.Fault
import LayoutBinding.Template.StartTag

/-!
# Events

A template is cut from the left into events.  It is gone through twice: the
first run stops at a construct that is not complete, and the second run starts
there, knowing that nothing more comes, and takes such a construct as text.
After a script or style tag only its end tag counts.
-/

namespace LayoutBinding

namespace Events

/-- What the next step of a run does. -/
inductive Move where
  /-- Read so many characters as an event, or as none, and go on. -/
  | advance (event : Option Event) (length : Nat)
  /-- Read so many characters as an event, or as none, and stop. -/
  | halt (event : Option Event) (length : Nat)
  | fail (fault : Fault)

/-- What stands at the start of a text. -/
inductive Construct where
  /-- So many characters that are an event, or none. -/
  | complete (event : Option Event) (length : Nat)
  | incomplete
  | bad (fault : Fault)

/-- The text before the first place where `close?` finds an end, and what
follows the end. -/
def splitAtFirst (close? : List Char → Option (List Char)) :
    List Char → Option (List Char × List Char)
  | [] => (close? []).map fun rest => ([], rest)
  | c :: cs =>
      match close? (c :: cs) with
      | some rest => some ([], rest)
      | none => (splitAtFirst close? cs).map fun (before, rest) => (c :: before, rest)

def bracket? (cs : List Char) : Option (List Char) :=
  match cs.dropWhile Character.isBlank with
  | '>' :: rest => some rest
  | _ => none

def commentEnd? : List Char → Option (List Char)
  | '-' :: '-' :: rest => bracket? rest
  | _ => none

/-- What follows one square bracket and a closing bracket. -/
def conditionEnd? : List Char → Option (List Char)
  | ']' :: rest => bracket? rest
  | _ => none

/-- What follows two square brackets and a closing bracket. -/
def sectionEnd? : List Char → Option (List Char)
  | ']' :: rest => conditionEnd? (rest.dropWhile Character.isBlank)
  | _ => none

/-- What follows a closing bracket that comes at once. -/
def angle? : List Char → Option (List Char)
  | '>' :: rest => some rest
  | _ => none

/-- An event whose text starts after `skip` characters of the input and ends
where `close?` finds an end. -/
def delimited (event : String → Event) (skip : Nat)
    (close? : List Char → Option (List Char)) (cs : List Char) (searched : Nat) : Construct :=
  match splitAtFirst close? (cs.drop searched) with
  | some (before, rest) =>
      .complete (some (event (String.ofList ((cs.drop skip).take (searched - skip) ++ before))))
        (cs.length - rest.length)
  | none => .incomplete

def continuesSectionName (c : Char) : Bool :=
  c.isAlphanum || c = '-' || c = '_' || c = '.'

def markedSection (cs : List Char) : Construct :=
  match cs.drop 3 with
  | [] => .incomplete
  | c :: rest =>
      if c.isAlpha then
        let name := c :: rest.takeWhile continuesSectionName
        let afterName := rest.dropWhile continuesSectionName
        let blanks := afterName.takeWhile Character.isBlank
        let lowered := String.ofList (name.map Char.toLower)
        if afterName.length = blanks.length then
          .incomplete
        else if ["temp", "cdata", "ignore", "include", "rcdata"].contains lowered then
          delimited .section 3 sectionEnd? cs 3
        else if ["if", "else", "endif"].contains lowered then
          delimited .section 3 conditionEnd? cs 3
        else
          .bad (.unknownSection (String.ofList (name ++ blanks)))
      else
        .bad (.unnamedSection (String.ofList (cs.take 20)))

/-- Whether a text starts with some characters, the case of letters aside. -/
def startsWithWord (word cs : List Char) : Bool :=
  (cs.take word.length).map Char.toLower == word

def declaration (cs : List Char) : Construct :=
  if "<![".toList.isPrefixOf cs then
    markedSection cs
  else if startsWithWord "<!doctype".toList cs then
    delimited .declaration 2 angle? cs 9
  else
    delimited .comment 2 angle? cs 2

def continuesEndName (c : Char) : Bool :=
  c.isAlphanum || c = '-' || c = '.' || c = ':' || c = '_'

/-- The name of an end tag that holds nothing else but blanks. -/
def plainEndName? (cs : List Char) : Option String :=
  match (cs.drop 2).dropWhile Character.isBlank with
  | c :: rest =>
      if c.isAlpha then
        if (bracket? (rest.dropWhile continuesEndName)).isSome then
          some (String.ofList ((c :: rest.takeWhile continuesEndName).map Char.toLower))
        else
          none
      else
        none
  | [] => none

def endTag (cs : List Char) : Construct :=
  match splitAtFirst angle? (cs.drop 1) with
  | none => .incomplete
  | some (_, rest) =>
      let length := cs.length - rest.length
      match plainEndName? cs with
      | some name => .complete (some (.endTag name)) length
      | none =>
          match cs.drop 2 with
          | c :: inside =>
              if c.isAlpha then
                let name := c :: inside.takeWhile StartTag.continuesName
                .complete (some (.endTag (StartTag.lowered name))) length
              else if c = '>' then
                .complete none length
              else
                delimited .comment 2 angle? cs 2
          | [] => .incomplete

def angleConstruct (place : Place) (cs : List Char) : Option Construct :=
  match cs with
  | _ :: c :: _ =>
      if c.isAlpha then
        some <|
          match StartTag.read cs with
          | .incomplete => .incomplete
          | .text length => .complete (some (.data (String.ofList (cs.take length)))) length
          | .tag tag => .complete (some (.startTag tag place)) tag.raw.length
          | .tooLong => .bad .numberTooLong
      else if c = '/' then
        some (endTag cs)
      else if "<!--".toList.isPrefixOf cs then
        some (delimited .comment 4 commentEnd? cs 4)
      else if c = '?' then
        some (delimited .instruction 2 angle? cs 2)
      else if c = '!' then
        some (declaration cs)
      else
        none
  | _ => none

/-- The number of characters that are taken as text where a construct is not
complete and nothing more comes. -/
def textLength (cs : List Char) : Nat :=
  match splitAtFirst angle? (cs.drop 1) with
  | some (before, _) => before.length + 2
  | none =>
      let before := (cs.drop 1).takeWhile (· ≠ '<')
      if 1 + before.length < cs.length then 1 + before.length else 1

def text (cs : List Char) : Option Event :=
  some (.data (String.ofList cs))

def atAngle (final : Bool) (place : Place) (cs : List Char) : Move :=
  match angleConstruct place cs with
  | some (.complete event length) => .advance event length
  | some (.bad fault) => .fail fault
  | some .incomplete =>
      if final then
        .advance (text (cs.take (textLength cs))) (textLength cs)
      else
        .halt none 0
  | none => if 2 ≤ cs.length then .advance (text ['<']) 1 else .halt none 0

def continuesReference (c : Char) : Bool :=
  c.isAlphanum || c = '-' || c = '.'

/-- The longest start of a name that a character other than a letter or digit
follows. -/
def referenceName? (name rest : List Char) : Option (List Char) :=
  if rest ≠ [] then
    some name
  else
    let kept := name.reverse.dropWhile Char.isAlphanum
    if 2 ≤ kept.length then some (kept.drop 1).reverse else none

def atAmpersand (final : Bool) (cs : List Char) : Move :=
  match cs.drop 1 with
  | '#' :: body =>
      let marked := body.head?.any fun c => c = 'x' || c = 'X'
      let digits :=
        if marked then (body.drop 1).takeWhile Reference.isHexDigit else body.takeWhile Char.isDigit
      let written := if marked then body.take 1 ++ digits else digits
      let after := body.drop written.length
      match digits, after with
      | _ :: _, c :: _ =>
          if Reference.isHexDigit c then
            if body.contains ';' then .halt (text ['&', '#']) 2 else .halt none 0
          else
            .advance (some (.numberReference (String.ofList written)))
              (2 + written.length + if c = ';' then 1 else 0)
      | _, _ => if body.contains ';' then .halt (text ['&', '#']) 2 else .halt none 0
  | c :: rest =>
      if c.isAlpha then
        let run := c :: rest.takeWhile continuesReference
        match referenceName? run (rest.dropWhile continuesReference) with
        | some name =>
            let semicolon := (rest.drop (name.length - 1)).head? = some ';'
            .advance (some (.nameReference (String.ofList name)))
              (1 + name.length + if semicolon then 1 else 0)
        | none => if final ∧ rest = [] then .halt none 1 else .halt none 0
      else
        .advance (text ['&']) 1
  | [] => .halt none 0

/-- Whether a character of a template stands for a letter of a raw element's
name, the case aside.  The long s and the two letters i with and without a dot
count as the letters that they resemble. -/
def sameLetter (letter c : Char) : Bool :=
  c.toLower = letter || (letter = 's' && c = 'ſ') || (letter = 'i' && (c = 'ı' || c = 'İ'))

/-- What follows a name, the case of letters aside. -/
def afterLetters? : List Char → List Char → Option (List Char)
  | [], cs => some cs
  | _ :: _, [] => none
  | letter :: letters, c :: cs => if sameLetter letter c then afterLetters? letters cs else none

/-- What follows the end tag of a raw element. -/
def rawEnd? (name : List Char) : List Char → Option (List Char)
  | '<' :: '/' :: rest =>
      match afterLetters? name (rest.dropWhile Character.isBlank) with
      | some after => bracket? after
      | none => none
  | _ => none

def inRaw (name : String) (cs : List Char) : Move :=
  match splitAtFirst (rawEnd? name.toList) cs with
  | none => .halt none 0
  | some ([], rest) =>
      let length := cs.length - rest.length
      if plainEndName? cs = some name then
        .advance (some (.endTag name)) length
      else
        .advance (text (cs.take length)) length
  | some (before, _) => .advance (text before) before.length

def startsConstruct (c : Char) : Bool :=
  c = '<' || c = '&'

def move (final : Bool) (raw : Option String) (place : Place) (cs : List Char) : Move :=
  match raw with
  | some name => inRaw name cs
  | none =>
      match cs with
      | [] => .halt none 0
      | c :: _ =>
          if c = '<' then
            atAngle final place cs
          else if c = '&' then
            atAmpersand final cs
          else
            let run := cs.takeWhile (!startsConstruct ·)
            .advance (text run) run.length

/-- The raw element that is open after an event. -/
def rawAfter (raw : Option String) : Option Event → Option String
  | some (.startTag tag _) =>
      if !tag.selfClosing && (tag.name = "script" || tag.name = "style") then some tag.name else raw
  | some (.endTag _) => none
  | _ => raw

/-- What a run has read, and where it has stopped. -/
structure Run where
  events : List Event
  rest : List Char
  place : Place
  raw : Option String

/-- Go through the rest of a template. -/
def run (final : Bool) (raw : Option String) (place : Place) (cs : List Char) :
    Except Fault Run :=
  match cs with
  | [] => .ok ⟨[], [], place, raw⟩
  | c :: tail =>
      match move final raw place (c :: tail) with
      | .fail fault => .error fault
      | .halt event length =>
          .ok ⟨event.toList, (c :: tail).drop length, place.advance ((c :: tail).take length), raw⟩
      | .advance event length =>
          match run final (rawAfter raw event) (place.advance ((c :: tail).take length))
              (tail.drop (length - 1)) with
          | .error fault => .error fault
          | .ok later => .ok { later with events := event.toList ++ later.events }
termination_by cs.length
decreasing_by
  simp only [List.length_drop, List.length_cons]
  omega

/-- The events of a template.  What the second run leaves is text, except inside
a raw element, where it is dropped. -/
def ofChars (cs : List Char) : Except Fault (List Event) := do
  let first ← run false none .start cs
  let second ← run true first.raw first.place first.rest
  let last := if second.rest = [] ∨ second.raw.isSome then [] else (text second.rest).toList
  pure (first.events ++ second.events ++ last)

end Events

end LayoutBinding
