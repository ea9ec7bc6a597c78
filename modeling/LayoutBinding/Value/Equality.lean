import LayoutBinding.Value.Basic

/-!
# Equal values

Values are equal if they hold equal data: numbers of any sort compare by their
value, texts by their characters whether trusted or not, mappings without
regard to order, and moments with a zone by their instant.  Values that are
more than data equal nothing.
-/

namespace LayoutBinding

/-- Whether two moments are equal: a moment in a zone and one in none are not. -/
def Moment.sameInstant (first second : Moment) : Bool :=
  first.zone.isSome == second.zone.isSome && first.instant == second.instant

namespace Value

/-- Whether a number, given as the whole number that it is, equals a value. -/
def isNumber (n : Int) : Value → Bool
  | .truth b => n == if b then 1 else 0
  | .whole m => n == m
  | .double d => d.isWhole n
  | _ => false

mutual

def same : Value → Value → Bool
  | .absent, .absent => true
  | .truth b, other => isNumber (if b then 1 else 0) other
  | .whole n, other => isNumber n other
  | .double d, .truth b => d.isWhole (if b then 1 else 0)
  | .double d, .whole n => d.isWhole n
  | .double d, .double e => d.sameNumber e
  | .text t, .text u => t.content == u.content
  | .bytes bs, .bytes cs => bs == cs
  | .date d, .date e => d == e
  | .moment m, .moment n => m.sameInstant n
  | .list items, .list others => sameItems items others
  | .tuple items, .tuple others => sameItems items others
  | .mapping _ entries, .mapping _ others =>
      entries.length == others.length && coveredBy others entries
  | .record entries, .record others =>
      entries.length == others.length && coveredBy others entries
  | .hint name value, .hint otherName other => name == otherName && same value other
  | .anchor id, .anchor other => same id other
  | .function name, .function other => name == other
  | _, _ => false
termination_by structural value => value

def sameItems : List Value → List Value → Bool
  | [], [] => true
  | item :: items, other :: others => same item other && sameItems items others
  | _, _ => false
termination_by structural items => items

/-- Whether every entry has an equal one among others. -/
def coveredBy (others : List (String × Value)) : List (String × Value) → Bool
  | [] => true
  | (key, value) :: entries =>
      (match Entries.get? others key with
        | some other => same value other
        | none => false) && coveredBy others entries
termination_by structural entries => entries

end

end Value

end LayoutBinding
