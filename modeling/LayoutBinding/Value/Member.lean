import LayoutBinding.Value.Equality

/-!
# Members of sets

A set holds values that cannot change, and of equal values only one.  Records
are told apart even if they hold equal data.
-/

namespace LayoutBinding

namespace Value

mutual

def isMember : Value → Bool
  | .list _ => false
  | .mapping .. => false
  | .tuple items => areMembers items
  | .hint _ value => isMember value
  | .anchor id => isMember id
  | _ => true
termination_by structural value => value

def areMembers : List Value → Bool
  | [] => true
  | item :: items => isMember item && areMembers items
termination_by structural items => items

end

mutual

/-- Whether a value is a record or holds one. -/
def holdsRecord : Value → Bool
  | .record _ => true
  | .tuple items => hold items
  | .hint _ value => holdsRecord value
  | .anchor id => holdsRecord id
  | _ => false
termination_by structural value => value

/-- Whether some of the values are records or hold one. -/
def hold : List Value → Bool
  | [] => false
  | item :: items => holdsRecord item || hold items
termination_by structural items => items

end

/-- Whether two values are the same member of a set. -/
def sameMember (first second : Value) : Bool :=
  first.same second && !first.holdsRecord

def isAmong (value : Value) (members : List Value) : Bool :=
  members.any value.sameMember

/-- The members of the set of some values, of equal values the first one. -/
def distinct (values : List Value) : List Value :=
  values.eraseDupsBy sameMember

@[simp]
theorem sameMember_text (first second : Text) :
    sameMember (.text first) (.text second) = (first.content == second.content) := by
  simp [sameMember, same, holdsRecord]

end Value

end LayoutBinding
