import LayoutBinding.Error

/-!
# Faults

A computation can fail with an error, which carries a message for the author of
a page, or with a fault: a limit of numbers and dates, a value of the wrong
sort where no message is provided for, or a file that cannot be used.
Annotations concern errors only.
-/

namespace LayoutBinding

/-- What ends a computation without an error for the author of a page. -/
inductive Fault where
  /-- A whole number has too many digits to be read or written. -/
  | numberTooLong
  /-- A moment lies outside of the years 1 to 9999. -/
  | dateOutOfRange
  | noMoment
  /-- A value stands where a value of another sort is needed. -/
  | wrongSort
  /-- A value lacks a member that is taken for granted. -/
  | missingMember
  /-- A marked section of a template has no name; the text shows its start. -/
  | unnamedSection (excerpt : String)
  /-- A marked section of a template has an unknown name. -/
  | unknownSection (written : String)
  /-- Two pages have the same identifier; the path is that of the second. -/
  | duplicatePage (id path : String)
  | layoutNotFound (name : String)
  | undecodable
  | fileNotFound
  | unusableFile
  /-- A path goes through a file as if it were a folder. -/
  | notFolder
  /-- A file stands where a folder is to be made. -/
  | fileInTheWay
  /-- A folder stands where a file is needed. -/
  | folderInTheWay
  | unknownZone
  /-- A text cannot be the name of a file, a user or a time zone. -/
  | badName
  | unknownHome
deriving DecidableEq

/-- The message of a fault, where one is provided for. -/
def Fault.message? : Fault → Option String
  | .unnamedSection excerpt => some ("expected name token at " ++ quoted excerpt)
  | .unknownSection written =>
      some ("unknown status keyword " ++ quoted written ++ " in marked section")
  | .duplicatePage id path =>
      some ("Duplicate page id " ++ quoted id ++ " (from " ++ quoted path ++ ")")
  | .layoutNotFound name => some name
  | _ => none

/-- Why a computation failed. -/
inductive Failure where
  | error (error : Error)
  | fault (fault : Fault)
deriving DecidableEq

namespace Failure

def of (cause : Cause) : Failure :=
  .error (.of cause)

def annotate (failure : Failure) (source location : Option String) : Failure :=
  match failure with
  | .error e => .error (e.annotate source location)
  | .fault f => .fault f

end Failure

/-- The outcome of a computation. -/
abbrev Outcome :=
  Except Failure

theorem bind_eq_ok_iff {ε α β : Type} {first : Except ε α} {next : α → Except ε β}
    {result : β} :
    first >>= next = .ok result ↔ ∃ value, first = .ok value ∧ next value = .ok result := by
  cases first with
  | error failure => exact ⟨nofun, nofun⟩
  | ok value =>
      constructor
      · intro finished
        exact ⟨value, rfl, finished⟩
      · rintro ⟨_, same, finished⟩
        cases same
        exact finished

theorem bind_eq_error_iff {ε α β : Type} {first : Except ε α} {next : α → Except ε β}
    {failure : ε} :
    first >>= next = .error failure ↔
      first = .error failure ∨ ∃ value, first = .ok value ∧ next value = .error failure := by
  cases first with
  | error other =>
      constructor
      · rintro ⟨⟩
        exact .inl rfl
      · rintro (⟨⟨⟩⟩ | ⟨_, ⟨⟩, _⟩)
        rfl
  | ok value =>
      constructor
      · intro fails
        exact .inr ⟨value, rfl, fails⟩
      · rintro (⟨⟨⟩⟩ | ⟨_, same, fails⟩)
        cases same
        exact fails

theorem map_eq_ok_iff {ε α β : Type} {f : α → β} {first : Except ε α} {result : β} :
    f <$> first = .ok result ↔ ∃ value, first = .ok value ∧ f value = result := by
  cases first with
  | error failure => exact ⟨nofun, nofun⟩
  | ok value => simp [Functor.map, Except.map]

theorem map_eq_error_iff {ε α β : Type} {f : α → β} {first : Except ε α} {failure : ε} :
    f <$> first = .error failure ↔ first = .error failure := by
  cases first with
  | error other => simp [Functor.map, Except.map]
  | ok value => exact ⟨nofun, nofun⟩

theorem toOption_eq_some_iff {ε α : Type} {outcome : Except ε α} {value : α} :
    outcome.toOption = some value ↔ outcome = .ok value := by
  cases outcome with
  | error failure => exact ⟨nofun, nofun⟩
  | ok other => simp [Except.toOption]

namespace Outcome

variable {α : Type}

def refuse (cause : Cause) : Outcome α :=
  .error (.of cause)

def stop (fault : Fault) : Outcome α :=
  .error (.fault fault)

/-- The outcome of a computation that may fail with an error. -/
def ofExcept (result : Except Error α) : Outcome α :=
  result.mapError .error

def annotate (outcome : Outcome α) (source location : Option String) : Outcome α :=
  outcome.mapError fun failure => failure.annotate source location

def withSource (outcome : Outcome α) (source : String) : Outcome α :=
  outcome.annotate (some source) none

def withLocation (outcome : Outcome α) (location : String) : Outcome α :=
  outcome.annotate none (some location)

@[simp]
theorem annotate_ok (value : α) (source location : Option String) :
    annotate (.ok value) source location = .ok value :=
  rfl

@[simp]
theorem annotate_error (failure : Failure) (source location : Option String) :
    annotate (.error failure : Outcome α) source location =
      .error (failure.annotate source location) :=
  rfl

theorem annotate_eq_ok_iff {outcome : Outcome α} {source location : Option String} {value : α} :
    outcome.annotate source location = .ok value ↔ outcome = .ok value := by
  cases outcome with
  | error failure => exact ⟨nofun, nofun⟩
  | ok other => rfl

theorem exists_of_annotate_eq_error {outcome : Outcome α} {source location : Option String}
    {e : Error} (fails : outcome.annotate source location = .error (.error e)) :
    ∃ inner, outcome = .error (.error inner) ∧ e = inner.annotate source location := by
  cases outcome with
  | ok value => cases fails
  | error failure =>
      cases failure with
      | fault fault => cases fails
      | error inner =>
          cases fails
          exact ⟨inner, rfl, rfl⟩

theorem annotate_bind {β : Type} (outcome : Outcome α) (next : α → Outcome β)
    (source location : Option String) :
    annotate (outcome >>= next) source location =
      annotate outcome source location >>= fun value =>
        annotate (next value) source location := by
  cases outcome <;> rfl

theorem annotate_map {β : Type} (f : α → β) (outcome : Outcome α)
    (source location : Option String) :
    annotate (f <$> outcome) source location = f <$> annotate outcome source location := by
  cases outcome <;> rfl

theorem annotate_mapM {β : Type} (f : α → Outcome β) (values : List α)
    (source location : Option String) :
    annotate (values.mapM f) source location =
      values.mapM fun value => annotate (f value) source location := by
  induction values with
  | nil => rfl
  | cons value values ih =>
      simp only [List.mapM_cons, annotate_bind, ih]
      rfl

end Outcome

end LayoutBinding
