import LayoutBinding.Proofs.Evaluation.Blame
import LayoutBinding.Proofs.Evaluation.FurtherNames
import LayoutBinding.Proofs.Evaluation.Parts

/-!
# Safe values

A value is safe where it stops an evaluation with allowed faults only: with that of a number
that is too long to be written, or of a moment that cannot be moved to the configured zone.
The built-in formatters give safe values of safe values.
-/

namespace LayoutBinding

/-! ### Outcomes -/

namespace Outcome

variable {α β : Type} {stops : Fault → Prop} {good : α → Prop}

/-- A computation gives something good, or fails with an error of a special sort, or stops
with a fault that is allowed. -/
def Yields (stops : Fault → Prop) (good : α → Prop) : Outcome α → Prop
  | .ok value => good value
  | .error (.error e) => e.kind ≠ .general
  | .error (.fault fault) => stops fault

theorem yields_refuse {cause : Cause} (special : decide (cause.kind = .general) = false) :
    (refuse cause : Outcome α).Yields stops good :=
  of_decide_eq_false special

theorem yields_ofExcept {result : Except Error α}
    (given : ∀ value, result = .ok value → good value)
    (special : ∀ e, result = .error e → e.kind ≠ .general) :
    (ofExcept result).Yields stops good := by
  cases result with
  | error e => exact special e rfl
  | ok value => exact given value rfl

namespace Yields

theorem bind {fine : β → Prop} {outcome : Outcome α} (first : outcome.Yields stops good)
    {next : α → Outcome β} (second : ∀ value, good value → (next value).Yields stops fine) :
    Yields stops fine (outcome >>= next) := by
  cases outcome with
  | ok value => exact second value first
  | error failure => cases failure <;> exact first

theorem map {fine : β → Prop} {outcome : Outcome α} (first : outcome.Yields stops good)
    {f : α → β} (keeps : ∀ value, good value → fine (f value)) :
    Yields stops fine (f <$> outcome) := by
  cases outcome with
  | ok value => exact keeps value first
  | error failure => cases failure <;> exact first

theorem mapM {fine : β → Prop} {f : α → Outcome β} {values : List α}
    (each : ∀ value ∈ values, (f value).Yields stops fine) :
    Yields stops (fun results => ∀ result ∈ results, fine result) (values.mapM f) := by
  induction values with
  | nil => exact fun _ => nofun
  | cons value values ih =>
      rw [List.forall_mem_cons] at each
      rw [List.mapM_cons]
      exact each.1.bind fun result first => (ih each.2).bind fun results others =>
        List.forall_mem_cons.mpr ⟨first, others⟩

theorem annotate {outcome : Outcome α} (yields : outcome.Yields stops good)
    (source location : Option String) : (outcome.annotate source location).Yields stops good := by
  cases outcome with
  | ok value => exact yields
  | error failure => cases failure <;> exact yields

end Yields

end Outcome

open Outcome

/-! ### Safe values -/

namespace Value

/-- A value is no function, and the name of an anchor is a text. -/
def isInert : Value → Bool
  | .function _ => false
  | .anchor (.text _) => true
  | .anchor _ => false
  | _ => true

/-- A number, the number of the items of a sequence, or the number of a turn has more
digits than are written. -/
def isTooLong : Value → Bool
  | .whole n => (Numeral.limited? n).isNone
  | .bytes bs => (Numeral.limited? bs.length).isNone
  | .list items => (Numeral.limited? items.length).isNone
  | .tuple items => (Numeral.limited? items.length).isNone
  | .loop frame => (Numeral.limited? frame.index).isNone
  | _ => false

/-- A moment with a zone of its own cannot be moved to the zone that moments are written
in. -/
def isStranded (zone : Option Zone) : Value → Bool
  | .moment m => m.zone.isSome && zone.any fun zone => (m.inZone? zone).isNone
  | _ => false

/-- A value stops an evaluation with allowed faults only. -/
structure IsSafe (zone : Option Zone) (stops : Fault → Prop) (value : Value) : Prop where
  inert : value.isInert = true
  short : value.isTooLong = true → stops .numberTooLong
  movable : value.isStranded zone = true → stops .dateOutOfRange

variable {zone : Option Zone} {stops : Fault → Prop}

def Safe (zone : Option Zone) (stops : Fault → Prop) (value : Value) : Prop :=
  value.All (IsSafe zone stops)

theorem safe_of_alone {value : Value} (alone : value.parts = [value])
    (inert : value.isInert = true) (short : value.isTooLong = true → stops .numberTooLong)
    (movable : value.isStranded zone = false) : value.Safe zone stops := by
  rw [Safe, All, alone, List.forall_mem_singleton]
  exact ⟨inert, short, fun stranded => by rw [movable] at stranded; cases stranded⟩

theorem safe_text (t : Text) : (text t).Safe zone stops :=
  safe_of_alone rfl rfl nofun rfl

theorem safe_truth (b : Bool) : (truth b).Safe zone stops :=
  safe_of_alone rfl rfl nofun rfl

theorem safe_double (d : Double) : (double d).Safe zone stops :=
  safe_of_alone rfl rfl nofun rfl

theorem safe_whole {n : Int} (short : (Numeral.limited? n).isNone = true → stops .numberTooLong) :
    (whole n).Safe zone stops :=
  safe_of_alone rfl rfl short rfl

theorem safe_whole_of_lt {n : Int} (small : n.natAbs < 10 ^ 4) : (whole n).Safe zone stops := by
  refine safe_whole fun long => ?_
  rw [← Option.not_isSome, Numeral.isSome_limited?_of_lt small] at long
  cases long

theorem short_of_le {m n : Int} (smaller : m.natAbs ≤ n.natAbs)
    (short : (Numeral.limited? n).isNone = true → stops .numberTooLong)
    (long : (Numeral.limited? m).isNone = true) : stops .numberTooLong := by
  apply short
  rw [← Option.not_isSome] at long ⊢
  cases written : (Numeral.limited? n).isSome with
  | false => rfl
  | true =>
      rw [Numeral.isSome_limited?_of_le written smaller] at long
      cases long

theorem safe_tuple {items : List Value} {bound : Nat} (fewer : items.length ≤ bound)
    (short : (Numeral.limited? bound).isNone = true → stops .numberTooLong)
    (each : ∀ item ∈ items, item.Safe zone stops) : (tuple items).Safe zone stops := by
  refine all_tuple_iff.mpr ⟨⟨rfl, short_of_le ?_ short, nofun⟩, each⟩
  simpa using fewer

theorem safe_of_contents {value : Value} (safe : value.Safe zone stops)
    (sequence : value.isOf .sequence = true) (noText : value.isOf .text = false) :
    ∃ items, value.contents? = some items ∧ (∀ item ∈ items, item.Safe zone stops) ∧
      ((Numeral.limited? items.length).isNone = true → stops .numberTooLong) := by
  cases value with
  | list items =>
      obtain ⟨self, each⟩ := all_list_iff.mp safe
      exact ⟨items, rfl, each, self.short⟩
  | tuple items =>
      obtain ⟨self, each⟩ := all_tuple_iff.mp safe
      exact ⟨items, rfl, each, self.short⟩
  | bytes bs =>
      refine ⟨_, rfl, List.forall_mem_map.mpr fun b _ => safe_whole_of_lt ?_, ?_⟩
      · have bound := b.toNat_lt
        rw [Int.natAbs_natCast]
        omega
      · rw [List.length_map]
        exact safe.self.short
  | text t =>
      obtain ⟨content, trusted⟩ := t
      cases trusted <;> cases noText
  | mapping readOnly entries => cases readOnly <;> cases sequence
  | _ => cases sequence

/-! ### Values of a type -/

theorem exists_of_isOf_text {value : Value} (isText : value.isOf .text = true) :
    ∃ t, value = .text t := by
  cases value with
  | text t => exact ⟨t, rfl⟩
  | mapping readOnly entries => cases readOnly <;> cases isText
  | _ => cases isText

theorem exists_of_isOf_date {value : Value}
    (isDate : value.isOf .moment = true ∨ value.isOf .date = true) :
    (∃ m, value = .moment m) ∨ ∃ d, value = .date d := by
  cases value with
  | moment m => exact .inl ⟨m, rfl⟩
  | date d => exact .inr ⟨d, rfl⟩
  | text t =>
      obtain ⟨content, trusted⟩ := t
      cases trusted <;> rcases isDate with isDate | isDate <;> cases isDate
  | mapping readOnly entries =>
      cases readOnly <;> rcases isDate with isDate | isDate <;> cases isDate
  | _ => rcases isDate with isDate | isDate <;> cases isDate

theorem exists_of_accepts_whole {value : Value}
    (accepted : Formatter.accepts .whole value = true) : ∃ n, value = .whole n := by
  cases value with
  | whole n => exact ⟨n, rfl⟩
  | text t =>
      obtain ⟨content, trusted⟩ := t
      cases trusted <;> cases accepted
  | mapping readOnly entries => cases readOnly <;> cases accepted
  | _ => cases accepted

theorem exists_of_accepts_text {value : Value}
    (accepted : Formatter.accepts .text value = true) : ∃ t, value = .text t :=
  exists_of_isOf_text (Bool.and_eq_true_iff.mp accepted).1

end Value

/-! ### Formatters -/

namespace Builtin

def argumentTypes : Builtin → List ValueType
  | .format | .join => [.text]
  | .limit => [.whole]
  | _ => []

/-- The types of the values that a built-in formatter is there for. -/
def valueTypes : Builtin → List ValueType
  | .format | .iso => [.moment, .date]
  | .upper | .lower | .trim => [.text]
  | _ => [.sequence]

end Builtin

/-- An entry of a table holds a built-in formatter for one of its types. -/
def FormatterTable.isOwnEntry (entry : (ValueType × String) × Formatter) : Bool :=
  match entry.2.operation with
  | .builtin builtin =>
      entry.2.argumentTypes = builtin.argumentTypes && builtin.valueTypes.contains entry.1.1
  | .custom .. => false

theorem FormatterTable.exists_of_mem_builtins {entry : (ValueType × String) × Formatter}
    (member : entry ∈ builtins) : ∃ builtin, entry.2.operation = .builtin builtin ∧
      entry.2.argumentTypes = builtin.argumentTypes ∧ entry.1.1 ∈ builtin.valueTypes := by
  have all : ∀ entry ∈ builtins, isOwnEntry entry = true := by decide
  have own := all entry member
  unfold isOwnEntry at own
  split at own
  next builtin operation =>
    simp only [Bool.and_eq_true, decide_eq_true_eq, List.contains_iff_mem] at own
    exact ⟨builtin, operation, own⟩
  next => cases own

/-- A formatter that is found is built in and is there for the value. -/
theorem Registry.exists_of_find?_fresh {value : Value} {name : String} {formatter : Formatter}
    (found : fresh.find? value name = some formatter) :
    ∃ builtin type, formatter.operation = .builtin builtin ∧
      formatter.argumentTypes = builtin.argumentTypes ∧ type ∈ builtin.valueTypes ∧
      value.isOf type = true ∧ (type = .sequence → value.isOf .text = false) := by
  change FormatterTable.builtins.find? value name = some formatter at found
  unfold FormatterTable.find? at found
  split at found
  next other first =>
    cases found
    obtain ⟨type, among, found⟩ := List.exists_of_findSome?_eq_some first
    obtain ⟨builtin, operation, types, there⟩ :=
      FormatterTable.exists_of_mem_builtins (Entries.mem_of_get? found)
    have notSequence : type ≠ .sequence := fun same =>
      value.sequence_notMem_lineage (same ▸ among)
    exact ⟨builtin, type, operation, types, there, Value.isOf_of_mem_lineage among,
      fun same => absurd same notSequence⟩
  next =>
    split at found
    next sequence =>
      simp only [Bool.and_eq_true, Bool.not_eq_true'] at sequence
      obtain ⟨builtin, operation, types, there⟩ :=
        FormatterTable.exists_of_mem_builtins (Entries.mem_of_get? found)
      exact ⟨builtin, .sequence, operation, types, there, sequence.1, fun _ => sequence.2⟩
    next => cases found

/-! ### Contexts -/

/-- A context binds safe values, and its namespace of links is one. -/
structure Context.IsSafe (context : Context) (stops : Fault → Prop) : Prop where
  bound : ∀ name value, Entries.get? context.namespaces name = some value →
    value.Safe context.zone? stops
  links : ∀ value, Entries.get? context.namespaces "link" = some value →
    ∃ index current, value = .links index current
  frame : ∀ frame ∈ context.frame, (Value.loop frame).Safe context.zone? stops

namespace Context.IsSafe

variable {context : Context} {stops : Fault → Prop} (safe : context.IsSafe stops)

include safe

theorem yields_lookup (name : String) :
    (context.lookup name).Yields stops (Value.Safe context.zone? stops) := by
  unfold lookup
  split
  · cases inLoop : context.frame with
    | none => exact yields_refuse rfl
    | some frame => exact safe.frame frame inLoop
  · cases bound : Entries.get? context.namespaces name with
    | none => exact yields_refuse rfl
    | some value => exact safe.bound name value bound

/-- A turn for an item of a sequence that is not too long keeps a context safe. -/
theorem enterLoop {items : List Value}
    (short : (Numeral.limited? items.length).isNone = true → stops .numberTooLong)
    {item : Value} (fine : item.Safe context.zone? stops) {index : Nat}
    (inside : index < items.length) :
    (context.enterLoop item index items.length).IsSafe stops where
  bound := safe.bound
  links := safe.links
  frame := by
    rintro _ ⟨⟩
    have turn : (index : Int).natAbs ≤ (items.length : Int).natAbs := by omega
    exact Value.all_loop_iff.mpr
      ⟨⟨rfl, Value.short_of_le turn short, nofun⟩, fine, safe.frame⟩

end Context.IsSafe

theorem Context.isSafe_ofPage {p : Page} {stops : Fault → Prop} {config : Config}
    (fine : (Value.page p).Safe (config.timezone.map TimeZone.zone) stops)
    (index : Option LinkIndex) : (ofPage (.page p) index config []).IsSafe stops where
  bound name value given := by
    cases index with
    | none =>
        have among : (name, value) ∈ [("page", Value.page p), ("block", .blocks blockHints),
            ("section", .sections)] := Entries.mem_of_get? given
        simp only [List.mem_cons, Prod.mk.injEq, List.not_mem_nil, or_false] at among
        obtain ⟨-, rfl⟩ | ⟨-, rfl⟩ | ⟨-, rfl⟩ := among
        · exact fine
        · exact Value.safe_of_alone rfl rfl nofun rfl
        · exact Value.safe_of_alone rfl rfl nofun rfl
    | some index =>
        have among : (name, value) ∈ [("page", Value.page p), ("block", .blocks blockHints),
            ("section", .sections), ("link", .links index (some p))] :=
          Entries.mem_of_get? given
        simp only [List.mem_cons, Prod.mk.injEq, List.not_mem_nil, or_false] at among
        obtain ⟨-, rfl⟩ | ⟨-, rfl⟩ | ⟨-, rfl⟩ | ⟨-, rfl⟩ := among
        · exact fine
        · exact Value.safe_of_alone rfl rfl nofun rfl
        · exact Value.safe_of_alone rfl rfl nofun rfl
        · exact Value.safe_of_alone rfl rfl nofun rfl
  links value given := by
    cases index with
    | none => cases given
    | some index =>
        cases given
        exact ⟨index, some p, rfl⟩
  frame := nofun

/-! ### Arguments of formatters -/

namespace Formatter

def Takes (types : List ValueType) (arguments : List Value) : Prop :=
  List.Forall₂ (fun type argument => accepts type argument = true) types arguments

theorem takes_of_firstRefused {types : List ValueType} {arguments : List Value} {position : Nat}
    (accepted : firstRefused position types arguments = none)
    (count : arguments.length = types.length) : Takes types arguments := by
  induction types generalizing arguments position with
  | nil =>
      rw [List.eq_nil_of_length_eq_zero count]
      exact .nil
  | cons type types ih =>
      cases arguments with
      | nil => cases count
      | cons argument arguments =>
          rw [firstRefused] at accepted
          split at accepted
          next fits => exact .cons fits (ih accepted (Nat.succ.inj count))
          next => cases accepted

theorem yields_check {stops : Fault → Prop} (formatter : Formatter) (arguments : List Value) :
    (formatter.check arguments).Yields stops fun _ =>
      Takes formatter.argumentTypes arguments := by
  unfold check
  split
  · exact yields_refuse rfl
  next count =>
    split
    · exact yields_refuse rfl
    next accepted => exact takes_of_firstRefused accepted (not_not.mp count)

theorem eq_nil_of_takes {arguments : List Value} (takes : Takes [] arguments) :
    arguments = [] := by
  cases takes
  rfl

theorem exists_of_takes_sole {type : ValueType} {arguments : List Value}
    (takes : Takes [type] arguments) :
    ∃ argument, arguments = [argument] ∧ accepts type argument = true := by
  cases takes with
  | @cons _ argument _ _ accepted none =>
      cases none
      exact ⟨argument, rfl, accepted⟩

theorem exists_of_takes_text {arguments : List Value} (takes : Takes [.text] arguments) :
    ∃ t, arguments = [.text t] := by
  obtain ⟨_, rfl, accepted⟩ := exists_of_takes_sole takes
  obtain ⟨t, rfl⟩ := Value.exists_of_accepts_text accepted
  exact ⟨t, rfl⟩

theorem exists_of_takes_whole {arguments : List Value} (takes : Takes [.whole] arguments) :
    ∃ n, arguments = [.whole n] := by
  obtain ⟨_, rfl, accepted⟩ := exists_of_takes_sole takes
  obtain ⟨n, rfl⟩ := Value.exists_of_accepts_whole accepted
  exact ⟨n, rfl⟩

end Formatter

/-! ### Results of formatters -/

theorem Value.yields_toText {zone : Option Zone} {stops : Fault → Prop} {value : Value}
    (safe : value.Safe zone stops) : value.toText.Yields stops fun _ => True := by
  cases value with
  | whole n =>
      cases written : Numeral.limited? n with
      | some digits => simp [toText, written, Yields]
      | none =>
          rw [toText, written]
          exact safe.self.short (by rw [isTooLong, written]; rfl)
  | anchor id =>
      have inert := safe.self.inert
      cases id with
      | text t => trivial
      | _ => cases inert
  | foreign typeName html =>
      cases html with
      | none => exact yields_refuse rfl
      | some content => trivial
  | absent | truth | double | text | hint => trivial
  | _ => exact yields_refuse rfl

theorem Value.yields_toItems {zone : Option Zone} {stops : Fault → Prop} {value : Value}
    (safe : value.Safe zone stops) : value.toItems.Yields stops fun items =>
      (∀ item ∈ items, item.Safe zone stops) ∧
        ((Numeral.limited? items.length).isNone = true → stops .numberTooLong) := by
  cases value with
  | list items =>
      obtain ⟨self, each⟩ := all_list_iff.mp safe
      exact ⟨each, self.short⟩
  | tuple items =>
      obtain ⟨self, each⟩ := all_tuple_iff.mp safe
      exact ⟨each, self.short⟩
  | _ => exact yields_refuse rfl

namespace Builtin

variable {context : Context} {stops : Fault → Prop} {value : Value}

theorem yields_localized {m : Moment}
    (movable : (Value.moment m).isStranded context.zone? = true → stops .dateOutOfRange) :
    (localized context m).Yields stops fun _ => True := by
  unfold localized
  split
  next zone own asked given =>
    split
    · trivial
    next stranded =>
      apply movable
      rw [Value.isStranded, asked, given, Option.any_some, stranded]
      rfl
  · trivial

theorem yields_formatted (safe : value.Safe context.zone? stops)
    (isDate : value.isOf .moment = true ∨ value.isOf .date = true) (layout : String) :
    (formatted context layout value).Yields stops (Value.Safe context.zone? stops) := by
  obtain ⟨m, rfl⟩ | ⟨d, rfl⟩ := Value.exists_of_isOf_date isDate
  · exact (yields_localized safe.self.movable).bind fun _ _ => Value.safe_text _
  · exact Value.safe_text _

theorem yields_isoText (safe : value.Safe context.zone? stops)
    (isDate : value.isOf .moment = true ∨ value.isOf .date = true) :
    (isoText context value).Yields stops (Value.Safe context.zone? stops) := by
  obtain ⟨m, rfl⟩ | ⟨d, rfl⟩ := Value.exists_of_isOf_date isDate
  · exact (yields_localized safe.self.movable).bind fun _ _ => Value.safe_text _
  · exact Value.safe_text _

theorem yields_onText {zone : Option Zone} (isText : value.isOf .text = true) (f : Text → Text) :
    (onText f value).Yields stops (Value.Safe zone stops) := by
  obtain ⟨t, rfl⟩ := Value.exists_of_isOf_text isText
  exact Value.safe_text _

theorem yields_onItems {zone : Option Zone} (safe : value.Safe zone stops)
    (sequence : value.isOf .sequence = true) (noText : value.isOf .text = false)
    {f : List Value → Outcome Value}
    (each : ∀ items : List Value, (∀ item ∈ items, item.Safe zone stops) →
      ((Numeral.limited? items.length).isNone = true → stops .numberTooLong) →
        (f items).Yields stops (Value.Safe zone stops)) :
    (onItems f value).Yields stops (Value.Safe zone stops) := by
  obtain ⟨items, contents, fine, short⟩ := Value.safe_of_contents safe sequence noText
  unfold onItems
  rw [contents]
  exact each items fine short

section

variable {zone : Option Zone} {items : List Value} (fine : ∀ item ∈ items, item.Safe zone stops)

include fine

theorem yields_itemOf (method : String) {item : Option Value}
    (among : ∀ value ∈ item, value ∈ items) :
    (itemOf method item).Yields stops (Value.Safe zone stops) := by
  cases item with
  | none => exact yields_refuse rfl
  | some value => exact fine value (among value rfl)

theorem yields_limited
    (short : (Numeral.limited? items.length).isNone = true → stops .numberTooLong) {n : Int}
    (written : (Numeral.limited? n).isNone = true → stops .numberTooLong) :
    (limited n items).Yields stops (Value.Safe zone stops) := by
  unfold limited
  split
  · split
    · exact yields_refuse rfl
    next tooLong => exact written (Option.not_isSome_iff_eq_none.mp tooLong ▸ rfl)
  · exact Value.safe_tuple (List.length_take_le' _ _) short fun item among =>
      fine item (List.mem_of_mem_take among)

theorem yields_joined (separator : Text) :
    (do
      let texts ← items.mapM Value.toText
      pure (Value.text (joined separator texts)) : Outcome Value).Yields stops
        (Value.Safe zone stops) :=
  (Yields.mapM fun item among => Value.yields_toText (fine item among)).bind fun _ _ =>
    Value.safe_text _

end

/-- A built-in formatter with the arguments that it takes gives a safe value of a safe
value that it is there for. -/
theorem yields_run (builtin : Builtin) (safe : value.Safe context.zone? stops) {type : ValueType}
    (there : type ∈ builtin.valueTypes) (isOf : value.isOf type = true)
    (noText : type = .sequence → value.isOf .text = false) {arguments : List Value}
    (accepted : Formatter.Takes builtin.argumentTypes arguments)
    (fine : ∀ argument ∈ arguments, argument.Safe context.zone? stops) :
    (builtin.run context value arguments).Yields stops (Value.Safe context.zone? stops) := by
  have isDate (types : builtin.valueTypes = [.moment, .date]) :
      value.isOf .moment = true ∨ value.isOf .date = true := by
    rw [types, List.mem_cons, List.mem_singleton] at there
    rcases there with rfl | rfl
    · exact .inl isOf
    · exact .inr isOf
  have isText (types : builtin.valueTypes = [.text]) : value.isOf .text = true := by
    rw [types, List.mem_singleton] at there
    exact there ▸ isOf
  have onItems (types : builtin.valueTypes = [.sequence]) {f : List Value → Outcome Value} :
      (∀ items : List Value, (∀ item ∈ items, item.Safe context.zone? stops) →
        ((Numeral.limited? items.length).isNone = true → stops .numberTooLong) →
          (f items).Yields stops (Value.Safe context.zone? stops)) →
      (Builtin.onItems f value).Yields stops (Value.Safe context.zone? stops) := by
    rw [types, List.mem_singleton] at there
    exact yields_onItems safe (there ▸ isOf) (noText there)
  cases builtin with
  | format =>
      obtain ⟨layout, rfl⟩ := Formatter.exists_of_takes_text accepted
      exact yields_formatted safe (isDate rfl) layout.content
  | iso =>
      obtain rfl := Formatter.eq_nil_of_takes accepted
      exact yields_isoText safe (isDate rfl)
  | upper | lower | trim =>
      obtain rfl := Formatter.eq_nil_of_takes accepted
      exact yields_onText (isText rfl) _
  | length =>
      obtain rfl := Formatter.eq_nil_of_takes accepted
      exact onItems rfl fun items _ short => Value.safe_whole short
  | first =>
      obtain rfl := Formatter.eq_nil_of_takes accepted
      exact onItems rfl fun items each _ => yields_itemOf each _ fun _ => List.mem_of_mem_head?
  | last =>
      obtain rfl := Formatter.eq_nil_of_takes accepted
      exact onItems rfl fun items each _ => yields_itemOf each _ fun _ => List.mem_of_mem_getLast?
  | reverse =>
      obtain rfl := Formatter.eq_nil_of_takes accepted
      exact onItems rfl fun items each short =>
        Value.safe_tuple (List.length_reverse).le short fun item among =>
          each item (List.mem_reverse.mp among)
  | limit =>
      obtain ⟨n, rfl⟩ := Formatter.exists_of_takes_whole accepted
      exact onItems rfl fun items each short =>
        yields_limited each short (fine _ List.mem_cons_self).self.short
  | join =>
      obtain ⟨separator, rfl⟩ := Formatter.exists_of_takes_text accepted
      exact onItems rfl fun items each _ => yields_joined each separator

end Builtin

/-- With the built-in formatters, a formatter that is found for a safe value gives a safe
one of it and of safe arguments. -/
theorem Formatter.yields_apply {context : Context} {stops : Fault → Prop} {value : Value}
    (safe : value.Safe context.zone? stops) {name : String} {formatter : Formatter}
    (found : Registry.fresh.find? value name = some formatter) {arguments : List Value}
    (fine : ∀ argument ∈ arguments, argument.Safe context.zone? stops) :
    (formatter.apply context value arguments).Yields stops
      (Value.Safe context.zone? stops) := by
  obtain ⟨builtin, type, operation, types, there, isOf, noText⟩ :=
    Registry.exists_of_find?_fresh found
  refine (formatter.yields_check arguments).bind fun _ accepted => ?_
  rw [types] at accepted
  unfold Formatter.run
  rw [operation]
  exact builtin.yields_run safe there isOf noText accepted fine

end LayoutBinding
