import LayoutBinding.Calendar.ReferenceLayout
import LayoutBinding.Formatter.Registry
import LayoutBinding.Value.Text

/-!
# Built-in formatters

Moments and dates are written in a layout or in ISO 8601, a moment with a zone
after moving it to the configured zone.  Texts change their case and lose the
blanks around them.  Sequences are counted, cut, reversed and joined.
-/

namespace LayoutBinding

namespace Builtin

/-- A moment in the configured zone; one without a zone stays as it is. -/
def localized (context : Context) (m : Moment) : Outcome Moment :=
  match context.zone?, m.zone with
  | some zone, some _ =>
      match m.inZone? zone with
      | some moved => .ok moved
      | none => .stop .dateOutOfRange
  | _, _ => .ok m

/-- A moment or a date in a reference-time layout. -/
def formatted (context : Context) (layout : String) : Value → Outcome Value
  | .moment m => do
      let m ← localized context m
      pure (.string (m.format layout))
  | .date d => .ok (.string ((Moment.ofDate d).format layout))
  | _ => .stop .missingMember

def isoText (context : Context) : Value → Outcome Value
  | .moment m => do
      let m ← localized context m
      pure (.string m.iso)
  | .date d => .ok (.string d.iso)
  | _ => .stop .missingMember

def onText (f : Text → Text) : Value → Outcome Value
  | .text t => .ok (.text (f t))
  | _ => .stop .missingMember

def onItems (f : List Value → Outcome Value) (value : Value) : Outcome Value :=
  match value.contents? with
  | some items => f items
  | none => .stop .wrongSort

/-- Texts joined by a separator; with a trusted one the result is trusted and
the others are escaped. -/
def joined (separator : Text) (texts : List Text) : Text :=
  if separator.trusted then
    .markup (separator.content.intercalate (texts.map fun t => t.escaped.content))
  else
    .plain (separator.content.intercalate (texts.map Text.content))

/-- No more than a number of leading items. -/
def limited (n : Int) (items : List Value) : Outcome Value :=
  if n < 0 then
    if (Numeral.limited? n).isSome then .refuse (.negativeLimit n) else .stop .numberTooLong
  else
    .ok (.tuple (items.take n.toNat))

/-- An item of a sequence that must not be empty. -/
def itemOf (method : String) (item : Option Value) : Outcome Value :=
  match item with
  | some value => .ok value
  | none => .refuse (.emptySequence method)

/-- The result of a built-in formatter; the arguments have been checked. -/
def run (builtin : Builtin) (context : Context) (value : Value) (arguments : List Value) :
    Outcome Value :=
  match builtin, arguments with
  | .format, [.text layout] => formatted context layout.content value
  | .iso, [] => isoText context value
  | .upper, [] => onText Text.upper value
  | .lower, [] => onText Text.lower value
  | .trim, [] => onText Text.trimmed value
  | .length, [] => onItems (fun items => .ok (.whole items.length)) value
  | .first, [] => onItems (fun items => itemOf "first" items.head?) value
  | .last, [] => onItems (fun items => itemOf "last" items.getLast?) value
  | .reverse, [] => onItems (fun items => .ok (.tuple items.reverse)) value
  | .limit, [.whole n] => onItems (limited n) value
  | .join, [.text separator] =>
      onItems (fun items => do
        let texts ← items.mapM Value.toText
        pure (.text (joined separator texts))) value
  | _, _ => .stop .wrongSort

end Builtin

namespace Formatter

/-- Run a formatter on a value, with arguments that have been checked. -/
def run (formatter : Formatter) (context : Context) (value : Value) (arguments : List Value) :
    Outcome Value :=
  match formatter.operation with
  | .builtin builtin => builtin.run context value arguments
  | .custom _ operation => operation context value arguments

/-- Check the arguments of a formatter and run it. -/
def apply (formatter : Formatter) (context : Context) (value : Value) (arguments : List Value) :
    Outcome Value := do
  formatter.check arguments
  formatter.run context value arguments

end Formatter

end LayoutBinding
