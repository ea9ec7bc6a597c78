import LayoutBinding.Text.Basic
import LayoutBinding.Character.Printable

/-!
# Quoted texts

Messages show a text between single quotes, or between double quotes if it
holds a single quote and no double one.  The delimiter and the backslash are
written after a backslash, and a character that is not printable is written by
its code.  A trusted text is marked as such.
-/

namespace LayoutBinding

namespace Quoted

def hexDigit (value : Nat) : Char :=
  Char.ofNat (if value < 10 then 48 + value else 87 + value)

/-- The last `width` hexadecimal places of a number, the highest first. -/
def hexDigits : Nat → Nat → List Char
  | 0, _ => []
  | width + 1, value => hexDigits width (value / 16) ++ [hexDigit (value % 16)]

/-- The delimiter of a quoted text. -/
def delimiter (cs : List Char) : Char :=
  if cs.contains '\'' && !cs.contains '"' then '"' else '\''

/-- The written form of a character that is shown by its code. -/
def encodeCode (code : Nat) : List Char :=
  if code < 256 then
    '\\' :: 'x' :: hexDigits 2 code
  else if code < 65536 then
    '\\' :: 'u' :: hexDigits 4 code
  else
    '\\' :: 'U' :: hexDigits 8 code

def encodeChar (delimiter c : Char) : List Char :=
  if c = delimiter ∨ c = '\\' then
    ['\\', c]
  else if c = '\n' then
    ['\\', 'n']
  else if c = '\r' then
    ['\\', 'r']
  else if c = '\t' then
    ['\\', 't']
  else if Character.isPrintable c then
    [c]
  else
    encodeCode c.toNat

def encode (cs : List Char) : List Char :=
  let mark := delimiter cs
  mark :: cs.flatMap (encodeChar mark) ++ [mark]

def encodeByte (delimiter : Char) (byte : UInt8) : List Char :=
  let c := Char.ofNat byte.toNat
  if byte.toNat < 128 then encodeChar delimiter c else encodeCode byte.toNat

/-- The written form of a byte string, which is marked by a leading `b`. -/
def encodeBytes (bytes : List UInt8) : List Char :=
  let mark := delimiter (bytes.map fun byte => Char.ofNat byte.toNat)
  'b' :: mark :: bytes.flatMap (encodeByte mark) ++ [mark]

end Quoted

def quoted (s : String) : String :=
  String.ofList (Quoted.encode s.toList)

/-- The quoted form of a text, which shows whether the text is trusted. -/
def Text.quoted (t : Text) : String :=
  if t.trusted then
    "Markup(" ++ LayoutBinding.quoted t.content ++ ")"
  else
    LayoutBinding.quoted t.content

end LayoutBinding
