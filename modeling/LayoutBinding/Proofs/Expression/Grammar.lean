import LayoutBinding.Expression.Parser

/-!
# The grammar of expressions

The grammar is stated on words that stand before another text, because a name
and a number are as long as possible: whether a word is one depends on the
character that follows it.  No rule mentions how a text is read.
-/

namespace LayoutBinding

namespace Grammar

open Expression

/-- No character that satisfies the test stands at the start of the text. -/
def EndsRun (test : Char → Bool) (next : List Char) : Prop :=
  ∀ c ∈ next.head?, test c = false

def Blanks (word : List Char) : Prop :=
  ∀ c ∈ word, Character.isBlank c = true

/-- A letter or an underscore, and all the letters, numerals and underscores
after it. -/
inductive NameAt : (word next : List Char) → Prop
  | intro {c : Char} {cs next : List Char} (starts : startsName c = true)
      (continues : ∀ d ∈ cs, continuesName d = true)
      (maximal : EndsRun continuesName next) :
      NameAt (c :: cs) next

inductive EscapeMeans : Char → List Char → Prop
  | newline : EscapeMeans 'n' ['\n']
  | tab : EscapeMeans 't' ['\t']
  | backslash : EscapeMeans '\\' ['\\']
  | doubleQuote : EscapeMeans '"' ['"']
  | singleQuote : EscapeMeans '\'' ['\'']
  | other {c : Char} (plain : c ∉ ['n', 't', '\\', '"', '\'']) : EscapeMeans c ['\\', c]

/-- The characters between two quotes, and the text that they stand for. -/
inductive QuotedBody (quote : Char) : List Char → List Char → Prop
  | nil : QuotedBody quote [] []
  | plain {c : Char} {cs text : List Char} (notQuote : c ≠ quote) (notEscape : c ≠ '\\')
      (body : QuotedBody quote cs text) :
      QuotedBody quote (c :: cs) (c :: text)
  | escaped {c : Char} {cs meaning text : List Char} (means : EscapeMeans c meaning)
      (body : QuotedBody quote cs text) :
      QuotedBody quote ('\\' :: c :: cs) (meaning ++ text)

/-- A string between two quotes of one sort. -/
inductive StringWord : List Char → List Char → Prop
  | intro {quote : Char} {body text : List Char} (isQuote : quote = '"' ∨ quote = '\'')
      (quotes : QuotedBody quote body text) :
      StringWord (quote :: (body ++ [quote])) text

/-- The value of a numeral: with a point it is a double, else a whole number. -/
inductive NumeralValue : List Char → Literal → Prop
  | whole {word : List Char} {n : Int} (noPoint : '.' ∉ word)
      (reads : Numeral.read? word = some n) :
      NumeralValue word (.whole n)
  | double {word : List Char} {d : Double} (point : '.' ∈ word)
      (reads : Double.read? word = some d) :
      NumeralValue word (.double d)

/-- An optional sign and all the digits and points after it, which must be the
numeral of a value. -/
inductive NumberAt : (word next : List Char) → Literal → Prop
  | intro {sign run next : List Char} {value : Literal}
      (signed : sign = [] ∨ sign = ['-'] ∨ sign = ['+'])
      (continues : ∀ c ∈ run, continuesNumber c = true)
      (maximal : EndsRun continuesNumber next)
      (valued : NumeralValue (sign ++ run) value) :
      NumberAt (sign ++ run) next value

mutual

/-- A dollar sign, a declared name, and any number of steps. -/
inductive ChainAt (declared : List String) : (word next : List Char) → Expression → Prop
  | intro {name steps next : List Char} {tree : List Step}
      (named : NameAt name (steps ++ next))
      (known : String.ofList name ∈ declared)
      (derived : StepsAt declared steps next tree) :
      ChainAt declared ('$' :: (name ++ steps)) next
        ⟨String.ofList ('$' :: (name ++ steps)), String.ofList name, tree⟩

inductive StepsAt (declared : List String) : (word next : List Char) → List Step → Prop
  | nil {next : List Char} : StepsAt declared [] next []
  | cons {segment steps next : List Char} {step : Step} {tree : List Step}
      (first : SegmentAt declared segment (steps ++ next) step)
      (others : StepsAt declared steps next tree) :
      StepsAt declared ('.' :: (segment ++ steps)) next (step :: tree)

/-- A name, or a name with arguments in brackets. -/
inductive SegmentAt (declared : List String) : (word next : List Char) → Step → Prop
  | field {name next : List Char} (named : NameAt name next) :
      SegmentAt declared name next (.field (String.ofList name))
  | call {name inside next : List Char} {arguments : List Argument}
      (named : NameAt name ('(' :: (inside ++ ')' :: next)))
      (derived : ArgumentsAt declared inside (')' :: next) arguments) :
      SegmentAt declared (name ++ '(' :: (inside ++ [')'])) next
        (.call (String.ofList name) arguments)

/-- What stands between the brackets of a call: blanks, and arguments with
blanks around them. -/
inductive ArgumentsAt (declared : List String) :
    (word next : List Char) → List Argument → Prop
  | none {blanks next : List Char} (blank : Blanks blanks) :
      ArgumentsAt declared blanks next []
  | some {before list after next : List Char} {arguments : List Argument}
      (blankBefore : Blanks before) (blankAfter : Blanks after)
      (derived : ArgumentListAt declared list (after ++ next) arguments) :
      ArgumentsAt declared (before ++ (list ++ after)) next arguments

inductive ArgumentListAt (declared : List String) :
    (word next : List Char) → List Argument → Prop
  | last {word next : List Char} {argument : Argument}
      (derived : ArgumentAt declared word next argument) :
      ArgumentListAt declared word next [argument]
  | cons {word before after list next : List Char} {argument : Argument}
      {arguments : List Argument}
      (first : ArgumentAt declared word (before ++ ',' :: (after ++ (list ++ next))) argument)
      (blankBefore : Blanks before) (blankAfter : Blanks after)
      (others : ArgumentListAt declared list next arguments) :
      ArgumentListAt declared (word ++ (before ++ ',' :: (after ++ list))) next
        (argument :: arguments)

/-- A string, a number, a truth value or an expression. -/
inductive ArgumentAt (declared : List String) : (word next : List Char) → Argument → Prop
  | string {word text next : List Char} (quoted : StringWord word text) :
      ArgumentAt declared word next (.literal (.text (String.ofList text)))
  | number {word next : List Char} {value : Literal} (written : NumberAt word next value) :
      ArgumentAt declared word next (.literal value)
  | truth {word next : List Char} (named : NameAt word next) (isTrue : word = "true".toList) :
      ArgumentAt declared word next (.literal (.truth true))
  | falsehood {word next : List Char} (named : NameAt word next)
      (isFalse : word = "false".toList) :
      ArgumentAt declared word next (.literal (.truth false))
  | nested {word next : List Char} {expression : Expression}
      (derived : ChainAt declared word next expression) :
      ArgumentAt declared word next (.nested expression)

end

/-- The text does not go on with what could continue a chain: a character of a
name, an opening bracket, or a point that a name follows. -/
structure Stops (next : List Char) : Prop where
  noName : EndsRun continuesName next
  noBracket : next.head? ≠ some '('
  noStep : ∀ after, next = '.' :: after → nameStarts after = false

/-- The expression that a whole text is, blanks around it aside, if `extra`
namespaces may be used besides the default ones. -/
def Derives (extra : List String) (text : String) (expression : Expression) : Prop :=
  ChainAt (declaredWith extra) (trim Character.isBlank text.toList) [] expression

end Grammar

end LayoutBinding
