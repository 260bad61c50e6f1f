/-
  VrmlWorld/Document/Token.lean
  =============================
  **The tokens of a scene file, and how characters make them up.**

  A scene file is a sequence of braces, brackets, words, numbers, quoted texts
  and the two reserved words `DEF` and `USE`. Every character that starts no
  token (white space, commas, stray punctuation) only separates tokens, and a
  `#` hides the remainder of its line.
-/
import VrmlWorld.Number.Numeral
import VrmlWorld.Text.Alphabetic
import VrmlWorld.Text.Numeric

namespace VrmlWorld.Document

inductive Token where
  | openBrace
  | closeBrace
  | openBracket
  | closeBracket
  /-- A node type, a field name, a keyword or a name given to a node. -/
  | word (text : String)
  | number (value : Float)
  /-- A quoted text, without its quotes and escapes. -/
  | quoted (text : String)
  /-- The reserved word `DEF`, which names the node behind it. -/
  | define
  /-- The reserved word `USE`, which repeats a named node. -/
  | reuse
deriving DecidableEq, Repr

/-! ### Character classes -/

def startsNumber (c : Char) : Bool :=
  Number.Numeral.isDigit c || c == '-' || c == '+' || c == '.'

/-- Whether the character continues a number once it has begun. -/
def isNumberChar (c : Char) : Bool := startsNumber c || c == 'e' || c == 'E'

def startsWord (c : Char) : Bool := Text.isAlphabetic c || c == '_'

/-- Whether the character continues a word once it has begun. -/
def isWordChar (c : Char) : Bool :=
  Text.isAlphabetic c || Text.isNumeric c || c == '_' || c == '-'

def punctuation? : Char → Option Token
  | '{' => some .openBrace
  | '}' => some .closeBrace
  | '[' => some .openBracket
  | ']' => some .closeBracket
  | _ => none

/-- Whether a token begins with the character. All others only separate. -/
def startsToken (c : Char) : Bool :=
  (punctuation? c).isSome || c == '"' || startsNumber c || startsWord c

/-! ### Tokens of whole lexemes -/

/-- A run of number characters is a number when it is a numeral, and otherwise
    a word. -/
def Token.ofNumberChars (text : List Char) : Token :=
  match Number.Numeral.ofChars? text with
  | some numeral => .number numeral.toDouble
  | none => .word (String.ofList text)

/-- A run of word characters is a word unless it is reserved. -/
def Token.ofWordChars (text : List Char) : Token :=
  let name := String.ofList text
  if name = "DEF" then .define else if name = "USE" then .reuse else .word name

end VrmlWorld.Document
