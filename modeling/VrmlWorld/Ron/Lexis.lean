/-
  VrmlWorld/Ron/Lexis.lean
  ========================
  **Words, numbers and texts of RON.**

  White space and comments may stand between all parts of a document; a comment
  between `/*` and `*/` may hold others. A word ends where no letter, digit or
  underscore follows, and one that a point or a sign follows is no word at all
  unless it is marked by `r#`.
-/
import VrmlWorld.Number.Digit
import VrmlWorld.Number.Numeral
import VrmlWorld.Text.Reader

namespace VrmlWorld.Ron

open Number Text Text.Reader

/-! ### Gaps -/

def isBlank (c : Char) : Bool := c == ' ' || c == '\t' || c == '\n' || c == '\r'

/-- What follows comments that are still open, so many deep. -/
def closeComments? : Nat → List Char → Option (List Char)
  | 0, text => some text
  | depth + 1, '/' :: '*' :: rest => closeComments? (depth + 2) rest
  | depth + 1, '*' :: '/' :: rest => closeComments? depth rest
  | depth + 1, _ :: rest => closeComments? (depth + 1) rest
  | _ + 1, [] => none

def comment : Reader Unit :=
  (exactly "//" *> discard (span (· != '\n')))
    <|> (exactly "/*" *> fun text => (closeComments? 1 text).map ((), ·))

def gap : Reader Unit := discard (many (discard (span1 isBlank) <|> comment))

def mark (c : Char) : Reader Unit := gap *> char c *> gap

/-! ### Words -/

def isWordStart (c : Char) : Bool := c.isAlpha || c == '_'

def isWordChar (c : Char) : Bool := c.isAlphanum || c == '_'

def isMarkedWordChar (c : Char) : Bool := isWordChar c || c == '.' || c == '+' || c == '-'

def keyword (word : String) : Reader Unit := do
  exactly word
  if (← peek).any isWordChar then failure

/-- Reads a word without a mark. -/
def plainWord : Reader String := do
  if !(← peek).any isWordStart then failure
  let word ← span1 isWordChar
  match word, ← peek with
  | ['r'], none => failure
  | ['r'], some '"' => failure
  | ['r'], some '#' => failure
  | _, next => if next.any isMarkedWordChar then failure else pure (String.ofList word)

def word : Reader String :=
  (exactly "r#" *> (String.ofList <$> span1 isMarkedWordChar)) <|> plainWord

/-! ### Numbers -/

/-- The characters of whole numbers, in any base. -/
def isWholeChar (c : Char) : Bool := isDigitOf 16 c || c == '_'

def isNumberChar (c : Char) : Bool :=
  isDigitOf 10 c || c == '.' || c == 'e' || c == 'E' || c == '+' || c == '-' || c == '_'

/-- Reads a whole number without a sign. Underscores may stand everywhere but
    before the first digit. -/
def whole : Reader Nat := do
  let base ← (exactly "0x" *> pure 16) <|> (exactly "0b" *> pure 2) <|> (exactly "0o" *> pure 8)
    <|> pure 10
  let run ← span1 isWholeChar
  if run.head? = some '_' then failure
  ofOption (spelledIn? base (run.filter (· != '_')))

/-- Reads a number that need not be whole. -/
def numeral : Reader Numeral := do
  ofOption (Numeral.ofChars? (← span1 isNumberChar))

/-- Reads a whole number below `2 ^ bits`. -/
def wholeOf (bits : Nat) : Reader Nat := do
  let n ← whole
  if n < Nat.pow 2 bits then pure n else failure

/-- Reads the word of a number that has no digits. -/
def wordedNumber : Reader Float32 :=
  ((keyword "inf" <|> keyword "+inf") *> pure (1.0 / 0.0))
    <|> (keyword "-inf" *> pure (-1.0 / 0.0))
    <|> ((keyword "NaN" <|> keyword "+NaN" <|> keyword "-NaN") *> pure (0.0 / 0.0))

def single : Reader Float32 := wordedNumber <|> (·.toSingle) <$> numeral

/-- Reads a yes or no. -/
def flag : Reader Bool := (keyword "true" *> pure true) <|> (keyword "false" *> pure false)

/-- Reads a number of any sort. What looks whole is read as a whole number of
    64 bits, the others with a point or an exponent; what is no whole number
    after all, or is too large, is tried the other way. -/
def anyNumber : Reader Unit := do
  let start ← get
  let unsigned := match start with
    | '+' :: rest => rest
    | '-' :: rest => rest
    | text => text
  let isLonger :=
    (unsigned.takeWhile isWholeChar).length < (unsigned.takeWhile isNumberChar).length
  let signed : Reader Unit :=
    (char '+' *> discard (wholeOf 63)) <|> (char '-' *> do
      if Nat.pow 2 63 < (← whole) then failure)
  if isLonger then discard numeral
  else signed <|> discard (wholeOf 64) <|> discard numeral

/-! ### Texts -/

def escape : Reader Unit := do
  char '\\'
  match ← satisfy fun _ => true with
  | 'x' => discard (count 2 (isDigitOf 16))
  | 'u' =>
      char '\x7b'
      let digits ← span1 (isDigitOf 16)
      char '\x7d'
      let n ← ofOption (spelledIn? 16 digits)
      if 6 < digits.length || !n.isValidChar then failure
  | c => if c ∉ ['\'', '"', '\\', 'n', 'r', 't', '0'] then failure

def quotedText : Reader Unit := do
  char '"'
  discard (many (discard (span1 fun c => c != '"' && c != '\\') <|> escape))
  char '"'

/-- The text behind the first place where another text is found. -/
def after? (stop : List Char) : List Char → Option (List Char)
  | [] => if stop.isEmpty then some [] else none
  | c :: rest =>
      if stop.isPrefixOf (c :: rest) then some ((c :: rest).drop stop.length) else after? stop rest

/-- Reads a text in double quotes with as many `#` behind it as before it, where
    every character stands for itself. -/
def rawText : Reader Unit := do
  char 'r'
  let hashes ← span (· == '#')
  char '"'
  fun text => (after? ('"' :: hashes) text).map ((), ·)

def quotedChar : Reader Unit := do
  char '\''
  escape <|> discard (satisfy fun c => c != '\'' && c != '\\')
  char '\''

end VrmlWorld.Ron
