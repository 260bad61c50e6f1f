/-
  VrmlWorld/Toml/Scalar.lean
  ==========================
  **Texts, numbers and moments of TOML.**

  Between digits of a number, and only there, single underscores may stand.
  Decimal numbers have no leading zeros, but years, exponents and the digits
  behind a point do. A float must be finite as it is read, or be named `inf` or
  `nan`; a numeral beyond the least one is taken for negative infinity.
-/
import VrmlWorld.Number.Digit
import VrmlWorld.Number.Numeral
import VrmlWorld.Text.Reader
import VrmlWorld.Toml.Value

namespace VrmlWorld.Toml

open Number Text Text.Reader

/-! ### Lines -/

def isBlank (c : Char) : Bool := c == ' ' || c == '\t'

/-- Reads blanks within a line, if there are any. -/
def blanks : Reader Unit := discard (span isBlank)

/-- The characters of comments and texts: all but those that control. -/
def isPlain (c : Char) : Bool := c == '\t' || (' ' ≤ c && c != '\x7f')

def lineEnd : Reader Unit := discard (optional (char '\r')) *> char '\n'

/-! ### Texts -/

/-- Reads a character that is given by its number in a fixed count of
    hexadecimal digits. -/
def numbered (digits : Nat) : Reader Char := do
  let n ← ofOption (spelledIn? 16 (← count digits (isDigitOf 16)))
  if n.isValidChar then pure (Char.ofNat n) else failure

def escape : Reader Char := do
  char '\\'
  match ← satisfy fun _ => true with
  | 'b' => pure '\x08'
  | 't' => pure '\t'
  | 'n' => pure '\n'
  | 'f' => pure '\x0c'
  | 'r' => pure '\r'
  | '"' => pure '"'
  | '\\' => pure '\\'
  | 'u' => numbered 4
  | 'U' => numbered 8
  | _ => failure

/-- Reads characters of a text in double quotes: a run that stands for itself,
    or one with a backslash. -/
def basicPiece : Reader (List Char) :=
  span1 (fun c => isPlain c && c != '"' && c != '\\') <|> ([·]) <$> escape

/-- Reads characters of a text in single quotes, where all stand for
    themselves. -/
def literalPiece : Reader (List Char) := span1 fun c => isPlain c && c != '\''

def shortText (quote : Char) (piece : Reader (List Char)) : Reader String := do
  char quote
  let pieces ← many piece
  char quote
  pure (String.ofList pieces.flatten)

/-- Reads a backslash at the end of a line with all white space behind it. -/
def continuation : Reader (List Char) := do
  char '\\'
  blanks
  lineEnd
  discard (many (discard (span1 isBlank) <|> lineEnd))
  pure []

/-- Reads a text over several lines, between three quotes and three quotes. A
    line end right behind the opening quotes does not count. One or two quotes
    may stand in the text, and right before the closing ones. -/
def longText (quote : Char) (piece : Reader (List Char)) : Reader String := do
  let quotes := span1 (· == quote)
  exactly (String.ofList [quote, quote, quote])
  discard (optional lineEnd)
  let inner := do
    let run ← quotes
    if run.length ≤ 2 then pure run else failure
  let pieces ← many (piece <|> (lineEnd *> pure ['\n']) <|> inner)
  let closing ← quotes
  if 3 ≤ closing.length ∧ closing.length ≤ 5 then
    pure (String.ofList (pieces.flatten ++ closing.drop 3))
  else failure

/-- Reads a text on one line in quotes of either sort. -/
def quoted : Reader String := shortText '"' basicPiece <|> shortText '\'' literalPiece

def text : Reader String :=
  longText '"' (continuation <|> basicPiece) <|> longText '\'' literalPiece <|> quoted

/-! ### Numbers -/

def digits (base : Nat) : Reader (List Char) := do
  let digit := satisfy (isDigitOf base)
  let first ← digit
  let others ← many (digit <|> (char '_' *> digit))
  pure (first :: others)

/-- Reads a sign; the flag says whether it was a minus. -/
def sign : Reader Bool :=
  (char '-' *> pure true) <|> (char '+' *> pure false) <|> pure false

/-- Reads decimal digits without leading zeros. -/
def decimal : Reader (List Char) := do
  if (← peek) = some '0' then discard (satisfy (· == '0')); pure ['0'] else digits 10

/-- Reads an integer of 64 bits. Only decimal ones have a sign. -/
def integer : Reader Int :=
  let inBase (mark : String) (base : Nat) : Reader Int := do
    exactly mark
    let n ← ofOption (spelledIn? base (← digits base))
    if n < Nat.pow 2 63 then pure n else failure
  let signed : Reader Int := do
    let negative ← sign
    let n ← ofOption (spelledIn? 10 (← decimal))
    if negative then
      if n ≤ Nat.pow 2 63 then pure (-n) else failure
    else if n < Nat.pow 2 63 then pure n else failure
  inBase "0x" 16 <|> inBase "0o" 8 <|> inBase "0b" 2 <|> signed

def numeral : Reader Float := do
  let negative ← sign
  let whole ← decimal
  let places ← optional (char '.' *> digits 10)
  let exponent ← optional do
    discard (satisfy fun c => c == 'e' || c == 'E')
    let negative ← sign
    let size ← ofOption (spelledIn? 10 (← digits 10))
    pure (if negative then -(size : Int) else size)
  if places.isNone && exponent.isNone then failure
  let places := places.getD []
  let size ← ofOption (spelledIn? 10 (whole ++ places))
  let x := (Numeral.mk negative size (exponent.getD 0 - places.length)).toDouble
  if x == 1.0 / 0.0 then failure else pure x

def namedNumber : Reader Float := do
  let negative ← sign
  let size ← (exactly "inf" *> pure (1.0 / 0.0)) <|> (exactly "nan" *> pure (0.0 / 0.0))
  pure (if negative then -size else size)

/-! ### Moments -/

def twoDigits (low high : Nat) : Reader Nat := do
  let n ← ofOption (spelledIn? 10 (← count 2 (isDigitOf 10)))
  if low ≤ n ∧ n ≤ high then pure n else failure

def monthLength (year month : Nat) : Nat :=
  if month = 2 then
    if year % 4 = 0 ∧ (year % 100 ≠ 0 ∨ year % 400 = 0) then 29 else 28
  else if month ∈ [4, 6, 9, 11] then 30
  else 31

def date : Reader Unit := do
  let year ← ofOption (spelledIn? 10 (← count 4 (isDigitOf 10)))
  char '-'
  let month ← twoDigits 1 12
  char '-'
  discard (twoDigits 1 (monthLength year month))

/-- Reads a time of day. The second may be the leap second. -/
def timeOfDay : Reader Unit := do
  discard (twoDigits 0 23)
  char ':'
  discard (twoDigits 0 59)
  char ':'
  discard (twoDigits 0 60)
  discard (optional (char '.' *> span1 (isDigitOf 10)))

/-- Reads how far a time is from the time at Greenwich. -/
def offset : Reader Unit :=
  discard (satisfy fun c => c == 'Z' || c == 'z') <|> do
    discard (satisfy fun c => c == '+' || c == '-')
    discard (twoDigits 0 23)
    char ':'
    discard (twoDigits 0 59)

/-- Reads a date, a time of day, or both. -/
def moment : Reader Unit :=
  (do
    date
    discard (optional do
      discard (satisfy fun c => c == 'T' || c == 't' || c == ' ')
      timeOfDay
      discard (optional offset))) <|> timeOfDay

/-! ### Scalars -/

/-- Reads a value that holds no other values. -/
def scalar : Reader Value :=
  (Value.text <$> text) <|> (moment *> pure .moment) <|> (Value.float <$> numeral)
    <|> (Value.float <$> namedNumber) <|> (Value.integer <$> integer)
    <|> (exactly "true" *> pure (.boolean true)) <|> (exactly "false" *> pure (.boolean false))

end VrmlWorld.Toml
