/-
  VrmlWorld/Toml/Document.lean
  ============================
  **TOML documents.**

  A document is read line by line: blank lines and comments, assignments, and
  headers. The assignments below a header belong to its table. Values are
  nested only so deep, and keys have only so many parts.
-/
import VrmlWorld.Toml.Scalar

namespace VrmlWorld.Toml

open Text Text.Reader

/-! ### Gaps -/

/-- Reads a comment up to the end of its line. -/
def comment : Reader Unit := char '#' *> discard (span isPlain)

/-- Reads what may follow the last value of a line. -/
def lineRest : Reader Unit := do
  blanks
  discard (optional comment)
  lineEnd <|> finished

/-- Reads blanks, line ends and comments. -/
def gap : Reader Unit := discard (many (discard (span1 isBlank) <|> lineEnd <|> comment))

/-! ### Keys and values -/

/-- Every key has fewer parts than this, and every value is nested less deep. -/
def nestingLimit : Nat := 80

def keyPart : Reader String :=
  quoted <|> String.ofList <$> span1 fun c => c.isAlphanum || c == '_' || c == '-'

/-- Reads a dotted key: the parts before the last, and the last. -/
def dottedKey : Reader (List String × String) := do
  let parts ← separated (char '.') (blanks *> keyPart <* blanks)
  if parts.length < nestingLimit then
    pure (parts.dropLast, ← ofOption parts.getLast?)
  else failure

def assignment (value : Reader Value) : Reader Assignment := do
  let (path, key) ← dottedKey
  char '='
  blanks
  pure ⟨path, key, ← value⟩

/-- Reads an array; it may go over several lines. -/
def array (value : Reader Value) : Reader Value :=
  char '[' *> (Value.array <$> listed gap ']' value)

/-- Reads a table between braces, on one line. -/
def bracedTable (value : Reader Value) : Reader Value := do
  char '\x7b'
  let assignments ← separated (char ',') (assignment value <* blanks)
  blanks
  char '\x7d'
  Value.table .braces <$> ofOption (Entries.assignAll? [] assignments)

/-- Reads a value that is nested at most so deep. -/
def value : Nat → Reader Value
  | 0 => scalar
  | depth + 1 => scalar <|> array (value depth) <|> bracedTable (value depth)

/-! ### Documents -/

def assignments : Reader (List Assignment) := do
  let empty : Reader (Option Assignment) := lineEnd *> pure none
  let remark : Reader (Option Assignment) := comment *> (lineEnd <|> finished) *> pure none
  let line := some <$> assignment (value (nestingLimit - 1)) <* lineRest
  let lines ← many (blanks *> (empty <|> remark <|> line))
  blanks
  pure (lines.filterMap id)

def header : Reader Header := do
  let isElement := (← optional (exactly "[[")).isSome
  unless isElement do char '['
  let (path, key) ← dottedKey
  exactly (if isElement then "]]" else "]")
  lineRest
  pure ⟨isElement, path, key⟩

/-- Reads a whole document into the table that it is. A mark of the byte order
    may come first. -/
def document : Reader Entries := do
  discard (optional (char '\ufeff'))
  let first ← assignments
  let blocks ← many (Block.mk <$> header <*> assignments)
  ofOption (Entries.ofBlocks? first blocks)

/-- The table that a text stands for, if it is a document. -/
def Entries.parse? (text : String) : Option Entries := document.whole? text

end VrmlWorld.Toml
