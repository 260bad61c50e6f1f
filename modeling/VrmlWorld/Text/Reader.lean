/-
  VrmlWorld/Text/Reader.lean
  ==========================
  **Readers of text.**

  A reader takes a value from the front of a text and leaves the rest, or it
  fails and leaves everything. Readers are run one after the other, and `<|>`
  gives the second one the text that the first one failed on. Repetition ends
  at the first run that fails, and after one run for each character at the
  latest, so it ends on every text.
-/

namespace VrmlWorld.Text

/-- A reader of values of type `α`. -/
abbrev Reader (α : Type) := StateT (List Char) Option α

namespace Reader

variable {α β : Type}

/-! ### Characters -/

/-- The value, if there is one. -/
def ofOption (value : Option α) : Reader α := fun text => value.map (·, text)

def satisfy (test : Char → Bool) : Reader Char
  | c :: rest => if test c then some (c, rest) else none
  | [] => none

def char (c : Char) : Reader Unit := discard (satisfy (· == c))

def exactly (word : String) : Reader Unit := word.toList.forM char

/-- Reads all characters up to the first that fails a test. -/
def span (test : Char → Bool) : Reader (List Char) := fun text => some (text.span test)

/-- Reads at least one character that passes a test, and all that follow. -/
def span1 (test : Char → Bool) : Reader (List Char) := do
  let run ← span test
  if run.isEmpty then failure else pure run

/-- Reads a given number of characters that pass a test. -/
def count (n : Nat) (test : Char → Bool) : Reader (List Char) :=
  (List.replicate n ()).mapM fun _ => satisfy test

/-- Looks at the next character without reading it. -/
def peek : Reader (Option Char) := fun text => some (text.head?, text)

/-- Succeeds only where nothing is left. -/
def finished : Reader Unit := do
  if (← peek).isSome then failure

/-! ### Repetition -/

/-- The values of the runs of a reader, one after the other, and the text that
    is left. There is at most one run for each character of a bound. -/
def runs (item : Reader α) : (bound text : List Char) → List α × List Char
  | [], text => ([], text)
  | _ :: bound, text =>
      match item text with
      | some (value, rest) =>
          let (values, rest) := runs item bound rest
          (value :: values, rest)
      | none => ([], text)

/-- Reads as many values as there are. A reader that takes at least a character
    each time has failed by the end of the text, which is the bound. -/
def many (item : Reader α) : Reader (List α) := fun text => some (runs item text text)

/-- Reads values with something between them; there may be none. -/
def separated (between : Reader Unit) (item : Reader α) : Reader (List α) :=
  (do
    let first ← item
    let others ← many (between *> item)
    pure (first :: others)) <|> pure []

/-- Reads values with commas between them, up to a closing character. A comma
    may follow the last value, and `gap` may be anywhere. -/
def listed (gap : Reader Unit) (close : Char) (item : Reader α) : Reader (List α) := do
  gap
  let values ← separated (gap *> char ',' *> gap) item
  gap
  unless values.isEmpty do
    discard (optional (char ','))
    gap
  char close
  pure values

/-! ### Whole texts -/

/-- What a reader takes from a text, if it reads all of it. -/
def whole? (reader : Reader α) (text : String) : Option α :=
  ((reader <* finished) text.toList).map (·.1)

end Reader

end VrmlWorld.Text
