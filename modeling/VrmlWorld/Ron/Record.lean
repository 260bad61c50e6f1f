/-
  VrmlWorld/Ron/Record.lean
  =========================
  **RON documents that are records.**

  A record is a list of named members in parentheses, perhaps behind its own
  name. Members whose names mean nothing are passed over, whatever their value
  is. Values are nested only so deep: a list costs one of a limited number of
  steps, and each of its elements, while it is read, another one. A document may
  switch on that `Some` stands before a value without parentheses.
-/
import VrmlWorld.Ron.Lexis

namespace VrmlWorld.Ron

open Text Text.Reader

/-! ### Values that are passed over -/

/-- Passes over a word that stands for a value of its own. -/
def passConstant : Reader Unit :=
  keyword "true" <|> keyword "false" <|> keyword "None" <|> discard wordedNumber

/-- Passes over the name of a record, a tuple or a unit. -/
def passName : Reader Unit := do
  if ((passConstant <|> keyword "Some") (← get)).isSome then failure
  discard word

/-- Passes over a value that holds no others. -/
def passAtom : Reader Unit :=
  passConstant <|> exactly "()" <|> passName <|> anyNumber <|> quotedText <|> rawText
    <|> quotedChar

def passCompound (element : Reader Unit) : Reader Unit :=
  let pair (key : Reader Unit) := key *> mark ':' *> element
  let record := char '(' *> discard (listed gap ')' (pair (discard word)))
  let tuple := char '(' *> discard (listed gap ')' element)
  let array := char '[' *> discard (listed gap ']' element)
  let map := char '\x7b' *> discard (listed gap '\x7d' (pair element))
  (discard (optional passName) *> gap *> (record <|> tuple)) <|> array <|> map

/-- Passes over an optional value that is there; `bare` says whether it may do
    without parentheses. -/
def passSome (bare : Bool) (inner : Reader Unit) : Reader Unit := do
  keyword "Some"
  gap
  if (← peek) = some '(' then
    char '('
    gap
    inner
    gap
    discard (optional (char ','))
    gap
    char ')'
  else if bare then inner
  else failure

def pass (bare : Bool) : Nat → Reader Unit
  | 0 => passAtom
  | 1 => passSome bare passAtom <|> passCompound failure <|> passAtom
  | steps + 2 =>
      passSome bare (pass bare (steps + 1)) <|> passCompound (pass bare steps) <|> passAtom

/-! ### Records -/

/-- What holds where a value is read: how many steps are left, and whether
    `Some` may stand before a value without parentheses. -/
structure Surroundings where
  steps : Nat
  bareSome : Bool
deriving DecidableEq, Repr

/-- A reader of something that changes values of type `α`. -/
abbrev ChangeReader (α : Type) : Type := Surroundings → Reader (α → α)

/-- Reads a record as a change of the standard record. The members are given by
    name, each with its reader; no member may come twice. -/
def record {α : Type} (name : String) (members : List (String × ChangeReader α)) :
    ChangeReader α := fun surroundings => do
  discard (optional do
    let found ← word
    if found ≠ name then failure)
  gap
  char '('
  let inside := { surroundings with steps := surroundings.steps - 2 }
  let changes ← listed gap ')' do
    let key ← word
    mark ':'
    match members.lookup key with
    | some member => (fun change => (some key, change)) <$> member inside
    | none => pass inside.bareSome inside.steps *> pure (none, id)
  if (changes.filterMap (·.1)).Nodup then
    pure fun start => changes.foldl (fun value (_, change) => change value) start
  else failure

def member {α β : Type} (reader : Reader β) (set : β → α → α) : ChangeReader α :=
  fun _ => set <$> reader

def triple : Reader (Float32 × Float32 × Float32) := do
  char '('
  match ← listed gap ')' single with
  | [x, y, z] => pure (x, y, z)
  | _ => failure

/-! ### Documents -/

/-- The extension that lets `Some` stand before a value without parentheses. -/
def bareSomeExtension : String := "implicit_some"

/-- The extensions of the format; the others do not concern records. -/
def extensions : List String := [bareSomeExtension, "unwrap_newtypes", "unwrap_variant_newtypes"]

def extensionLine : Reader (List String) := do
  char '#'
  mark '!'
  char '['
  gap
  exactly "enable"
  mark '('
  let names ← listed gap ')' word
  if names.isEmpty || !names.all extensions.contains then failure
  mark ']'
  pure names

def stepLimit : Nat := 128

/-- What a text stands for, if it is a document that holds a record. -/
def parse? {α : Type} (reader : ChangeReader α) (standard : α) (text : String) : Option α :=
  let document : Reader (α → α) := do
    gap
    let lines ← many extensionLine
    let change ← reader ⟨stepLimit, lines.flatten.contains bareSomeExtension⟩
    gap
    pure change
  (document.whole? text).map (· standard)

end VrmlWorld.Ron
