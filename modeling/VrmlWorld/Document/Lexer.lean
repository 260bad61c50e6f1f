/-
  VrmlWorld/Document/Lexer.lean
  =============================
  **From characters to tokens.**

  A cursor is the part of a file that is still unread, with the number of the
  line it stands on. `Cursor.next` moves it past one token; `tokens` repeats
  that until the file ends. Every token consumes at least one character
  (`Cursor.length_next_lt`), so the repetition ends by the length of what is
  unread, and a finished cursor stays finished.

  Lines are counted between tokens and inside quoted texts. An escaped
  character of a quoted text is taken as it stands and counts no line.
-/
import VrmlWorld.Document.Token

namespace VrmlWorld.Document

/-- A position in a scene file: what is unread, and the current line. -/
structure Cursor where
  rest : List Char
  line : Nat
deriving DecidableEq, Repr

def Cursor.start (text : String) : Cursor := ⟨text.toList, 1⟩

/-! ### Between tokens -/

/-- Moves to the next character that starts a token. Inside a comment nothing
    does before the line ends. -/
def seekToken : (inComment : Bool) → List Char → Nat → Cursor
  | _, [], line => ⟨[], line⟩
  | true, c :: rest, line =>
      if c = '\n' then seekToken false rest (line + 1) else seekToken true rest line
  | false, c :: rest, line =>
      if c = '\n' then seekToken false rest (line + 1)
      else if c = '#' then seekToken true rest line
      else if startsToken c then ⟨c :: rest, line⟩
      else seekToken false rest line

theorem length_seekToken_le (inComment : Bool) (text : List Char) (line : Nat) :
    (seekToken inComment text line).rest.length ≤ text.length := by
  fun_induction seekToken inComment text line <;> simp_all <;> omega

/-! ### Quoted texts -/

/-- Reads a quoted text from behind its opening quote: the characters read so
    far, in reverse, grow until the closing quote or the end of the file. A
    backslash takes the next character as it stands. -/
def readQuoted (found : List Char) : List Char → Nat → String × Cursor
  | [], line => (String.ofList found.reverse, ⟨[], line⟩)
  | ['\\'], line => (String.ofList found.reverse, ⟨[], line⟩)
  | '\\' :: c :: rest, line => readQuoted (c :: found) rest line
  | c :: rest, line =>
      if c = '"' then (String.ofList found.reverse, ⟨rest, line⟩)
      else readQuoted (c :: found) rest (if c = '\n' then line + 1 else line)

theorem length_readQuoted_le (found text : List Char) (line : Nat) :
    (readQuoted found text line).2.rest.length ≤ text.length := by
  fun_induction readQuoted found text line <;> simp_all <;> omega

/-! ### One token -/

/-- Reads the token that begins with the character `c`. -/
def readToken (c : Char) (rest : List Char) (line : Nat) : Token × Cursor :=
  match punctuation? c with
  | some token => (token, ⟨rest, line⟩)
  | none =>
      if c = '"' then
        let (text, cursor) := readQuoted [] rest line
        (.quoted text, cursor)
      else if startsNumber c then
        (.ofNumberChars (c :: rest.takeWhile isNumberChar), ⟨rest.dropWhile isNumberChar, line⟩)
      else
        (.ofWordChars (c :: rest.takeWhile isWordChar), ⟨rest.dropWhile isWordChar, line⟩)

theorem length_readToken_le (c : Char) (rest : List Char) (line : Nat) :
    (readToken c rest line).2.rest.length ≤ rest.length := by
  unfold readToken
  split
  · simp
  · split
    · exact length_readQuoted_le [] rest line
    · split
      · exact (List.dropWhile_suffix _).length_le
      · exact (List.dropWhile_suffix _).length_le

namespace Cursor

/-- The next token and the position behind it; at the end of the file there is
    no token, and the position is the end. -/
def next (cursor : Cursor) : Option Token × Cursor :=
  let reached := seekToken false cursor.rest cursor.line
  match reached.rest with
  | [] => (none, reached)
  | c :: rest =>
      let (token, after) := readToken c rest reached.line
      (some token, after)

/-- A token consumes at least one character. -/
theorem length_next_lt {cursor after : Cursor} {token : Token}
    (h : cursor.next = (some token, after)) : after.rest.length < cursor.rest.length := by
  unfold next at h
  dsimp only at h
  split at h
  · simp at h
  · rename_i c rest reached
    have seek := length_seekToken_le false cursor.rest cursor.line
    have read := length_readToken_le c rest (seekToken false cursor.rest cursor.line).line
    simp only [Prod.mk.injEq] at h
    rw [reached] at seek
    rw [h.2] at read
    simp only [List.length_cons] at seek
    omega

/-! ### All tokens -/

/-- The tokens from a position on, each with the line reached behind it, in
    reverse on top of those already found, and the end of the file. -/
def scanOnto (found : List (Token × Nat)) (cursor : Cursor) : List (Token × Nat) × Cursor :=
  match _h : cursor.next with
  | (none, finish) => (found, finish)
  | (some token, after) => scanOnto ((token, after.line) :: found) after
termination_by cursor.rest.length
decreasing_by exact length_next_lt _h

/-- The tokens from a position on, each with the line reached behind it, and
    the end of the file. -/
def scan (cursor : Cursor) : List (Token × Nat) × Cursor :=
  let (found, finish) := scanOnto [] cursor
  (found.reverse, finish)

end Cursor

def tokens (text : String) : List Token := (Cursor.start text).scan.1.map (·.1)

end VrmlWorld.Document
