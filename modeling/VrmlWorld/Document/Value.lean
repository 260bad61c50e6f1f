/-
  VrmlWorld/Document/Value.lean
  =============================
  **Field values in a file.**

  A reader of values looks at the tokens behind a field name, takes what it
  understands and leaves the remainder, which is always a suffix of what it was
  given. Nothing fails: where a value should stand and does not, the reader
  takes no token and answers with a substitute.

  Single values are told by their first token (`Single`); a list of them stands
  in brackets, or is one bare value.
-/
import VrmlWorld.Document.Token
import VrmlWorld.Geometry.Matrix

namespace VrmlWorld.Document

open VrmlWorld.Geometry

/-- Reads a value from the tokens behind a field name. The value that the field
    has so far is at hand. -/
structure ValueReader (α : Type) where
  run : (current : α) → (tokens : List Token) → α × List Token
  suffix : ∀ current tokens, (run current tokens).2 <:+ tokens

/-! ### Single values -/

/-- A kind of value that is told by its first token. -/
structure Single (α : Type) where
  /-- The value where none is written. -/
  substitute : α
  /-- The value that begins with `first`, and what it leaves of the tokens
      behind; nothing when no such value begins so. -/
  read? : (first : Token) → (behind : List Token) → Option (α × List Token)
  suffix : ∀ {first behind value left}, read? first behind = some (value, left) → left <:+ behind

namespace Single

variable {α : Type}

/-- Reads the value, or takes no token. -/
def take (single : Single α) : List Token → α × List Token
  | [] => (single.substitute, [])
  | first :: behind => (single.read? first behind).getD (single.substitute, first :: behind)

theorem take_suffix (single : Single α) (tokens : List Token) :
    (single.take tokens).2 <:+ tokens := by
  cases tokens with
  | nil => simp [take]
  | cons first behind =>
    cases h : single.read? first behind with
    | none => simp [take, h]
    | some result =>
      simpa [take, h] using (single.suffix h).trans (List.suffix_cons first behind)

def reader (single : Single α) : ValueReader α :=
  ⟨fun _ tokens => single.take tokens, fun _ tokens => single.take_suffix tokens⟩

def ofToken (substitute : α) (value? : Token → Option α) : Single α where
  substitute
  read? first behind := (value? first).map (·, behind)
  suffix := by
    intro first behind value left h
    cases e : value? first with
    | none => simp [e] at h
    | some v =>
      simp only [e, Option.map_some, Option.some.injEq, Prod.mk.injEq] at h
      exact h.2 ▸ List.suffix_refl _

def float : Single Float32 := ofToken 0 fun
  | .number value => some value.toFloat32
  | _ => none

/-- A whole number; places behind the point are cut off. -/
def whole : Single Int := ofToken 0 fun
  | .number value => some (Number.wholeOfDouble value)
  | _ => none

/-- A truth value: the word `TRUE`, or a number other than zero. -/
def truth : Single Bool := ofToken false fun
  | .word text => some (text == "TRUE")
  | .number value => some (value != 0)
  | _ => none

/-- A text: a quoted one, or a single word. -/
def text : Single String := ofToken "" fun
  | .quoted text => some text
  | .word text => some text
  | _ => none

/-- A choice among keywords; every other word means the substitute too. -/
def keyword (substitute : α) (meaning : List (String × α)) : Single α := ofToken substitute fun
  | .word text => some ((meaning.lookup text).getD substitute)
  | _ => none

/-- A first number and what follows from it and the tokens behind. -/
def ofFirstFloat (substitute : α) (go : Float32 → List Token → α × List Token)
    (h : ∀ x tokens, (go x tokens).2 <:+ tokens) : Single α where
  substitute
  read? first behind :=
    match first with
    | .number value => some (go value.toFloat32 behind)
    | _ => none
  suffix := by
    intro first behind value left e
    cases first <;> simp only [reduceCtorEq, Option.some.injEq] at e
    case number x => simpa [e] using h x.toFloat32 behind

/-- Two numbers; missing ones are zero. -/
def vec2 : Single Vec2 := ofFirstFloat .zero
  (fun x tokens =>
    let y := float.take tokens
    (⟨x, y.1⟩, y.2))
  fun _ _ => float.take_suffix _

/-- Three numbers; missing ones are zero. -/
def vec3 : Single Vec3 := ofFirstFloat .zero
  (fun x tokens =>
    let y := float.take tokens
    let z := float.take y.2
    (⟨x, y.1, z.1⟩, z.2))
  fun _ _ => (float.take_suffix _).trans (float.take_suffix _)

/-- Four numbers; missing ones are zero. -/
def vec4 : Single Vec4 := ofFirstFloat ⟨0, 0, 0, 0⟩
  (fun x tokens =>
    let y := float.take tokens
    let z := float.take y.2
    let w := float.take z.2
    (⟨x, y.1, z.1, w.1⟩, w.2))
  fun _ _ => ((float.take_suffix _).trans (float.take_suffix _)).trans (float.take_suffix _)

end Single

/-! ### Lists -/

section Lists

variable {α : Type}

/-- Reads values up to the closing bracket, on top of those already found, in
    reverse. A token that begins no value is left out. -/
def readMembers (single : Single α) (found : List α) : List Token → List α × List Token
  | [] => (found.reverse, [])
  | .closeBracket :: behind => (found.reverse, behind)
  | first :: behind =>
      match _h : single.read? first behind with
      | some (value, left) => readMembers single (value :: found) left
      | none => readMembers single found behind
termination_by tokens => tokens.length
decreasing_by
  · have := (single.suffix _h).length_le
    simp only [List.length_cons]
    omega
  · simp

theorem readMembers_suffix (single : Single α) (found : List α) (tokens : List Token) :
    (readMembers single found tokens).2 <:+ tokens := by
  fun_induction readMembers single found tokens with
  | case1 found => simp
  | case2 found behind => exact List.suffix_cons _ _
  | case3 found first behind _ value left h ih =>
    exact (ih.trans (single.suffix h)).trans (List.suffix_cons _ _)
  | case4 found first behind _ _ ih => exact ih.trans (List.suffix_cons _ _)

/-- Reads values in brackets, or one bare value. -/
def readList (single : Single α) : List Token → List α × List Token
  | .openBracket :: behind => readMembers single [] behind
  | tokens =>
      let value := single.take tokens
      ([value.1], value.2)

theorem readList_suffix (single : Single α) (tokens : List Token) :
    (readList single tokens).2 <:+ tokens := by
  unfold readList
  split
  · exact (readMembers_suffix single [] _).trans (List.suffix_cons _ _)
  · exact single.take_suffix _

def Single.list (single : Single α) : ValueReader (List α) :=
  ⟨fun _ tokens => readList single tokens, fun _ tokens => readList_suffix single tokens⟩

/-- A field of many values that are looked up by position. -/
def Single.array (single : Single α) : ValueReader (Array α) :=
  ⟨fun _ tokens => ((readList single tokens).1.toArray, (readList single tokens).2),
    fun _ tokens => readList_suffix single tokens⟩

end Lists

/-! ### Values of other shapes -/

def readFlags {α : Type} (meaning : List (String × α)) (union : α → α → α) (found : Option α) :
    List Token → Option α × List Token
  | .word name :: behind =>
      match meaning.lookup name with
      | some flag =>
          readFlags meaning union (some (found.elim flag fun flags => union flags flag)) behind
      | none => (found, .word name :: behind)
  | tokens => (found, tokens)

theorem readFlags_suffix {α : Type} (meaning : List (String × α)) (union : α → α → α)
    (found : Option α) (tokens : List Token) :
    (readFlags meaning union found tokens).2 <:+ tokens := by
  fun_induction readFlags meaning union found tokens with
  | case1 found name behind flag _ ih => exact ih.trans (List.suffix_cons _ _)
  | case2 => simp
  | case3 => simp

/-- A choice of flags, written one after the other. Without any, the field
    keeps its value. -/
def flags {α : Type} (meaning : List (String × α)) (union : α → α → α) : ValueReader α where
  run current tokens :=
    ((readFlags meaning union none tokens).1.getD current,
      (readFlags meaning union none tokens).2)
  suffix _ tokens := readFlags_suffix meaning union none tokens

/-- Reads a number of numbers, each missing one as zero, on top of those
    already found. -/
def readFloats : Nat → List Float32 → List Token → List Float32 × List Token
  | 0, found, tokens => (found.reverse, tokens)
  | count + 1, found, tokens =>
      readFloats count ((Single.float.take tokens).1 :: found) (Single.float.take tokens).2

theorem readFloats_suffix (count : Nat) (found : List Float32) (tokens : List Token) :
    (readFloats count found tokens).2 <:+ tokens := by
  induction count generalizing found tokens with
  | zero => simp [readFloats]
  | succ count ih => exact (ih _ _).trans (Single.float.take_suffix tokens)

/-- A matrix: sixteen numbers, column after column. -/
def matrix : ValueReader Mat4 where
  run _ tokens := (Mat4.ofColumns (readFloats 16 [] tokens).1, (readFloats 16 [] tokens).2)
  suffix _ tokens := readFloats_suffix 16 [] tokens

/-- Whether a word can be the second half of a pixel: a hexadecimal number is
    read as the number zero and a word that starts with an `x`. -/
def continuesPixel (text : String) : Bool :=
  match text.toList with
  | 'x' :: _ => true
  | 'X' :: _ => true
  | _ => false

/-- Leaves out as many pixels as announced, as long as there are any. -/
def skipPixels : Nat → List Token → List Token
  | count + 1, .number _ :: .word text :: behind =>
      if continuesPixel text then skipPixels count behind
      else skipPixels count (.word text :: behind)
  | count + 1, .number _ :: behind => skipPixels count behind
  | _, tokens => tokens

theorem skipPixels_suffix (count : Nat) (tokens : List Token) : skipPixels count tokens <:+ tokens := by
  fun_induction skipPixels count tokens with
  | case1 count value text behind _ ih =>
    exact (ih.trans (List.suffix_cons _ _)).trans (List.suffix_cons _ _)
  | case2 count value text behind _ ih => exact ih.trans (List.suffix_cons _ _)
  | case3 count value behind _ ih => exact ih.trans (List.suffix_cons _ _)
  | case4 => simp

/-- Leaves out an image: its width, height and number of components, and then
    one pixel for each place. -/
def skipImage (tokens : List Token) : List Token :=
  let width := Single.whole.take tokens
  let height := Single.whole.take width.2
  let components := Single.whole.take height.2
  skipPixels (width.1.toNat * height.1.toNat) components.2

/-- An image written into the file; its value is not kept. -/
def image : ValueReader Unit where
  run _ tokens := ((), skipImage tokens)
  suffix _ _ := (((skipPixels_suffix _ _).trans (Single.whole.take_suffix _)).trans
    (Single.whole.take_suffix _)).trans (Single.whole.take_suffix _)

end VrmlWorld.Document
