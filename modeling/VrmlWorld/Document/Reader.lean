/-
  VrmlWorld/Document/Reader.lean
  ==============================
  **From tokens to forms.**

  Reading never fails part-way. A node of an unknown type is read as such and
  its block left out, an unknown field is left out with one token behind it,
  and a body that the file does not close ends with the file. Every reader
  returns what it leaves unread with the fact that this is a suffix of what it
  was given, and all recursion is on the number of tokens left.
-/
import VrmlWorld.Document.Form
import VrmlWorld.Document.NodeType

namespace VrmlWorld.Document

abbrev Rest (tokens : List Token) : Type := { left : List Token // left <:+ tokens }

/-- What may be left of fewer tokens is what may be left of more. -/
def Rest.within {fewer more : List Token} (rest : Rest fewer) (h : fewer <:+ more) : Rest more :=
  ⟨rest.1, rest.2.trans h⟩

def Rest.all (tokens : List Token) : Rest tokens := ⟨tokens, List.suffix_refl tokens⟩

/-! ### Unknown content -/

/-- Leaves out the remainder of `depth` nested blocks. -/
def skipBlocks : (depth : Nat) → List Token → List Token
  | 0, tokens => tokens
  | _, [] => []
  | depth + 1, .openBrace :: tokens => skipBlocks (depth + 2) tokens
  | depth + 1, .closeBrace :: tokens => skipBlocks depth tokens
  | depth + 1, _ :: tokens => skipBlocks (depth + 1) tokens

theorem skipBlocks_suffix (depth : Nat) (tokens : List Token) :
    skipBlocks depth tokens <:+ tokens := by
  fun_induction skipBlocks depth tokens with
  | case1 => simp
  | case2 => simp
  | case3 depth tokens ih => exact ih.trans (List.suffix_cons _ _)
  | case4 depth tokens ih => exact ih.trans (List.suffix_cons _ _)
  | case5 depth token tokens _ _ ih => exact ih.trans (List.suffix_cons _ _)

/-- Leaves out a block, if one begins here. -/
def skipBlock : List Token → List Token
  | .openBrace :: tokens => skipBlocks 1 tokens
  | tokens => tokens

theorem skipBlock_suffix (tokens : List Token) : skipBlock tokens <:+ tokens := by
  unfold skipBlock
  split
  · exact (skipBlocks_suffix 1 _).trans (List.suffix_cons _ _)
  · exact List.suffix_refl _

/-- Leaves out the first token of an unknown value, but not the end of the
    body. -/
def skipValue : List Token → List Token
  | [] => []
  | .closeBrace :: tokens => .closeBrace :: tokens
  | _ :: tokens => tokens

theorem skipValue_suffix (tokens : List Token) : skipValue tokens <:+ tokens := by
  unfold skipValue
  split <;> simp

/-! ### Fields -/

section Fields

variable {σ : Type}

def fieldOf? (fields : List (Field σ)) : Token → Option (Field σ)
  | .word name => fields.find? (·.name == name)
  | _ => none

/-- Reads a body of fields, on top of the values that they have so far. -/
def readFields (fields : List (Field σ)) (values : σ) : List Token → σ × List Token
  | [] => (values, [])
  | .closeBrace :: tokens => (values, tokens)
  | .word name :: tokens =>
      match fieldOf? fields (.word name) with
      | some field => readFields fields (field.read values tokens).1 (field.read values tokens).2
      | none => readFields fields values (skipValue tokens)
  | _ :: tokens => readFields fields values tokens
termination_by tokens => tokens.length
decreasing_by
  · exact Nat.lt_succ_of_le (field.read_suffix values tokens).length_le
  · exact Nat.lt_succ_of_le (skipValue_suffix tokens).length_le
  · simp

theorem readFields_suffix (fields : List (Field σ)) (values : σ) (tokens : List Token) :
    (readFields fields values tokens).2 <:+ tokens := by
  fun_induction readFields fields values tokens with
  | case1 => simp
  | case2 => simp
  | case3 values name tokens field _ ih =>
    exact (ih.trans (field.read_suffix values tokens)).trans (List.suffix_cons _ _)
  | case4 values name tokens _ ih =>
    exact (ih.trans (skipValue_suffix tokens)).trans (List.suffix_cons _ _)
  | case5 values token tokens _ _ ih => exact ih.trans (List.suffix_cons _ _)

end Fields

/-! ### Nodes -/

def startsNode : Token → Bool
  | .word _ | .define | .reuse => true
  | _ => false

mutual

/-- Reads the form that begins with `first`. No form begins with a token that
    starts no node, and none comes of a `DEF` or `USE` that lacks its name or
    its node. -/
def readForm (first : Token) (tokens : List Token) : Option Form × Rest tokens :=
  match first with
  | .define =>
      match tokens with
      | .word name :: next :: behind =>
          if startsNode next then
            let (form, rest) := readForm next behind
            (form.map (.named name),
              rest.within ((List.suffix_cons _ _).trans (List.suffix_cons _ _)))
          else (none, ⟨next :: behind, List.suffix_cons _ _⟩)
      | [.word _] => (none, ⟨[], List.nil_suffix⟩)
      | tokens => (none, .all tokens)
  | .reuse =>
      match tokens with
      | .word name :: behind => (some (.reuse name), ⟨behind, List.suffix_cons _ _⟩)
      | tokens => (none, .all tokens)
  | .word typeName =>
      match NodeType.named? typeName with
      | none => (some (.node (.unknown typeName) []), ⟨skipBlock tokens, skipBlock_suffix tokens⟩)
      | some type =>
          match tokens with
          | .openBrace :: body =>
              if type.parent then
                let ((values, children), rest) := readChildren type.fields type.initial [] body
                (some (.node (type.kind values) children), rest.within (List.suffix_cons _ _))
              else
                (some (.node (type.kind (readFields type.fields type.initial body).1) []),
                  ⟨(readFields type.fields type.initial body).2,
                    (readFields_suffix _ _ body).trans (List.suffix_cons _ _)⟩)
          | tokens => (some (.node (type.kind type.initial) []), .all tokens)
  | _ => (none, .all tokens)
termination_by tokens.length

/-- Reads a body of fields and child nodes, on top of the values and, in
    reverse, the children that it has so far. -/
def readChildren {σ : Type} (fields : List (Field σ)) (values : σ) (found : List Form)
    (tokens : List Token) : (σ × List Form) × Rest tokens :=
  match tokens with
  | [] => ((values, found.reverse), .all [])
  | .closeBrace :: behind => ((values, found.reverse), ⟨behind, List.suffix_cons _ _⟩)
  | first :: behind =>
      match fieldOf? fields first with
      | some field =>
          let (result, rest) := readChildren fields (field.read values behind).1 found
            (field.read values behind).2
          (result, rest.within ((field.read_suffix values behind).trans (List.suffix_cons _ _)))
      | none =>
          let (form, left) := readForm first behind
          let (result, rest) := readChildren fields values (form.toList ++ found) left.1
          (result, rest.within (left.2.trans (List.suffix_cons _ _)))
termination_by tokens.length
decreasing_by
  · exact Nat.lt_succ_of_le (field.read_suffix values behind).length_le
  · simp
  · exact Nat.lt_succ_of_le left.2.length_le

end

/-- The form of a whole file. What stands behind its root is left out, and
    nothing before it. -/
def readRoot? : List Token → Option Form
  | [] => none
  | first :: tokens => (readForm first tokens).1

end VrmlWorld.Document
