/-
  VrmlWorld/Proofs/Document/Reading.lean
  ======================================
  **What a reader of nodes answers, and what it leaves.**

  `readForm` and `readChildren` carry the proof that they leave a suffix. Here
  the proof is put aside: the form and the tokens left, as a plain pair, with
  one equation for each way in which a node or the next part of a body begins.
-/
import VrmlWorld.Document.Reader

namespace VrmlWorld.Document

/-- The form that begins with a token, and what it leaves. -/
def formAt (first : Token) (tokens : List Token) : Option Form × List Token :=
  ((readForm first tokens).1, (readForm first tokens).2.1)

/-- The values and children of a body, and what it leaves. -/
def bodyAt {σ : Type} (fields : List (Field σ)) (values : σ) (found : List Form)
    (tokens : List Token) : (σ × List Form) × List Token :=
  ((readChildren fields values found tokens).1, (readChildren fields values found tokens).2.1)

theorem formAt_suffix (first : Token) (tokens : List Token) :
    (formAt first tokens).2 <:+ tokens := (readForm first tokens).2.2

theorem readRoot?_cons (first : Token) (tokens : List Token) :
    readRoot? (first :: tokens) = (formAt first tokens).1 := rfl

section Members

variable {α : Type} {single : Single α} {found : List α} {first : Token} {behind : List Token}

theorem readMembers_value {value : α} {left : List Token} (inside : first ≠ .closeBracket)
    (read : single.read? first behind = some (value, left)) :
    readMembers single found (first :: behind) = readMembers single (value :: found) left := by
  rw [readMembers.eq_3 _ _ _ _ inside]
  split
  · rename_i read'
    cases read.symm.trans read'
    rfl
  · rename_i read'
    cases read.symm.trans read'

theorem readMembers_stray (inside : first ≠ .closeBracket)
    (read : single.read? first behind = none) :
    readMembers single found (first :: behind) = readMembers single found behind := by
  rw [readMembers.eq_3 _ _ _ _ inside]
  split
  · rename_i read'
    cases read.symm.trans read'
  · rfl

end Members

section Nodes

variable {name typeName : String} {next : Token} {behind : List Token}

theorem formAt_define (starts : startsNode next = true) :
    formAt .define (.word name :: next :: behind) =
      ((formAt next behind).1.map (.named name), (formAt next behind).2) := by
  simp [formAt, readForm, starts, Rest.within]

theorem formAt_reuse : formAt .reuse (.word name :: behind) = (some (.reuse name), behind) := by
  simp [formAt, readForm]

theorem formAt_single {type : NodeType} (known : NodeType.named? typeName = some type)
    (single : type.parent = false) :
    formAt (.word typeName) (.openBrace :: behind) =
      (some (.node (type.kind (readFields type.fields type.initial behind).1) []),
        (readFields type.fields type.initial behind).2) := by
  simp [formAt, readForm, known, single]

theorem formAt_parent {type : NodeType} (known : NodeType.named? typeName = some type)
    (parent : type.parent = true) :
    formAt (.word typeName) (.openBrace :: behind) =
      (some (.node (type.kind (bodyAt type.fields type.initial [] behind).1.1)
          (bodyAt type.fields type.initial [] behind).1.2),
        (bodyAt type.fields type.initial [] behind).2) := by
  simp [formAt, bodyAt, readForm, known, parent, Rest.within]

end Nodes

section Bodies

variable {σ : Type} {fields : List (Field σ)} {values : σ} {found : List Form} {first : Token}
  {behind : List Token}

theorem bodyAt_close : bodyAt fields values found (.closeBrace :: behind) =
    ((values, found.reverse), behind) := by
  simp [bodyAt, readChildren]

theorem bodyAt_field {field : Field σ} (named : fieldOf? fields first = some field) :
    bodyAt fields values found (first :: behind) =
      bodyAt fields (field.read values behind).1 found (field.read values behind).2 := by
  cases first <;> simp [fieldOf?] at named
  simp [bodyAt, readChildren, fieldOf?, named, Rest.within]

theorem bodyAt_child (starts : startsNode first = true) (unnamed : fieldOf? fields first = none) :
    bodyAt fields values found (first :: behind) =
      bodyAt fields values ((formAt first behind).1.toList ++ found) (formAt first behind).2 := by
  cases first <;> simp [startsNode] at starts <;>
    simp [bodyAt, formAt, readChildren, unnamed, Rest.within]

theorem readFields_known {name : String} {field : Field σ}
    (named : fieldOf? fields (.word name) = some field) :
    readFields fields values (.word name :: behind) =
      readFields fields (field.read values behind).1 (field.read values behind).2 := by
  rw [readFields, named]

theorem readFields_unknown {name : String} (unnamed : fieldOf? fields (.word name) = none)
    (inside : first ≠ .closeBrace) :
    readFields fields values (.word name :: first :: behind) = readFields fields values behind := by
  rw [readFields, unnamed]
  cases first <;> first | rfl | exact absurd rfl inside

theorem readFields_stray (inside : first ≠ .closeBrace) (noWord : ∀ name, first ≠ .word name) :
    readFields fields values (first :: behind) = readFields fields values behind :=
  readFields.eq_4 _ _ _ _ inside noWord

end Bodies

end VrmlWorld.Document
