/-
  VrmlWorld/Proofs/Document/Turns.lean
  ====================================
  **No turn of reading stands still.**

  A reader goes round: a body until it is closed, a list until its bracket, an image
  until its pixels are over; and a node needs the reading of what is inside it. Here
  one turn of each reader is written down by itself (`turn`), with the readings that it
  needs named and not done. Each of these has fewer tokens left than the turn began
  with (`advances_turn`), whatever tokens there are and however large an image says it
  is. So the turns have one common solution, and reading is it
  (`eq_answer_of_turns`).
-/
import VrmlWorld.Proofs.Document.Ledger
import VrmlWorld.Proofs.Document.Marks

namespace VrmlWorld.Document

/-! ### Turns -/

/-- A reader at work: what it has found so far and what is left to read. -/
inductive Reading : Type 1 where
  /-- A node, behind its first token. -/
  | node (first : Token) (tokens : List Token)
  | body {σ : Type} (fields : List (Field σ)) (values : σ) (found : List Form)
      (tokens : List Token)
  | plainBody {σ : Type} (fields : List (Field σ)) (values : σ) (tokens : List Token)
  | members {α : Type} (single : Single α) (found : List α) (tokens : List Token)
  | flags {α : Type} (meaning : List (String × α)) (union : α → α → α) (found : Option α)
      (tokens : List Token)
  | blocks (depth : Nat) (tokens : List Token)
  | pixels (count : Nat) (tokens : List Token)

namespace Reading

def left : Reading → List Token
  | .node _ tokens => tokens
  | .body _ _ _ tokens => tokens
  | .plainBody _ _ tokens => tokens
  | .members _ _ tokens => tokens
  | .flags _ _ _ tokens => tokens
  | .blocks _ tokens => tokens
  | .pixels _ tokens => tokens

/-- What a reading answers with, and the tokens that it leaves. -/
abbrev Answer : Reading → Type
  | .node _ _ => Option Form × List Token
  | @Reading.body σ _ _ _ _ => (σ × List Form) × List Token
  | @Reading.plainBody σ _ _ _ => σ × List Token
  | @Reading.members α _ _ _ => List α × List Token
  | @Reading.flags α _ _ _ _ => Option α × List Token
  | .blocks _ _ => List Token
  | .pixels _ _ => List Token

def answer : (reading : Reading) → reading.Answer
  | .node first tokens => formAt first tokens
  | .body fields values found tokens => bodyAt fields values found tokens
  | .plainBody fields values tokens => readFields fields values tokens
  | .members single found tokens => readMembers single found tokens
  | .flags meaning union found tokens => readFlags meaning union found tokens
  | .blocks depth tokens => skipBlocks depth tokens
  | .pixels count tokens => skipPixels count tokens

end Reading

/-- One turn of a reader: it is done, or it needs another reading and goes on with the
    answer of that. -/
inductive Turn (ρ : Type) : Type 1 where
  | done (answer : ρ)
  | needs (next : Reading) (goOn : next.Answer → Turn ρ)

/-- The outcome of a turn, if the readings that it needs have these answers. -/
def Turn.run {ρ : Type} (answers : (reading : Reading) → reading.Answer) : Turn ρ → ρ
  | done answer => answer
  | needs next goOn => (goOn (answers next)).run answers

def nodeTurn : Token → List Token → Turn (Option Form × List Token)
  | .define, .word name :: next :: behind =>
      if startsNode next then
        .needs (.node next behind) fun form => .done (form.1.map (.named name), form.2)
      else .done (none, next :: behind)
  | .define, [.word _] => .done (none, [])
  | .reuse, .word name :: behind => .done (some (.reuse name), behind)
  | .word typeName, tokens =>
      match NodeType.named? typeName, tokens with
      | none, .openBrace :: inside =>
          .needs (.blocks 1 inside) fun left => .done (some (.node (.unknown typeName) []), left)
      | none, tokens => .done (some (.node (.unknown typeName) []), tokens)
      | some type, .openBrace :: inside =>
          if type.parent then
            .needs (.body type.fields type.initial [] inside) fun body =>
              .done (some (.node (type.kind body.1.1) body.1.2), body.2)
          else
            .needs (.plainBody type.fields type.initial inside) fun values =>
              .done (some (.node (type.kind values.1) []), values.2)
      | some type, tokens => .done (some (.node (type.kind type.initial) []), tokens)
  | _, tokens => .done (none, tokens)

def bodyTurn {σ : Type} (fields : List (Field σ)) (values : σ) (found : List Form) :
    List Token → Turn ((σ × List Form) × List Token)
  | [] => .done ((values, found.reverse), [])
  | .closeBrace :: behind => .done ((values, found.reverse), behind)
  | first :: behind =>
      match fieldOf? fields first with
      | some field =>
          .needs (.body fields (field.read values behind).1 found (field.read values behind).2)
            .done
      | none =>
          .needs (.node first behind) fun form =>
            .needs (.body fields values (form.1.toList ++ found) form.2) .done

def plainBodyTurn {σ : Type} (fields : List (Field σ)) (values : σ) :
    List Token → Turn (σ × List Token)
  | [] => .done (values, [])
  | .closeBrace :: behind => .done (values, behind)
  | .word name :: behind =>
      match fieldOf? fields (.word name) with
      | some field =>
          .needs (.plainBody fields (field.read values behind).1 (field.read values behind).2) .done
      | none => .needs (.plainBody fields values (skipValue behind)) .done
  | _ :: behind => .needs (.plainBody fields values behind) .done

def membersTurn {α : Type} (single : Single α) (found : List α) :
    List Token → Turn (List α × List Token)
  | [] => .done (found.reverse, [])
  | .closeBracket :: behind => .done (found.reverse, behind)
  | first :: behind =>
      match single.read? first behind with
      | some (value, left) => .needs (.members single (value :: found) left) .done
      | none => .needs (.members single found behind) .done

def flagsTurn {α : Type} (meaning : List (String × α)) (union : α → α → α) (found : Option α) :
    List Token → Turn (Option α × List Token)
  | .word name :: behind =>
      match meaning.lookup name with
      | some flag =>
          .needs
            (.flags meaning union (some (found.elim flag fun flags => union flags flag)) behind)
            .done
      | none => .done (found, .word name :: behind)
  | tokens => .done (found, tokens)

def blocksTurn : Nat → List Token → Turn (List Token)
  | 0, tokens => .done tokens
  | _ + 1, [] => .done []
  | depth + 1, .openBrace :: behind => .needs (.blocks (depth + 2) behind) .done
  | depth + 1, .closeBrace :: behind => .needs (.blocks depth behind) .done
  | depth + 1, _ :: behind => .needs (.blocks (depth + 1) behind) .done

def pixelsTurn : Nat → List Token → Turn (List Token)
  | count + 1, .number _ :: .word text :: behind =>
      .needs (.pixels count (if continuesPixel text then behind else .word text :: behind)) .done
  | count + 1, .number _ :: behind => .needs (.pixels count behind) .done
  | _, tokens => .done tokens

def turn : (reading : Reading) → Turn reading.Answer
  | .node first tokens => nodeTurn first tokens
  | .body fields values found tokens => bodyTurn fields values found tokens
  | .plainBody fields values tokens => plainBodyTurn fields values tokens
  | .members single found tokens => membersTurn single found tokens
  | .flags meaning union found tokens => flagsTurn meaning union found tokens
  | .blocks depth tokens => blocksTurn depth tokens
  | .pixels count tokens => pixelsTurn count tokens

/-! ### Every turn advances -/

/-- A turn that begins with some tokens comes to an answer by way of readings with
    fewer tokens left. -/
inductive Turn.Advances {ρ : Type} (tokens : List Token) : Turn ρ → ρ → Prop where
  | done {answer : ρ} : Advances tokens (.done answer) answer
  | needs {next : Reading} {goOn : next.Answer → Turn ρ} {answer : ρ}
      (behind : next.left <:+ tokens) (fewer : next.left.length < tokens.length)
      (rest : (goOn next.answer).Advances tokens answer) : Advances tokens (.needs next goOn) answer

namespace Turn

variable {ρ : Type} {tokens : List Token}

/-- A reading behind the first token has fewer tokens left. -/
theorem Advances.of_suffix {first : Token} {next : Reading} {goOn : next.Answer → Turn ρ}
    {answer : ρ} (behind : next.left <:+ tokens)
    (rest : (goOn next.answer).Advances (first :: tokens) answer) :
    Advances (first :: tokens) (.needs next goOn) answer :=
  .needs (behind.trans (List.suffix_cons _ _)) (Nat.lt_succ_of_le behind.length_le) rest

theorem Advances.run_eq {turn : Turn ρ} {answer : ρ} (advances : turn.Advances tokens answer)
    {answers : (reading : Reading) → reading.Answer}
    (same : ∀ next : Reading, next.left.length < tokens.length → answers next = next.answer) :
    turn.run answers = answer := by
  induction advances with
  | done => rfl
  | needs behind fewer rest ih =>
    rw [run, same _ fewer]
    exact ih

end Turn

theorem advances_nodeTurn (first : Token) (tokens : List Token) :
    (nodeTurn first tokens).Advances tokens (formAt first tokens) := by
  fun_cases nodeTurn first tokens with
  | case1 name next behind starts =>
    rw [formAt_define starts]
    exact .of_suffix (List.suffix_cons _ _) .done
  | case2 name next behind stops =>
    rw [formAt_define_stop stops]
    exact .done
  | case3 name =>
    rw [formAt_define_end]
    exact .done
  | case4 name behind =>
    rw [formAt_reuse]
    exact .done
  | case5 typeName inside unknown =>
    rw [formAt_unknown unknown]
    exact .of_suffix (List.suffix_refl _) .done
  | case6 typeName tokens noBlock unknown =>
    have whole : skipBlock tokens = tokens := by
      rw [skipBlock]
      exact noBlock
    rw [formAt_unknown unknown, whole]
    exact .done
  | case7 typeName type inside known parent =>
    rw [formAt_parent known parent]
    exact .of_suffix (List.suffix_refl _) .done
  | case8 typeName type inside known single =>
    rw [formAt_single known (by simpa using single)]
    exact .of_suffix (List.suffix_refl _) .done
  | case9 typeName type tokens noBody known =>
    rw [formAt_bare known noBody]
    exact .done
  | case10 first tokens noNode noEnd noUse noWord =>
    have none : formAt first tokens = (none, tokens) := by
      cases first with
      | define =>
        refine formAt_define_unnamed ?_
        rintro name (_ | ⟨next, behind⟩) rfl
        · exact noEnd name rfl rfl
        · exact noNode name next behind rfl rfl
      | reuse => exact formAt_reuse_unnamed fun name behind named => noUse name behind rfl named
      | word typeName => exact absurd rfl (noWord typeName)
      | _ => exact formAt_none rfl
    rw [none]
    exact .done

section Bodies

variable {σ : Type} (fields : List (Field σ)) (values : σ)

theorem advances_bodyTurn (found : List Form) (tokens : List Token) :
    (bodyTurn fields values found tokens).Advances tokens (bodyAt fields values found tokens) := by
  fun_cases bodyTurn fields values found tokens with
  | case1 =>
    rw [bodyAt_end]
    exact .done
  | case2 behind =>
    rw [bodyAt_close]
    exact .done
  | case3 first behind inside field named =>
    rw [bodyAt_field named]
    exact .of_suffix (field.read_suffix values behind) .done
  | case4 first behind inside unnamed =>
    -- The node may take nothing behind its first token; the body has that one behind it
    -- all the same.
    rw [bodyAt_form inside unnamed]
    exact .of_suffix (List.suffix_refl _) (.of_suffix (formAt_suffix first behind) .done)

theorem advances_plainBodyTurn (tokens : List Token) :
    (plainBodyTurn fields values tokens).Advances tokens (readFields fields values tokens) := by
  fun_cases plainBodyTurn fields values tokens with
  | case1 =>
    rw [readFields]
    exact .done
  | case2 behind =>
    rw [readFields]
    exact .done
  | case3 name behind field named =>
    rw [readFields]
    simp only [named]
    exact .of_suffix (field.read_suffix values behind) .done
  | case4 name behind unnamed =>
    rw [readFields]
    simp only [unnamed]
    exact .of_suffix (skipValue_suffix behind) .done
  | case5 first behind noClose noWord =>
    rw [readFields_stray noClose noWord]
    exact .of_suffix (List.suffix_refl _) .done

end Bodies

section Values

variable {α : Type}

theorem advances_membersTurn (single : Single α) (found : List α) (tokens : List Token) :
    (membersTurn single found tokens).Advances tokens (readMembers single found tokens) := by
  fun_cases membersTurn single found tokens with
  | case1 =>
    rw [readMembers]
    exact .done
  | case2 behind =>
    rw [readMembers]
    exact .done
  | case3 first behind noEnd value left read =>
    rw [readMembers_value noEnd read]
    exact .of_suffix (single.suffix read) .done
  | case4 first behind noEnd read =>
    rw [readMembers_stray noEnd read]
    exact .of_suffix (List.suffix_refl _) .done

theorem advances_flagsTurn (meaning : List (String × α)) (union : α → α → α) (found : Option α)
    (tokens : List Token) :
    (flagsTurn meaning union found tokens).Advances tokens
      (readFlags meaning union found tokens) := by
  fun_cases flagsTurn meaning union found tokens with
  | case1 name behind flag known =>
    rw [readFlags, known]
    exact .of_suffix (List.suffix_refl _) .done
  | case2 name behind unknown =>
    rw [readFlags, unknown]
    exact .done
  | case3 tokens noWord =>
    rw [readFlags]
    · exact .done
    · exact noWord

theorem advances_blocksTurn (depth : Nat) (tokens : List Token) :
    (blocksTurn depth tokens).Advances tokens (skipBlocks depth tokens) := by
  fun_cases blocksTurn depth tokens with
  | case1 tokens =>
    rw [skipBlocks]
    exact .done
  | case2 depth =>
    rw [skipBlocks]
    · exact .done
    · exact Nat.succ_ne_zero depth
  | case3 depth behind =>
    rw [skipBlocks]
    exact .of_suffix (List.suffix_refl _) .done
  | case4 depth behind =>
    rw [skipBlocks]
    exact .of_suffix (List.suffix_refl _) .done
  | case5 depth first behind noOpen noClose =>
    rw [skipBlocks]
    · exact .of_suffix (List.suffix_refl _) .done
    · exact noOpen
    · exact noClose

theorem advances_pixelsTurn (count : Nat) (tokens : List Token) :
    (pixelsTurn count tokens).Advances tokens (skipPixels count tokens) := by
  fun_cases pixelsTurn count tokens with
  | case1 count value text behind =>
    -- The number alone is enough to advance, whether or not the word is its second half.
    have next : skipPixels (count + 1) (.number value :: .word text :: behind) =
        skipPixels count (if continuesPixel text then behind else .word text :: behind) := by
      rw [skipPixels]
      split <;> rfl
    have suffix : (if continuesPixel text then behind else .word text :: behind) <:+
        .word text :: behind := by
      split
      · exact List.suffix_cons _ _
      · exact List.suffix_refl _
    rw [next]
    exact .of_suffix suffix .done
  | case2 count value behind noWord =>
    rw [skipPixels]
    · exact .of_suffix (List.suffix_refl _) .done
    · exact noWord
  | case3 count tokens noPixel noNumber =>
    rw [skipPixels]
    · exact .done
    · exact noPixel
    · exact noNumber

end Values

/-- One turn of any reader comes to its answer, and every reading that it needs has
    fewer tokens left. -/
theorem advances_turn (reading : Reading) :
    (turn reading).Advances reading.left reading.answer := by
  cases reading with
  | node first tokens => exact advances_nodeTurn first tokens
  | body fields values found tokens => exact advances_bodyTurn fields values found tokens
  | plainBody fields values tokens => exact advances_plainBodyTurn fields values tokens
  | members single found tokens => exact advances_membersTurn single found tokens
  | flags meaning union found tokens => exact advances_flagsTurn meaning union found tokens
  | blocks depth tokens => exact advances_blocksTurn depth tokens
  | pixels count tokens => exact advances_pixelsTurn count tokens

/-- Answers that turns come to by way of each other are those of reading: by
    induction on the tokens left. -/
theorem eq_answer_of_turns {answers : (reading : Reading) → reading.Answer}
    (turns : ∀ reading, answers reading = (turn reading).run answers) :
    answers = Reading.answer := by
  funext reading
  induction length : reading.left.length using Nat.strong_induction_on generalizing reading with
  | h length ih =>
    subst length
    rw [turns reading]
    exact (advances_turn reading).run_eq fun next fewer => ih _ fewer next rfl

theorem answer_eq_run (reading : Reading) :
    reading.answer = (turn reading).run Reading.answer :=
  ((advances_turn reading).run_eq fun _ _ => rfl).symm

/-! ### Scenes are no larger than their files -/

/-- Each node, and each use that leads nowhere, has tokens of its own. -/
theorem size_add_unresolvedUses_le {text : String} {graph : SceneGraph} {stats : Stats}
    (read : parse? text = some (graph, stats)) :
    graph.size + stats.unresolvedUses ≤ (tokens text).length := by
  obtain ⟨form, root, isForm, -, rfl, rfl⟩ := parse?_eq_some read
  obtain ⟨marks, marked, along⟩ := marked_of_readRoot? isForm
  have size : (Assembly.add {} form).2.graph.size = form.count :=
    (Assembly.size_add form).trans (Assembly.nodes_add form)
  calc (Assembly.add {} form).2.graph.size + (Assembly.add {} form).2.stats.unresolvedUses
      = form.count + (form.uses []).countP (·.LeadsNowhere) := by
        rw [size, Assembly.unresolvedUses_add]
    _ ≤ form.count + (form.uses []).length := Nat.add_le_add_left List.countP_le_length _
    _ ≤ marks.length := marked.count_add_length_uses_le []
    _ ≤ (tokens text).length := along.length_le

/-- Reading always ends. Each token takes characters of the text; each turn of a reader
    is done, or it needs readings of fewer tokens; there is one way to answer all
    readings turn by turn, and the form of a file is told in this way. Its scene has no
    more nodes and uses that lead nowhere than the file has tokens. -/
theorem reading_advances :
    (∀ (cursor after : Cursor) (token : Token), cursor.next = (some token, after) →
      after.rest.length < cursor.rest.length) ∧
    (∀ reading : Reading, (turn reading).Advances reading.left reading.answer) ∧
    (∀ answers : (reading : Reading) → reading.Answer,
      (∀ reading, answers reading = (turn reading).run answers) ↔ answers = Reading.answer) ∧
    (∀ first behind, readRoot? (first :: behind) = (Reading.node first behind).answer.1) ∧
    ∀ (text : String) (graph : SceneGraph) (stats : Stats), parse? text = some (graph, stats) →
      graph.size + stats.unresolvedUses ≤ (tokens text).length := by
  refine ⟨fun _ _ _ => Cursor.length_next_lt, advances_turn, ?_, readRoot?_cons,
    fun _ _ _ => size_add_unresolvedUses_le⟩
  intro answers
  constructor
  · exact eq_answer_of_turns
  · rintro rfl
    exact answer_eq_run

theorem bounded_use_inside_itself :
    ∃ graph, parse? "DEF A Group{USE A DEF B Cube{}USE B Fog{}}" = some (graph, ⟨3, 1, 1⟩) ∧
      graph.size + 1 ≤ 17 := by
  obtain ⟨graph, read⟩ := parse?_use_inside_itself
  obtain ⟨-, -, -, -, bounded⟩ := reading_advances
  have size := bounded _ _ _ read
  rw [tokens_use_inside_itself] at size
  exact ⟨graph, read, size⟩

end VrmlWorld.Document
