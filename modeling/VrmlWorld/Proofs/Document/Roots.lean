/-
  VrmlWorld/Proofs/Document/Roots.lean
  ====================================
  **A document is its root, and ends with it.**

  A text is a document exactly if it begins with a node, behind any number of names:
  nothing before the root is passed over, and a `USE` has nothing to repeat there. At
  the other end the closing brace of the root's own block is the last token that
  counts. Which brace that is, the turns of reading tell: of the readings that a turn
  needs, the last one goes on with the same block (`Turn.Last`), and the block ends
  where the last of these finds its brace (`Reading.Closes`). Readers that look one
  token ahead take nothing from behind that brace.
-/
import VrmlWorld.Proofs.Document.Braces
import VrmlWorld.Proofs.Document.Lookahead
import VrmlWorld.Proofs.Document.Turns

namespace VrmlWorld.Document

/-! ### Texts that are documents -/

/-- The tokens of some names, given one after the other. -/
def namings (names : List String) : List Token :=
  names.flatMap fun name => [.define, .word name]

/-- A node of some type begins here, behind some names. -/
def BeginsNode (tokens : List Token) : Prop :=
  ∃ names typeName behind, tokens = namings names ++ .word typeName :: behind

theorem beginsNode_word (typeName : String) (behind : List Token) :
    BeginsNode (.word typeName :: behind) := ⟨[], typeName, behind, rfl⟩

theorem beginsNode_naming {name : String} {tokens : List Token} :
    BeginsNode (.define :: .word name :: tokens) ↔ BeginsNode tokens := by
  constructor
  · rintro ⟨_ | ⟨_, names⟩, typeName, behind, split⟩
    · cases split
    · cases split
      exact ⟨names, typeName, behind, rfl⟩
  · rintro ⟨names, typeName, behind, rfl⟩
    exact ⟨name :: names, typeName, behind, rfl⟩

/-- What begins with no word begins with a name. -/
theorem BeginsNode.named {first : Token} {tokens : List Token}
    (begins : BeginsNode (first :: tokens)) (noWord : ∀ text, first ≠ .word text) :
    first = .define ∧ ∃ name behind, tokens = .word name :: behind ∧ BeginsNode behind := by
  obtain ⟨_ | ⟨name, names⟩, typeName, behind, split⟩ := begins
  · cases split
    exact absurd rfl (noWord typeName)
  · cases split
    exact ⟨rfl, name, _, rfl, names, typeName, behind, rfl⟩

theorem BeginsNode.startsNode {next : Token} {tokens : List Token}
    (begins : BeginsNode (next :: tokens)) : startsNode next = true := by
  obtain ⟨_ | ⟨_, names⟩, typeName, behind, split⟩ := begins <;> cases split <;> rfl

theorem formAt_word (typeName : String) (tokens : List Token) :
    ∃ kind children, (formAt (.word typeName) tokens).1 = some (.node kind children) := by
  cases known : NodeType.named? typeName with
  | none =>
    rw [formAt_unknown known]
    exact ⟨_, _, rfl⟩
  | some type =>
    by_cases block : ∃ inside, tokens = .openBrace :: inside
    · obtain ⟨inside, rfl⟩ := block
      cases parent : type.parent with
      | true =>
        rw [formAt_parent known parent]
        exact ⟨_, _, rfl⟩
      | false =>
        rw [formAt_single known parent]
        exact ⟨_, _, rfl⟩
    · rw [formAt_bare known fun inside begins => block ⟨inside, begins⟩]
      exact ⟨_, _, rfl⟩

/-- A `DEF` without its name, or without a token behind it, is no form. -/
theorem formAt_define_broken {tokens : List Token}
    (broken : ¬∃ name next behind, tokens = .word name :: next :: behind) :
    (formAt .define tokens).1 = none := by
  by_cases named : ∃ name, tokens = [.word name]
  · obtain ⟨name, rfl⟩ := named
    rw [formAt_define_end]
  · rw [formAt_define_unnamed]
    rintro name (_ | ⟨next, behind⟩) rfl
    · exact named ⟨name, rfl⟩
    · exact broken ⟨name, next, behind, rfl⟩

/-- A form that stands for a node without any name known is read exactly where a node
    begins. The induction is on the number of tokens. -/
theorem exists_stands_iff (tokens : List Token) :
    (∃ form, readRoot? tokens = some form ∧ form.stands [] = true) ↔ BeginsNode tokens := by
  induction length : tokens.length using Nat.strong_induction_on generalizing tokens with
  | _ length ih =>
  subst length
  cases tokens with
  | nil => exact ⟨by rintro ⟨form, ⟨⟩, -⟩, by rintro ⟨_ | ⟨_, _⟩, typeName, behind, ⟨⟩⟩⟩
  | cons first behind =>
  rw [readRoot?_cons]
  cases first with
  | word typeName =>
    obtain ⟨kind, children, isNode⟩ := formAt_word typeName behind
    exact iff_of_true ⟨_, isNode, rfl⟩ (beginsNode_word typeName behind)
  | define =>
    by_cases named : ∃ name next rest, behind = .word name :: next :: rest
    · obtain ⟨name, next, rest, rfl⟩ := named
      rw [beginsNode_naming]
      by_cases starts : startsNode next = true
      · have shorter : (next :: rest).length < (Token.define :: .word name :: next :: rest).length := by
          simp only [List.length_cons]
          omega
        rw [formAt_define starts, ← ih _ shorter (next :: rest) rfl, readRoot?_cons]
        simp [Form.stands]
      · rw [formAt_define_stop starts]
        exact iff_of_false (by simp) fun begins => starts begins.startsNode
    · rw [formAt_define_broken named]
      refine iff_of_false (by simp) fun begins => ?_
      obtain ⟨-, name, more, rfl, inner⟩ := begins.named (by simp)
      obtain ⟨_ | ⟨_, _⟩, typeName, rest, rfl⟩ := inner
      · exact named ⟨name, _, rest, rfl⟩
      · exact named ⟨name, _, _, rfl⟩
  | reuse =>
    refine iff_of_false ?_ fun begins => by cases (begins.named (by simp)).1
    rintro ⟨form, read, stands⟩
    by_cases named : ∃ name rest, behind = .word name :: rest
    · obtain ⟨name, rest, rfl⟩ := named
      rw [formAt_reuse] at read
      cases read
      simp [Form.stands] at stands
    · rw [formAt_reuse_unnamed fun name rest begins => named ⟨name, rest, begins⟩] at read
      cases read
  | _ =>
    rw [formAt_none rfl]
    exact iff_of_false (by simp) fun begins => by cases (begins.named (by simp)).1

/-- A text is a document exactly if it begins with a node. -/
theorem isSome_parse?_iff (text : String) :
    (parse? text).isSome = true ↔ BeginsNode (tokens text) := by
  rw [← exists_stands_iff, Option.isSome_iff_exists]
  constructor
  · rintro ⟨⟨graph, stats⟩, read⟩
    obtain ⟨form, root, isForm, added, -, -⟩ := parse?_eq_some read
    refine ⟨form, isForm, ?_⟩
    rw [← (Assembly.stands_and_records form Assembly.knows_empty).1, added]
    rfl
  · rintro ⟨form, isForm, stands⟩
    rw [← (Assembly.stands_and_records form Assembly.knows_empty).1] at stands
    obtain ⟨root, added⟩ := Option.isSome_iff_exists.1 stands
    exact ⟨_, parse?_of_form isForm added⟩

/-! ### The block of the root -/

/-- Of the readings that a turn needs, this is the last one. -/
inductive Turn.Last {ρ : Type} : Turn ρ → Reading → Prop where
  | here {next : Reading} {goOn : next.Answer → Turn ρ} {answer : ρ}
      (hands : goOn next.answer = .done answer) : Last (.needs next goOn) next
  | later {next reading : Reading} {goOn : next.Answer → Turn ρ}
      (rest : (goOn next.answer).Last reading) : Last (.needs next goOn) reading

/-- The block that a reading is in, or the block of the node that it begins, is ended
    by a closing brace, and these tokens are behind it. A block inside of that one is
    read by another reading. -/
inductive Reading.Closes : Reading → List Token → Prop where
  | body {σ : Type} {fields : List (Field σ)} {values : σ} {found : List Form}
      {left : List Token} : Closes (.body fields values found (.closeBrace :: left)) left
  | plainBody {σ : Type} {fields : List (Field σ)} {values : σ} {left : List Token} :
      Closes (.plainBody fields values (.closeBrace :: left)) left
  | blocks {left : List Token} : Closes (.blocks 1 (.closeBrace :: left)) left
  | goesOn {reading next : Reading} {left : List Token} (last : (turn reading).Last next)
      (closes : next.Closes left) : Closes reading left

/-- Two readings have the same result, and what they leave is related. -/
def Meet {α : Type} (Behind : List Token → List Token → Prop) (answer answer' : α × List Token) :
    Prop :=
  answer.1 = answer'.1 ∧ Behind answer.2 answer'.2

/-- A reading comes to the same result on both ways of a fork that it does not begin
    beyond, and what it leaves on them is related. -/
def Reading.Passes (fork : Fork) (Behind : List Token → List Token → Prop) : Reading → Prop
  | .node first tokens => fork.Untouched (first :: tokens) ∧ ∀ tokens',
      fork.Ahead (first :: tokens) (first :: tokens') →
      Meet Behind (formAt first tokens) (formAt first tokens')
  | .body fields values found tokens => fork.Untouched tokens ∧
      ((∀ field ∈ fields, field.reader.Near) → ∀ tokens', fork.Ahead tokens tokens' →
        Meet Behind (bodyAt fields values found tokens) (bodyAt fields values found tokens'))
  | .plainBody fields values tokens => fork.Untouched tokens ∧
      ((∀ field ∈ fields, field.reader.Near) → ∀ tokens', fork.Ahead tokens tokens' →
        Meet Behind (readFields fields values tokens) (readFields fields values tokens'))
  | .blocks depth tokens => fork.Untouched tokens ∧ ∀ tokens', fork.Ahead tokens tokens' →
      Behind (skipBlocks depth tokens) (skipBlocks depth tokens')
  | _ => False

theorem Turn.Last.eq_next {ρ : Type} {next reading : Reading} {hand : next.Answer → ρ}
    (last : (Turn.needs next fun answer => .done (hand answer)).Last reading) : reading = next := by
  cases last with
  | here => rfl
  | later rest => cases rest

section Passes

variable {fork : Fork} {Behind : List Token → List Token → Prop}

theorem Fork.Ahead.inside {first second : Token} {tokens tokens' : List Token}
    (ahead : fork.Ahead (first :: second :: tokens) (first :: tokens'))
    (untouched : fork.Untouched tokens) :
    ∃ inside, tokens' = second :: inside ∧ fork.Ahead tokens inside := by
  obtain ⟨_, split, onward⟩ := ahead.behind (untouched.of_suffix (List.suffix_cons second tokens))
  cases split
  exact onward.behind untouched

theorem Fork.Untouched.cons {tokens : List Token} (untouched : fork.Untouched tokens)
    (first : Token) : fork.Untouched (first :: tokens) :=
  untouched.of_suffix (List.suffix_cons first tokens)

theorem passes_node {first : Token} {tokens : List Token} {next : Reading}
    (last : (nodeTurn first tokens).Last next) (passes : next.Passes fork Behind) :
    (Reading.node first tokens).Passes fork Behind := by
  revert last
  fun_cases nodeTurn first tokens with
  | case1 name next' behind starts =>
    intro last
    obtain rfl := last.eq_next
    obtain ⟨untouched, same⟩ := passes
    refine ⟨(untouched.cons _).cons _, fun tokens' ahead => ?_⟩
    obtain ⟨_, rfl, onward⟩ := ahead.inside untouched
    obtain ⟨behind', rfl⟩ := onward.cons_iff.1 ⟨behind, rfl⟩
    obtain ⟨form, stop⟩ := same behind' onward
    rw [formAt_define starts, formAt_define starts, form]
    exact ⟨rfl, stop⟩
  | case5 typeName inside unknown =>
    intro last
    obtain rfl := last.eq_next
    obtain ⟨untouched, same⟩ := passes
    refine ⟨(untouched.cons _).cons _, fun tokens' ahead => ?_⟩
    obtain ⟨inside', rfl, onward⟩ := ahead.inside untouched
    rw [formAt_unknown unknown, formAt_unknown unknown]
    exact ⟨rfl, same inside' onward⟩
  | case7 typeName type inside known parent =>
    intro last
    obtain rfl := last.eq_next
    obtain ⟨untouched, same⟩ := passes
    refine ⟨(untouched.cons _).cons _, fun tokens' ahead => ?_⟩
    obtain ⟨inside', rfl, onward⟩ := ahead.inside untouched
    obtain ⟨body, stop⟩ := same (NodeType.near known) inside' onward
    rw [formAt_parent known parent, formAt_parent known parent, body]
    exact ⟨rfl, stop⟩
  | case8 typeName type inside known single =>
    intro last
    have single : type.parent = false := by simpa using single
    obtain rfl := last.eq_next
    obtain ⟨untouched, same⟩ := passes
    refine ⟨(untouched.cons _).cons _, fun tokens' ahead => ?_⟩
    obtain ⟨inside', rfl, onward⟩ := ahead.inside untouched
    obtain ⟨values, stop⟩ := same (NodeType.near known) inside' onward
    rw [formAt_single known single, formAt_single known single, values]
    exact ⟨rfl, stop⟩
  | _ => rintro ⟨⟩

section Bodies

variable {σ : Type} {fields : List (Field σ)} {values : σ}

theorem passes_body {found : List Form} {tokens : List Token} {next : Reading}
    (last : (bodyTurn fields values found tokens).Last next) (passes : next.Passes fork Behind) :
    (Reading.body fields values found tokens).Passes fork Behind := by
  revert last
  fun_cases bodyTurn fields values found tokens with
  | case1 => rintro ⟨⟩
  | case2 => rintro ⟨⟩
  | case3 first behind inside field named =>
    intro last
    obtain rfl := last.eq_next
    obtain ⟨untouched, same⟩ := passes
    have untouchedBehind := untouched.of_suffix (field.read_suffix values behind)
    refine ⟨untouchedBehind.cons first, fun near tokens' ahead => ?_⟩
    obtain ⟨behind', rfl, onward⟩ := ahead.behind untouchedBehind
    obtain ⟨read, beyond⟩ :=
      field.read_alike (near field (field_of_fieldOf? named)) values onward untouched
    rw [bodyAt_field named, bodyAt_field named, ← read]
    exact same near _ beyond
  | case4 first behind inside unnamed =>
    -- A child is read before the rest of the body, and it stays in front of the fork.
    intro last
    cases last with
    | here hands => cases hands
    | later rest =>
      obtain rfl := rest.eq_next
      obtain ⟨untouched, same⟩ := passes
      have untouchedBehind := untouched.of_suffix (formAt_suffix first behind)
      refine ⟨untouchedBehind.cons first, fun near tokens' ahead => ?_⟩
      obtain ⟨behind', rfl, onward⟩ := ahead.behind untouchedBehind
      obtain ⟨form, beyond⟩ := formAt_alike_and_bodyAt_alike.1 first behind onward untouched
      rw [bodyAt_form inside unnamed, bodyAt_form inside unnamed, ← form]
      exact same near _ beyond

theorem passes_plainBody {tokens : List Token} {next : Reading}
    (last : (plainBodyTurn fields values tokens).Last next) (passes : next.Passes fork Behind) :
    (Reading.plainBody fields values tokens).Passes fork Behind := by
  revert last
  fun_cases plainBodyTurn fields values tokens with
  | case1 => rintro ⟨⟩
  | case2 => rintro ⟨⟩
  | case3 name behind field named =>
    intro last
    obtain rfl := last.eq_next
    obtain ⟨untouched, same⟩ := passes
    have untouchedBehind := untouched.of_suffix (field.read_suffix values behind)
    refine ⟨untouchedBehind.cons _, fun near tokens' ahead => ?_⟩
    obtain ⟨behind', rfl, onward⟩ := ahead.behind untouchedBehind
    obtain ⟨read, beyond⟩ :=
      field.read_alike (near field (field_of_fieldOf? named)) values onward untouched
    rw [readFields, readFields]
    simp only [named, ← read]
    exact same near _ beyond
  | case4 name behind unnamed =>
    intro last
    obtain rfl := last.eq_next
    obtain ⟨untouched, same⟩ := passes
    have untouchedBehind := untouched.of_suffix (skipValue_suffix behind)
    refine ⟨untouchedBehind.cons _, fun near tokens' ahead => ?_⟩
    obtain ⟨behind', rfl, onward⟩ := ahead.behind untouchedBehind
    rw [readFields, readFields]
    simp only [unnamed]
    exact same near _ (skipValue_ahead onward untouched)
  | case5 first behind noClose noWord =>
    intro last
    obtain rfl := last.eq_next
    obtain ⟨untouched, same⟩ := passes
    refine ⟨untouched.cons _, fun near tokens' ahead => ?_⟩
    obtain ⟨behind', rfl, onward⟩ := ahead.behind untouched
    rw [readFields_stray noClose noWord, readFields_stray noClose noWord]
    exact same near _ onward

end Bodies

theorem passes_blocks {depth : Nat} {tokens : List Token} {next : Reading}
    (last : (blocksTurn depth tokens).Last next) (passes : next.Passes fork Behind) :
    (Reading.blocks depth tokens).Passes fork Behind := by
  revert last
  fun_cases blocksTurn depth tokens with
  | case1 => rintro ⟨⟩
  | case2 => rintro ⟨⟩
  | case3 depth behind | case4 depth behind =>
    intro last
    obtain rfl := last.eq_next
    obtain ⟨untouched, same⟩ := passes
    refine ⟨untouched.cons _, fun tokens' ahead => ?_⟩
    obtain ⟨behind', rfl, onward⟩ := ahead.behind untouched
    exact same _ onward
  | case5 depth first behind noOpen noClose =>
    intro last
    obtain rfl := last.eq_next
    obtain ⟨untouched, same⟩ := passes
    refine ⟨untouched.cons _, fun tokens' ahead => ?_⟩
    obtain ⟨behind', rfl, onward⟩ := ahead.behind untouched
    rw [skipBlocks.eq_5 _ _ _ noOpen noClose, skipBlocks.eq_5 _ _ _ noOpen noClose]
    exact same _ onward

/-- A reading comes to where its last needed reading comes to. -/
theorem passes_of_last {reading next : Reading} (last : (turn reading).Last next)
    (passes : next.Passes fork Behind) : reading.Passes fork Behind := by
  cases reading with
  | node first tokens => exact passes_node last passes
  | body fields values found tokens => exact passes_body last passes
  | plainBody fields values tokens => exact passes_plainBody last passes
  | blocks depth tokens => exact passes_blocks last passes
  | members single found tokens =>
    revert last
    rw [turn]
    fun_cases membersTurn single found tokens with
    | case1 | case2 => rintro ⟨⟩
    | case3 | case4 =>
      intro last
      cases last.eq_next
      exact passes.elim
  | flags meaning union found tokens =>
    revert last
    rw [turn]
    fun_cases flagsTurn meaning union found tokens with
    | case2 | case3 => rintro ⟨⟩
    | case1 =>
      intro last
      cases last.eq_next
      exact passes.elim
  | pixels count tokens =>
    revert last
    rw [turn]
    fun_cases pixelsTurn count tokens with
    | case3 => rintro ⟨⟩
    | case1 | case2 =>
      intro last
      cases last.eq_next
      exact passes.elim

end Passes

/-! ### Blocks that end with the file -/

theorem Reading.exists_closes_of_last {reading next : Reading} (last : (turn reading).Last next)
    (closes : ∃ left, next.Closes left) : ∃ left, reading.Closes left :=
  closes.imp fun _ => .goesOn last

/-- Blocks that are left out end with a brace, or with the file. -/
theorem blocks_closes_or_ends (depth : Nat) (tokens : List Token) :
    (∃ left, (Reading.blocks (depth + 1) tokens).Closes left) ∨
      skipBlocks (depth + 1) tokens = [] := by
  induction tokens generalizing depth with
  | nil => exact .inr rfl
  | cons first behind ih =>
    cases first with
    | openBrace => exact (ih (depth + 1)).imp_left (Reading.exists_closes_of_last (.here rfl))
    | closeBrace =>
      cases depth with
      | zero => exact .inl ⟨behind, .blocks⟩
      | succ depth => exact (ih depth).imp_left (Reading.exists_closes_of_last (.here rfl))
    | _ => exact (ih depth).imp_left (Reading.exists_closes_of_last (.here rfl))

section Bodies

variable {σ : Type} {fields : List (Field σ)}

theorem plainBody_closes_or_ends (values : σ) (tokens : List Token) :
    (∃ left, (Reading.plainBody fields values tokens).Closes left) ∨
      (readFields fields values tokens).2 = [] := by
  fun_induction readFields fields values tokens with
  | case1 => exact .inr rfl
  | case2 => exact .inl ⟨_, .plainBody⟩
  | case3 values name behind field named ih =>
    have last : (turn (.plainBody fields values (.word name :: behind))).Last
        (.plainBody fields (field.read values behind).1 (field.read values behind).2) := by
      simp only [turn, plainBodyTurn, named]
      exact .here rfl
    exact ih.imp_left (Reading.exists_closes_of_last last)
  | case4 values name behind unnamed ih =>
    have last : (turn (.plainBody fields values (.word name :: behind))).Last
        (.plainBody fields values (skipValue behind)) := by
      simp only [turn, plainBodyTurn, unnamed]
      exact .here rfl
    exact ih.imp_left (Reading.exists_closes_of_last last)
  | case5 values first behind noClose noWord ih =>
    have last : (turn (.plainBody fields values (first :: behind))).Last
        (.plainBody fields values behind) := by
      rw [turn, plainBodyTurn.eq_4 _ _ _ _ noClose noWord]
      exact .here rfl
    exact ih.imp_left (Reading.exists_closes_of_last last)

theorem body_closes_or_ends (values : σ) (found : List Form) (tokens : List Token) :
    (∃ left, (Reading.body fields values found tokens).Closes left) ∨
      (bodyAt fields values found tokens).2 = [] := by
  induction length : tokens.length using Nat.strong_induction_on
    generalizing values found tokens with
  | _ length ih =>
  subst length
  cases tokens with
  | nil => exact .inr (by rw [bodyAt_end])
  | cons first behind =>
  by_cases close : first = .closeBrace
  · subst close
    exact .inl ⟨behind, .body⟩
  · cases named : fieldOf? fields first with
    | some field =>
      have shorter := Nat.lt_succ_of_le (field.read_suffix values behind).length_le
      have last : (turn (.body fields values found (first :: behind))).Last
          (.body fields (field.read values behind).1 found (field.read values behind).2) := by
        rw [turn, bodyTurn.eq_3 _ _ _ _ _ close]
        simp only [named]
        exact .here rfl
      rw [bodyAt_field named]
      exact (ih _ shorter _ _ _ rfl).imp_left (Reading.exists_closes_of_last last)
    | none =>
      have shorter := Nat.lt_succ_of_le (formAt_suffix first behind).length_le
      have last : (turn (.body fields values found (first :: behind))).Last
          (.body fields values ((formAt first behind).1.toList ++ found)
            (formAt first behind).2) := by
        rw [turn, bodyTurn.eq_3 _ _ _ _ _ close]
        simp only [named]
        exact .later (.here rfl)
      rw [bodyAt_form close named]
      exact (ih _ shorter _ _ _ rfl).imp_left (Reading.exists_closes_of_last last)

end Bodies

/-- The block of a node ends with its own brace, or with the file. -/
theorem node_closes_or_ends (typeName : String) (inside : List Token) :
    (∃ left, (Reading.node (.word typeName) (.openBrace :: inside)).Closes left) ∨
      (formAt (.word typeName) (.openBrace :: inside)).2 = [] := by
  cases known : NodeType.named? typeName with
  | none =>
    have last : (turn (.node (.word typeName) (.openBrace :: inside))).Last (.blocks 1 inside) := by
      simp only [turn, nodeTurn, known]
      exact .here rfl
    rw [formAt_unknown known]
    exact (blocks_closes_or_ends 0 inside).imp_left (Reading.exists_closes_of_last last)
  | some type =>
    cases parent : type.parent with
    | true =>
      have last : (turn (.node (.word typeName) (.openBrace :: inside))).Last
          (.body type.fields type.initial [] inside) := by
        simp only [turn, nodeTurn, known, parent, if_true]
        exact .here rfl
      rw [formAt_parent known parent]
      exact (body_closes_or_ends _ _ _).imp_left (Reading.exists_closes_of_last last)
    | false =>
      have last : (turn (.node (.word typeName) (.openBrace :: inside))).Last
          (.plainBody type.fields type.initial inside) := by
        simp only [turn, nodeTurn, known, parent]
        exact .here rfl
      rw [formAt_single known parent]
      exact (plainBody_closes_or_ends _ _).imp_left (Reading.exists_closes_of_last last)

/-- So does the block of a root, behind any number of names. -/
theorem root_closes_or_ends {first : Token} {behind : List Token} {names : List String}
    {typeName : String} {inside : List Token}
    (split : first :: behind = namings names ++ .word typeName :: .openBrace :: inside) :
    (∃ left, (Reading.node first behind).Closes left) ∨ (formAt first behind).2 = [] := by
  induction names generalizing first behind with
  | nil =>
    cases split
    exact node_closes_or_ends typeName inside
  | cons name names ih =>
    obtain ⟨next, rest, inner⟩ : ∃ next rest,
        next :: rest = namings names ++ .word typeName :: .openBrace :: inside := by
      cases names <;> exact ⟨_, _, rfl⟩
    have starts : startsNode next = true :=
      BeginsNode.startsNode ⟨names, typeName, .openBrace :: inside, inner⟩
    obtain ⟨rfl, rfl⟩ : first = .define ∧ behind = .word name :: next :: rest := by
      rw [inner]
      exact List.cons.inj split
    have last : (turn (.node .define (.word name :: next :: rest))).Last (.node next rest) := by
      simp only [turn, nodeTurn, starts, if_true]
      exact .here rfl
    rw [formAt_define starts]
    exact (ih inner).imp_left (Reading.exists_closes_of_last last)

/-! ### Behind the closing brace -/

/-- Two ways that go on behind the same closing brace. -/
def Fork.atBrace (left left' : List Token) : Fork := ⟨.closeBrace :: left, .closeBrace :: left', rfl⟩

theorem Fork.Ahead.eq_other {fork : Fork} {tokens' : List Token}
    (ahead : fork.Ahead fork.way tokens') : tokens' = fork.other := by
  obtain ⟨shared, split, rfl⟩ := ahead
  rw [List.self_eq_append_left.1 split, List.nil_append]

theorem Reading.Closes.passes {reading : Reading} {left : List Token}
    (closes : reading.Closes left) (left' : List Token) :
    reading.Passes (.atBrace left left') fun behind behind' => behind = left ∧ behind' = left' := by
  induction closes with
  | body =>
    refine ⟨Nat.le_refl _, fun _ tokens' ahead => ?_⟩
    rw [ahead.eq_other, bodyAt_close]
    exact ⟨by rw [Fork.atBrace, bodyAt_close], rfl, by rw [Fork.atBrace, bodyAt_close]⟩
  | plainBody =>
    refine ⟨Nat.le_refl _, fun _ tokens' ahead => ?_⟩
    rw [ahead.eq_other, Fork.atBrace, readFields, readFields]
    exact ⟨rfl, rfl, rfl⟩
  | blocks =>
    refine ⟨Nat.le_refl _, fun tokens' ahead => ?_⟩
    rw [ahead.eq_other]
    simp [Fork.atBrace, skipBlocks]
  | goesOn last _ ih => exact passes_of_last last ih

theorem Turn.Advances.suffix_of_last {ρ : Type} {tokens : List Token} {turn : Turn ρ} {answer : ρ}
    {next : Reading} (advances : turn.Advances tokens answer) (last : turn.Last next) :
    next.left <:+ tokens := by
  induction last with
  | here =>
    cases advances with
    | needs behind fewer rest => exact behind
  | later _ ih =>
    cases advances with
    | needs behind fewer rest => exact ih rest

theorem Reading.Closes.suffix {reading : Reading} {left : List Token}
    (closes : reading.Closes left) : .closeBrace :: left <:+ reading.left := by
  induction closes with
  | body | plainBody | blocks => exact List.suffix_refl _
  | goesOn last _ ih => exact ih.trans ((advances_turn _).suffix_of_last last)

/-- Where the block of the root is closed, the root is the same whatever is behind the
    brace, and that is what it leaves. -/
theorem Reading.Closes.formAt_eq {first : Token} {inside left : List Token}
    (closes : (Reading.node first (inside ++ .closeBrace :: left)).Closes left)
    (left' : List Token) :
    formAt first (inside ++ .closeBrace :: left') =
      ((formAt first (inside ++ .closeBrace :: left)).1, left') := by
  obtain ⟨-, same⟩ := closes.passes left'
  obtain ⟨form, -, stop⟩ := same (inside ++ .closeBrace :: left') ⟨first :: inside, rfl, rfl⟩
  exact Prod.ext form.symm stop

theorem assemble?_of_closes {first : Token} {inside left : List Token}
    (closes : (Reading.node first (inside ++ .closeBrace :: left)).Closes left)
    (left' : List Token) :
    assemble? (first :: (inside ++ .closeBrace :: left')) =
      assemble? (first :: (inside ++ .closeBrace :: left)) := by
  rw [assemble?, assemble?, readRoot?_cons, readRoot?_cons, closes.formAt_eq left']

/-- A text is a document exactly if its tokens begin with names, any number of them,
    and a word, so with nothing else than a name or a word. The block of the root ends
    with a closing brace of its own or with the text. Where it has the brace, only the
    tokens up to that brace count: it is a character of the text, and any other text may
    stand behind it. -/
theorem parse?_tells_root :
    (∀ text, (parse? text).isSome = true ↔
      ∃ (names : List String) (typeName : String) (behind : List Token), tokens text =
        names.flatMap (fun name => [.define, .word name]) ++ .word typeName :: behind) ∧
    (∀ text first behind, tokens text = first :: behind → first ≠ .define →
      (∀ name, first ≠ .word name) → parse? text = none) ∧
    (∀ first behind (names : List String) typeName inside, first :: behind =
        names.flatMap (fun name => [.define, .word name]) ++
          .word typeName :: .openBrace :: inside →
      (∃ left, (Reading.node first behind).Closes left) ∨ (formAt first behind).2 = []) ∧
    (∀ text text' first inside left left',
      tokens text = first :: (inside ++ .closeBrace :: left) →
      (Reading.node first (inside ++ .closeBrace :: left)).Closes left →
      tokens text' = first :: (inside ++ .closeBrace :: left') → parse? text' = parse? text) ∧
    ∀ text first behind left, tokens text = first :: behind →
      (Reading.node first behind).Closes left →
      ∃ front back, text = front ++ "\x7d" ++ back ∧ tokens back = left ∧
        tokens text = tokens front ++ .closeBrace :: left ∧
        ∀ other, tokens (front ++ "\x7d" ++ other) = tokens front ++ .closeBrace :: tokens other ∧
          parse? (front ++ "\x7d" ++ other) = parse? text := by
  refine ⟨isSome_parse?_iff, ?_, fun _ _ _ _ _ => root_closes_or_ends, ?_, ?_⟩
  · intro text first behind begins noDefine noWord
    rw [← Option.not_isSome_iff_eq_none, isSome_parse?_iff, begins]
    exact fun node => noDefine (node.named noWord).1
  · intro text text' first inside left left' isText closes isText'
    rw [parse?, parse?, isText, isText', assemble?_of_closes closes]
  · intro text first behind left isText closes
    obtain ⟨inside, rfl⟩ := closes.suffix
    have split : tokens text = (first :: inside) ++ .closeBrace :: left := isText
    obtain ⟨front, back, whole, isFront, isBack, cut⟩ := exists_brace_of_tokens split
    refine ⟨front, back, whole, isBack, by rw [isFront, split], fun other => ⟨?_, ?_⟩⟩
    · rw [isFront, cut]
    · rw [parse?, parse?, cut, isText]
      exact assemble?_of_closes closes _

/-- A text that begins with a group of one cube. -/
def groupOfCube (left : List Token) : List Token :=
  .word "Group" :: ([.openBrace, .word "Cube", .openBrace, .closeBrace] ++ .closeBrace :: left)

theorem closes_groupOfCube (left : List Token) :
    (Reading.node (.word "Group")
      ([.openBrace, .word "Cube", .openBrace, .closeBrace] ++ .closeBrace :: left)).Closes left := by
  have cube : formAt (.word "Cube") (.openBrace :: .closeBrace :: .closeBrace :: left) =
      (some (.node (NodeType.cube.kind NodeType.cube.initial) []), .closeBrace :: left) := by
    rw [formAt_single rfl rfl]
    simp only [readFields]
  refine .goesOn (.here rfl) (.goesOn (.later (.here rfl)) ?_)
  change Reading.Closes (.body _ _
    ((formAt (.word "Cube") (.openBrace :: .closeBrace :: .closeBrace :: left)).1.toList ++ [])
    (formAt (.word "Cube") (.openBrace :: .closeBrace :: .closeBrace :: left)).2) left
  rw [cube]
  exact .body

/-- Behind a group of one cube a word does not count, and in front of a word a `USE` does. -/
theorem root_groupOfCube :
    (parse? "Group{Cube{}}Fog").isSome = true ∧ parse? "USE Fog" = none ∧
    parse? "Group{Cube{}}Fog" = parse? "Group{Cube{}}" ∧
    ∃ front back, "Group{Cube{}}Fog" = front ++ "\x7d" ++ back ∧ tokens back = [.word "Fog"] ∧
      ∀ other, parse? (front ++ "\x7d" ++ other) = parse? "Group{Cube{}}Fog" := by
  obtain ⟨isDocument, refused, -, same, cut⟩ := parse?_tells_root
  have withFog : tokens "Group{Cube{}}Fog" = groupOfCube [.word "Fog"] := by
    decide +kernel
  have alone : tokens "Group{Cube{}}" = groupOfCube [] := by
    decide +kernel
  have reused : tokens "USE Fog" = [.reuse, .word "Fog"] := by
    decide +kernel
  refine ⟨(isDocument _).2 ⟨[], _, _, withFog⟩, refused _ _ _ reused (by simp) (by simp),
    same _ _ _ _ _ _ alone (closes_groupOfCube []) withFog, ?_⟩
  obtain ⟨front, back, whole, isBack, -, others⟩ :=
    cut _ _ _ _ withFog (closes_groupOfCube [.word "Fog"])
  exact ⟨front, back, whole, isBack, fun other => (others other).2⟩

end VrmlWorld.Document
