/-
  VrmlWorld/Proofs/Document/EndOfFile.lean
  ========================================
  **The end of a file closes all that is open.**

  No reader tells the end of the tokens from a closing brace: where the one
  stops it, the other does, and a list that runs to the end of the file passes
  over braces. Two readings, with and without closing braces at the end, are
  followed side by side (`ClosedOff`), through values, fields, skipped blocks and
  nodes. A text that breaks off outside of quotes is therefore read as if any
  number of braces stood behind it (`parse?_closed_off`).
-/
import VrmlWorld.Proofs.Document.AsRead
import VrmlWorld.Proofs.Document.LineBreaks

namespace VrmlWorld.Document

/-! ### Tokens with braces at the end -/

/-- The same tokens, with some closing braces behind them. -/
inductive ClosedOff : List Token → List Token → Prop where
  | nil : ClosedOff [] []
  | brace {braces : List Token} (more : ClosedOff [] braces) : ClosedOff [] (.closeBrace :: braces)
  | cons {tokens closed : List Token} (first : Token) (behind : ClosedOff tokens closed) :
      ClosedOff (first :: tokens) (first :: closed)

theorem ClosedOff.append (count : Nat) (tokens : List Token) :
    ClosedOff tokens (tokens ++ List.replicate count .closeBrace) := by
  induction tokens with
  | nil =>
    induction count with
    | zero => exact .nil
    | succ count ih => exact .brace ih
  | cons first rest ih => exact .cons first ih

/-- Nothing but braces comes to stand in front. -/
theorem ClosedOff.ne_cons {tokens closed : List Token} (same : ClosedOff tokens closed)
    {first : Token} (noBrace : first ≠ .closeBrace) (absent : ∀ behind, tokens ≠ first :: behind)
    (behind : List Token) : closed ≠ first :: behind := by
  rintro rfl
  cases same with
  | brace more => exact noBrace rfl
  | cons _ same => exact absent _ rfl

/-- Two readings have the same result, and leave the same tokens but for the
    braces at the end. -/
def Agree {α : Type} (answer answer' : α × List Token) : Prop :=
  answer.1 = answer'.1 ∧ ClosedOff answer.2 answer'.2

section Values

variable {α : Type} {single : Single α} {tokens closed : List Token}

/-! ### Single values -/

/-- A kind of value that does not tell the end of the tokens from a closing
    brace. -/
structure Single.Closable (single : Single α) : Prop where
  /-- No value begins with a closing brace. -/
  brace : ∀ behind, single.read? .closeBrace behind = none
  read : ∀ first {tokens closed : List Token}, ClosedOff tokens closed →
    Option.Rel Agree (single.read? first tokens) (single.read? first closed)

namespace Single

theorem Closable.take (closable : single.Closable) (same : ClosedOff tokens closed) :
    Agree (single.take tokens) (single.take closed) := by
  cases same with
  | nil => exact ⟨rfl, .nil⟩
  | brace more =>
    rw [Single.take, Single.take, closable.brace]
    exact ⟨rfl, .brace more⟩
  | @cons tokens closed first behind =>
    have read := closable.read first behind
    rw [Single.take, Single.take]
    generalize single.read? first tokens = answer at read ⊢
    generalize single.read? first closed = answer' at read ⊢
    cases read with
    | none => exact ⟨rfl, .cons first behind⟩
    | some agree => exact agree

theorem closable_ofToken {substitute : α} {value? : Token → Option α}
    (brace : value? .closeBrace = none) : (ofToken substitute value?).Closable where
  brace behind := congrArg (Option.map (·, behind)) brace
  read first tokens closed same := by
    simp only [ofToken]
    cases value? first with
    | none => exact .none
    | some value => exact .some ⟨rfl, same⟩

theorem closable_float : float.Closable := closable_ofToken rfl

theorem closable_whole : whole.Closable := closable_ofToken rfl

theorem closable_truth : truth.Closable := closable_ofToken rfl

theorem closable_text : text.Closable := closable_ofToken rfl

theorem closable_keyword (substitute : α) (meaning : List (String × α)) :
    (keyword substitute meaning).Closable := closable_ofToken rfl

theorem closable_ofFirstFloat {substitute : α} {go : Float32 → List Token → α × List Token}
    {suffix : ∀ x tokens, (go x tokens).2 <:+ tokens}
    (behind : ∀ x {tokens closed : List Token}, ClosedOff tokens closed →
      Agree (go x tokens) (go x closed)) :
    (ofFirstFloat substitute go suffix).Closable where
  brace _ := rfl
  read first tokens closed same := by
    cases first with
    | number value => exact .some (behind value.toFloat32 same)
    | _ => exact .none

theorem closable_vec2 : vec2.Closable := by
  apply closable_ofFirstFloat
  intro x tokens closed same
  obtain ⟨y, behind⟩ := closable_float.take same
  exact ⟨by simp only [y], behind⟩

theorem closable_vec3 : vec3.Closable := by
  apply closable_ofFirstFloat
  intro x tokens closed same
  obtain ⟨y, behindY⟩ := closable_float.take same
  obtain ⟨z, behindZ⟩ := closable_float.take behindY
  exact ⟨by simp only [y, z], behindZ⟩

theorem closable_vec4 : vec4.Closable := by
  apply closable_ofFirstFloat
  intro x tokens closed same
  obtain ⟨y, behindY⟩ := closable_float.take same
  obtain ⟨z, behindZ⟩ := closable_float.take behindY
  obtain ⟨w, behindW⟩ := closable_float.take behindZ
  exact ⟨by simp only [y, z, w], behindW⟩

end Single

/-! ### Lists -/

/-- A list that is not closed passes over the braces at the end. -/
theorem readMembers_braces (closable : single.Closable) (found : List α) {braces : List Token}
    (only : ClosedOff [] braces) : readMembers single found braces = (found.reverse, []) := by
  induction braces with
  | nil => rw [readMembers]
  | cons first rest ih =>
    cases only with
    | brace more =>
      rw [readMembers_stray (by simp) (closable.brace rest)]
      exact ih more

theorem readMembers_agree (closable : single.Closable) (found : List α)
    (same : ClosedOff tokens closed) :
    Agree (readMembers single found tokens) (readMembers single found closed) := by
  fun_induction readMembers single found tokens generalizing closed with
  | case1 found =>
    rw [readMembers_braces closable found same]
    exact ⟨rfl, .nil⟩
  | case2 found behind =>
    cases same with
    | cons _ behind =>
      rw [readMembers]
      exact ⟨rfl, behind⟩
  | case3 found first behind noEnd value left read ih =>
    cases same with
    | @cons _ closed _ behind =>
      have member := closable.read first behind
      rw [read] at member
      cases read' : single.read? first closed with
      | none =>
        rw [read'] at member
        cases member
      | some answer =>
        obtain ⟨value', left'⟩ := answer
        rw [read'] at member
        obtain ⟨rfl, left⟩ := Option.rel_some_some.1 member
        rw [readMembers_value noEnd read']
        exact ih left
  | case4 found first behind noEnd read ih =>
    cases same with
    | @cons _ closed _ behind =>
      have member := closable.read first behind
      rw [read] at member
      cases read' : single.read? first closed with
      | none =>
        rw [readMembers_stray noEnd read']
        exact ih behind
      | some answer =>
        rw [read'] at member
        cases member

theorem readList_agree (closable : single.Closable) (same : ClosedOff tokens closed) :
    Agree (readList single tokens) (readList single closed) := by
  have bare : ∀ {tokens closed : List Token}, ClosedOff tokens closed →
      Agree ([(single.take tokens).1], (single.take tokens).2)
        ([(single.take closed).1], (single.take closed).2) := by
    intro tokens closed same
    obtain ⟨value, behind⟩ := closable.take same
    exact ⟨congrArg (fun value => [value]) value, behind⟩
  cases same with
  | nil => exact bare .nil
  | brace more => exact bare (.brace more)
  | cons first behind =>
    cases first with
    | openBracket => exact readMembers_agree closable [] behind
    | _ => exact bare (.cons _ behind)

/-! ### Readers of field values -/

/-- A reader that does not tell the end of the tokens from a closing brace. -/
def ValueReader.Closable (reader : ValueReader α) : Prop :=
  ∀ current {tokens closed : List Token}, ClosedOff tokens closed →
    Agree (reader.run current tokens) (reader.run current closed)

namespace Single.Closable

theorem reader (closable : single.Closable) : single.reader.Closable :=
  fun _ _ _ same => closable.take same

theorem list (closable : single.Closable) : single.list.Closable :=
  fun _ _ _ same => readList_agree closable same

theorem array (closable : single.Closable) : single.array.Closable := by
  intro current tokens closed same
  obtain ⟨members, behind⟩ := readList_agree closable same
  exact ⟨congrArg List.toArray members, behind⟩

end Single.Closable

theorem readFlags_agree (meaning : List (String × α)) (union : α → α → α) (found : Option α)
    (same : ClosedOff tokens closed) :
    Agree (readFlags meaning union found tokens) (readFlags meaning union found closed) := by
  fun_induction readFlags meaning union found tokens generalizing closed with
  | case1 found name behind flag known ih =>
    cases same with
    | cons _ behind =>
      simp only [readFlags, known]
      exact ih behind
  | case2 found name behind unknown =>
    cases same with
    | cons _ behind =>
      simp only [readFlags, unknown]
      exact ⟨rfl, .cons _ behind⟩
  | case3 found tokens noWord =>
    cases same with
    | nil => exact ⟨rfl, .nil⟩
    | brace more => exact ⟨rfl, .brace more⟩
    | cons first behind =>
      cases first with
      | word name => exact absurd rfl (noWord name _)
      | _ => exact ⟨rfl, .cons _ behind⟩

theorem closable_flags (meaning : List (String × α)) (union : α → α → α) :
    (flags meaning union).Closable := by
  intro current tokens closed same
  obtain ⟨found, behind⟩ := readFlags_agree meaning union none same
  exact ⟨congrArg (·.getD current) found, behind⟩

theorem readFloats_agree (count : Nat) (found : List Float32) (same : ClosedOff tokens closed) :
    Agree (readFloats count found tokens) (readFloats count found closed) := by
  induction count generalizing found tokens closed with
  | zero => exact ⟨rfl, same⟩
  | succ count ih =>
    obtain ⟨value, behind⟩ := Single.closable_float.take same
    rw [readFloats, readFloats, ← value]
    exact ih _ behind

theorem closable_matrix : matrix.Closable := by
  intro current tokens closed same
  obtain ⟨values, behind⟩ := readFloats_agree 16 [] same
  exact ⟨congrArg Geometry.Mat4.ofColumns values, behind⟩

theorem skipPixels_of_no_pixel {tokens : List Token}
    (noPixel : ∀ value behind, tokens ≠ .number value :: behind) (count : Nat) :
    skipPixels count tokens = tokens := by
  rw [skipPixels.eq_3]
  · rintro _ value text behind - rfl
    exact noPixel value _ rfl
  · rintro _ value behind - rfl
    exact noPixel value _ rfl

theorem skipPixels_closed_off (count : Nat) (same : ClosedOff tokens closed) :
    ClosedOff (skipPixels count tokens) (skipPixels count closed) := by
  fun_induction skipPixels count tokens generalizing closed with
  | case1 count value text behind continues ih =>
    rcases same with _ | _ | ⟨_, _ | _ | ⟨_, behind⟩⟩
    simpa only [skipPixels, continues, if_true] using ih behind
  | case2 count value text behind stops ih =>
    rcases same with _ | _ | ⟨_, _ | _ | ⟨_, behind⟩⟩
    simpa only [skipPixels, if_neg stops] using ih (.cons _ behind)
  | case3 count value behind noWord ih =>
    rcases same with _ | _ | ⟨_, same⟩
    rw [skipPixels.eq_2]
    · exact ih same
    · rintro text behind rfl
      rcases same with _ | _ | _
      exact noWord text _ rfl
  | case4 count tokens noPixels stops =>
    cases count with
    | zero => simpa [skipPixels] using same
    | succ count =>
      rw [skipPixels_of_no_pixel]
      · exact same
      · intro value
        exact same.ne_cons (by simp) fun behind => stops count value behind rfl

theorem closable_image : image.Closable := by
  intro current tokens closed same
  obtain ⟨width, behindWidth⟩ := Single.closable_whole.take same
  obtain ⟨height, behindHeight⟩ := Single.closable_whole.take behindWidth
  obtain ⟨-, behind⟩ := Single.closable_whole.take behindHeight
  refine ⟨rfl, ?_⟩
  simp only [image, skipImage, ← width, ← height]
  exact skipPixels_closed_off _ behind

end Values

/-! ### Fields -/

/-- The single values that are written in fields. -/
inductive Single.OfField : {α : Type} → Single α → Prop where
  | float : OfField float
  | whole : OfField whole
  | truth : OfField truth
  | text : OfField text
  | keyword {α : Type} (substitute : α) (meaning : List (String × α)) :
      OfField (keyword substitute meaning)
  | vec2 : OfField vec2
  | vec3 : OfField vec3
  | vec4 : OfField vec4

/-- The readers that fields have. -/
inductive ValueReader.OfField : {α : Type} → ValueReader α → Prop where
  | reader {α : Type} {single : Single α} (own : single.OfField) : OfField single.reader
  | list {α : Type} {single : Single α} (own : single.OfField) : OfField single.list
  | array {α : Type} {single : Single α} (own : single.OfField) : OfField single.array
  | flags {α : Type} (meaning : List (String × α)) (union : α → α → α) :
      OfField (flags meaning union)
  | matrix : OfField matrix
  | image : OfField image

theorem NodeType.ofField_of_mem_table :
    ∀ row ∈ NodeType.table, ∀ field ∈ row.2.fields, field.reader.OfField := by
  simp only [NodeType.table, List.forall_mem_cons]
  and_intros
  all_goals
    repeat' first
      | exact List.forall_mem_nil _
      | refine List.forall_mem_cons.2 ⟨?_, ?_⟩
      | exact .reader .float
      | exact .reader .vec3
      | exact .reader .text
      | exact .reader (.keyword _ _)
      | exact .reader .whole
      | exact .array .whole
      | exact .array .vec3
      | exact .array .float
      | exact .list .float
      | exact .reader .vec4
      | exact .reader .vec2
      | exact .array .vec2
      | exact .reader .truth
      | exact .list .text
      | exact .flags _ _
      | exact .matrix
      | exact .image

theorem NodeType.ofField {name : String} {type : NodeType}
    (named : NodeType.named? name = some type) : ∀ field ∈ type.fields, field.reader.OfField := by
  obtain ⟨before, behind, rows, -⟩ := List.lookup_eq_some_iff.1 named
  exact NodeType.ofField_of_mem_table (name, type) (by simp [rows])

theorem Single.OfField.closable {α : Type} {single : Single α} (own : single.OfField) :
    single.Closable := by
  cases own with
  | float => exact closable_float
  | whole => exact closable_whole
  | truth => exact closable_truth
  | text => exact closable_text
  | keyword substitute meaning => exact closable_keyword substitute meaning
  | vec2 => exact closable_vec2
  | vec3 => exact closable_vec3
  | vec4 => exact closable_vec4

theorem ValueReader.OfField.closable {α : Type} {reader : ValueReader α} (own : reader.OfField) :
    reader.Closable := by
  cases own with
  | reader single => exact single.closable.reader
  | list single => exact single.closable.list
  | array single => exact single.closable.array
  | flags meaning union => exact closable_flags meaning union
  | matrix => exact closable_matrix
  | image => exact closable_image

theorem NodeType.closable {name : String} {type : NodeType}
    (named : NodeType.named? name = some type) (field : Field type.Values)
    (member : field ∈ type.fields) : field.reader.Closable :=
  (NodeType.ofField named field member).closable

theorem skipBlocks_braces (depth : Nat) {braces : List Token} (only : ClosedOff [] braces) :
    ClosedOff [] (skipBlocks depth braces) := by
  induction depth generalizing braces with
  | zero => simpa [skipBlocks] using only
  | succ depth ih =>
    cases only with
    | nil => exact .nil
    | brace more => exact ih more

theorem skipBlocks_closed_off (depth : Nat) {tokens closed : List Token}
    (same : ClosedOff tokens closed) :
    ClosedOff (skipBlocks depth tokens) (skipBlocks depth closed) := by
  fun_induction skipBlocks depth tokens generalizing closed with
  | case1 tokens => simpa [skipBlocks] using same
  | case2 depth open' => exact skipBlocks_braces depth same
  | case3 depth tokens ih =>
    cases same with
    | cons _ behind => exact ih behind
  | case4 depth tokens ih =>
    cases same with
    | cons _ behind => exact ih behind
  | case5 depth token tokens noOpen noClose ih =>
    cases same with
    | cons _ behind =>
      rw [skipBlocks.eq_5 _ _ _ noOpen noClose]
      exact ih behind

theorem skipBlock_closed_off {tokens closed : List Token} (same : ClosedOff tokens closed) :
    ClosedOff (skipBlock tokens) (skipBlock closed) := by
  cases same with
  | nil => exact .nil
  | brace more => exact .brace more
  | cons first behind =>
    cases first with
    | openBrace => exact skipBlocks_closed_off 1 behind
    | _ => exact .cons _ behind

theorem skipValue_closed_off {tokens closed : List Token} (same : ClosedOff tokens closed) :
    ClosedOff (skipValue tokens) (skipValue closed) := by
  cases same with
  | nil => exact .nil
  | brace more => exact .brace more
  | cons first behind =>
    cases first with
    | closeBrace => exact .cons _ behind
    | _ => exact behind

section Fields

variable {σ : Type} {fields : List (Field σ)} {tokens closed : List Token}

theorem Field.read_agree {field : Field σ} (closable : field.reader.Closable) (values : σ)
    (same : ClosedOff tokens closed) :
    Agree (field.read values tokens) (field.read values closed) := by
  obtain ⟨value, behind⟩ := closable (field.get values) same
  exact ⟨congrArg (field.set · values) value, behind⟩

theorem readFields_agree (closable : ∀ field ∈ fields, field.reader.Closable) (values : σ)
    (same : ClosedOff tokens closed) :
    Agree (readFields fields values tokens) (readFields fields values closed) := by
  fun_induction readFields fields values tokens generalizing closed with
  | case1 values =>
    cases same with
    | nil =>
      rw [readFields]
      exact ⟨rfl, .nil⟩
    | brace more =>
      rw [readFields]
      exact ⟨rfl, more⟩
  | case2 values tokens =>
    cases same with
    | cons _ behind =>
      rw [readFields]
      exact ⟨rfl, behind⟩
  | case3 values name tokens field named ih =>
    cases same with
    | @cons _ closed _ behind =>
      obtain ⟨read, left⟩ := field.read_agree (closable field (field_of_fieldOf? named)) values behind
      rw [readFields]
      simp only [named, ← read]
      exact ih left
  | case4 values name tokens unnamed ih =>
    cases same with
    | cons _ behind =>
      rw [readFields]
      simp only [unnamed]
      exact ih (skipValue_closed_off behind)
  | case5 values token tokens noClose noWord ih =>
    cases same with
    | cons _ behind =>
      rw [readFields_stray noClose noWord]
      exact ih behind

end Fields

/-! ### Nodes -/

section Broken

variable {name typeName : String} {tokens : List Token}

theorem formAt_define_end : formAt .define [.word name] = (none, []) := by
  simp [formAt, readForm]

theorem formAt_define_stop {next : Token} {behind : List Token} (stops : ¬startsNode next = true) :
    formAt .define (.word name :: next :: behind) = (none, next :: behind) := by
  simp [formAt, readForm, stops]

theorem formAt_define_unnamed (noName : ∀ name behind, tokens ≠ .word name :: behind) :
    formAt .define tokens = (none, tokens) := by
  rw [formAt, readForm]
  · rfl
  · exact fun name next behind => noName name (next :: behind)
  · exact fun name => noName name []

theorem formAt_reuse_unnamed (noName : ∀ name behind, tokens ≠ .word name :: behind) :
    formAt .reuse tokens = (none, tokens) := by
  rw [formAt, readForm]
  · rfl
  · exact noName

theorem formAt_unknown (unknown : NodeType.named? typeName = none) :
    formAt (.word typeName) tokens =
      (some (.node (.unknown typeName) []), skipBlock tokens) := by
  simp only [formAt, readForm, unknown]

theorem formAt_bare {type : NodeType} (known : NodeType.named? typeName = some type)
    (noBody : ∀ body, tokens ≠ .openBrace :: body) :
    formAt (.word typeName) tokens = (some (.node (type.kind type.initial) []), tokens) := by
  simp only [formAt, readForm, known]
  rfl

theorem formAt_none {first : Token} (noNode : startsNode first = false) :
    formAt first tokens = (none, tokens) := by
  cases first with
  | define => cases noNode
  | reuse => cases noNode
  | word text => cases noNode
  | _ =>
    rw [formAt, readForm]
    · rfl
    all_goals simp

theorem bodyAt_end {σ : Type} {fields : List (Field σ)} {values : σ} {found : List Form} :
    bodyAt fields values found [] = ((values, found.reverse), []) := by
  simp [bodyAt, readChildren, Rest.all]

theorem bodyAt_form {σ : Type} {fields : List (Field σ)} {values : σ} {found : List Form}
    {first : Token} (inside : first ≠ .closeBrace) (unnamed : fieldOf? fields first = none) :
    bodyAt fields values found (first :: tokens) =
      bodyAt fields values ((formAt first tokens).1.toList ++ found) (formAt first tokens).2 := by
  rw [bodyAt, readChildren.eq_3 _ _ _ _ _ inside]
  simp only [unnamed]
  rfl

end Broken

theorem formAt_agree_and_bodyAt_agree :
    (∀ (first : Token) (tokens : List Token), ∀ {closed : List Token}, ClosedOff tokens closed →
      Agree (formAt first tokens) (formAt first closed)) ∧
    (∀ (σ : Type) (fields : List (Field σ)) (values : σ) (found : List Form)
      (tokens : List Token), (∀ field ∈ fields, field.reader.Closable) →
      ∀ {closed : List Token}, ClosedOff tokens closed →
      Agree (bodyAt fields values found tokens) (bodyAt fields values found closed)) := by
  apply readForm.mutual_induct
  case case1 =>
    intro name next behind starts _ _ _ ih closed same
    rcases same with _ | _ | ⟨_, _ | _ | ⟨_, same⟩⟩
    obtain ⟨form, left⟩ := ih same
    rw [formAt_define starts, formAt_define starts, form]
    exact ⟨rfl, left⟩
  case case2 =>
    intro name next behind stops closed same
    rcases same with _ | _ | ⟨_, _ | _ | ⟨_, same⟩⟩
    rw [formAt_define_stop stops, formAt_define_stop stops]
    exact ⟨rfl, .cons _ same⟩
  case case3 =>
    intro text closed same
    rcases same with _ | _ | ⟨_, _ | more⟩
    · rw [formAt_define_end]
      exact ⟨rfl, .nil⟩
    · rw [formAt_define_end, formAt_define_stop (by decide)]
      exact ⟨rfl, .brace more⟩
  case case4 =>
    intro tokens noNode noName closed same
    have absent : ∀ name behind, tokens ≠ .word name :: behind := by
      rintro name (_ | ⟨next, behind⟩) rfl
      · exact noName name rfl
      · exact noNode name next behind rfl
    rw [formAt_define_unnamed absent,
      formAt_define_unnamed fun name => same.ne_cons (by simp) (absent name)]
    exact ⟨rfl, same⟩
  case case5 =>
    intro name behind closed same
    rcases same with _ | _ | ⟨_, same⟩
    rw [formAt_reuse, formAt_reuse]
    exact ⟨rfl, same⟩
  case case6 =>
    intro tokens noName closed same
    rw [formAt_reuse_unnamed noName,
      formAt_reuse_unnamed fun name => same.ne_cons (by simp) (noName name)]
    exact ⟨rfl, same⟩
  case case7 =>
    intro tokens typeName unknown closed same
    rw [formAt_unknown unknown, formAt_unknown unknown]
    exact ⟨rfl, skipBlock_closed_off same⟩
  case case8 =>
    intro typeName type known tokens parent _ _ _ _ ih closed same
    rcases same with _ | _ | ⟨_, same⟩
    obtain ⟨body, left⟩ := ih (NodeType.closable known) same
    rw [formAt_parent known parent, formAt_parent known parent, body]
    exact ⟨rfl, left⟩
  case case9 =>
    intro typeName type known tokens single closed same
    rcases same with _ | _ | ⟨_, same⟩
    have single : type.parent = false := by simpa using single
    obtain ⟨values, left⟩ := readFields_agree (NodeType.closable known) type.initial same
    rw [formAt_single known single, formAt_single known single, values]
    exact ⟨rfl, left⟩
  case case10 =>
    intro typeName type known tokens noBody closed same
    rw [formAt_bare known noBody, formAt_bare known (same.ne_cons (by simp) noBody)]
    exact ⟨rfl, same⟩
  case case11 =>
    intro first tokens noDefine noReuse noWord closed same
    have noNode : startsNode first = false := by
      cases first with
      | define => exact absurd rfl noDefine
      | reuse => exact absurd rfl noReuse
      | word text => exact absurd rfl (noWord text)
      | _ => rfl
    rw [formAt_none noNode, formAt_none noNode]
    exact ⟨rfl, same⟩
  case case12 =>
    intro σ fields values found closable closed same
    rw [bodyAt_end]
    cases same with
    | nil =>
      rw [bodyAt_end]
      exact ⟨rfl, .nil⟩
    | brace more =>
      rw [bodyAt_close]
      exact ⟨rfl, more⟩
  case case13 =>
    intro σ fields values found tokens closable closed same
    rcases same with _ | _ | ⟨_, same⟩
    rw [bodyAt_close, bodyAt_close]
    exact ⟨rfl, same⟩
  case case14 =>
    intro σ fields values found head tokens inside field named _ _ _ ih closable closed same
    rcases same with _ | _ | ⟨_, same⟩
    obtain ⟨read, left⟩ :=
      field.read_agree (closable field (field_of_fieldOf? named)) values same
    rw [bodyAt_field named, bodyAt_field named, ← read]
    exact ih closable left
  case case15 =>
    intro σ fields values found head tokens inside unnamed form rest read _ _ _ ih ihRest closable
      closed same
    rcases same with _ | _ | ⟨_, same⟩
    have answer : formAt head tokens = (form, rest.1) := by rw [formAt, read]
    obtain ⟨own, left⟩ := ih same
    rw [bodyAt_form inside unnamed, bodyAt_form inside unnamed, ← own]
    rw [answer] at left ⊢
    exact ihRest closable left

/-! ### Whole files -/

theorem readRoot?_closed_off {tokens closed : List Token} (same : ClosedOff tokens closed) :
    readRoot? tokens = readRoot? closed := by
  cases same with
  | nil => rfl
  | brace more =>
    rw [readRoot?_cons, formAt_none rfl]
    rfl
  | cons first behind =>
    rw [readRoot?_cons, readRoot?_cons]
    exact (formAt_agree_and_bodyAt_agree.1 first _ behind).1

theorem assemble?_closed_off {tokens closed : List Token} (same : ClosedOff tokens closed) :
    assemble? tokens = assemble? closed := by
  rw [assemble?, assemble?, readRoot?_closed_off same]

theorem tokens_braces (count : Nat) :
    tokens (String.ofList (List.replicate count '}')) = List.replicate count .closeBrace := by
  apply tokens_of_spells
  rw [String.toList_ofList]
  induction count with
  | zero => exact .nil (.gap .nil)
  | succ count ih => exact .cons .nil .closeBrace (fun _ _ => rfl) ih

/-- A text that breaks off outside of quotes is read as if any number of closing
    braces stood on a line behind it. -/
theorem parse?_closed_off {text : String} (closed : endsInQuotes text.toList = false)
    (count : Nat) :
    parse? (text ++ "\n" ++ String.ofList (List.replicate count '}')) = parse? text := by
  rw [parse?, parse?, tokens_append_newline closed, tokens_braces]
  exact (assemble?_closed_off (ClosedOff.append count _)).symm

/-- A file that breaks off in the middle of a list of colours. -/
theorem parse?_closed_off_in_list :
    endsInQuotes "Separator \x7b Material \x7b diffuseColor [ 1 0".toList = false ∧
    parse? ("Separator \x7b Material \x7b diffuseColor [ 1 0" ++ "\n" ++
        String.ofList (List.replicate 3 '}')) =
      parse? "Separator \x7b Material \x7b diffuseColor [ 1 0" :=
  ⟨by decide, parse?_closed_off (by decide) 3⟩

end VrmlWorld.Document
