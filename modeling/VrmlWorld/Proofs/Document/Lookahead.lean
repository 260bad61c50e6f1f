/-
  VrmlWorld/Proofs/Document/Lookahead.lean
  ========================================
  **No reader looks further than one token beyond what it takes.**

  Whether a value, a list, a body or a node goes on is told from the next token alone.
  So where tokens fork behind a common beginning, into two ways that begin with the
  same token, a reader that stays in front of the fork on the one way reads the same
  on the other one and stops at the same place (`formAt_alike_and_bodyAt_alike`). What
  the tokens beyond are is of no account.
-/
import VrmlWorld.Proofs.Document.EndOfFile

namespace VrmlWorld.Document

/-! ### Forks -/

/-- Two ways in which tokens may go on; they have the same next token. -/
structure Fork where
  way : List Token
  other : List Token
  next : way.head? = other.head?

namespace Fork

variable {fork : Fork} {tokens tokens' left : List Token} {first : Token}

/-- The fork is ahead of common tokens, or it is here. -/
def Ahead (fork : Fork) (tokens tokens' : List Token) : Prop :=
  ∃ shared, tokens = shared ++ fork.way ∧ tokens' = shared ++ fork.other

/-- Nothing beyond the fork has been taken. -/
def Untouched (fork : Fork) (left : List Token) : Prop := fork.way.length ≤ left.length

/-- Two readings have the same result, and both stop in front of the fork. -/
def Alike {α : Type} (fork : Fork) (answer answer' : α × List Token) : Prop :=
  answer.1 = answer'.1 ∧ fork.Ahead answer.2 answer'.2

theorem Ahead.head? (ahead : fork.Ahead tokens tokens') : tokens.head? = tokens'.head? := by
  obtain ⟨_ | ⟨first, shared⟩, rfl, rfl⟩ := ahead
  · exact fork.next
  · rfl

/-- The next token is the same on both ways. -/
theorem Ahead.cons_iff (ahead : fork.Ahead tokens tokens') :
    (∃ behind, tokens = first :: behind) ↔ ∃ behind, tokens' = first :: behind := by
  simp only [← List.head?_eq_some_iff, ahead.head?]

theorem Ahead.ne_cons (ahead : fork.Ahead tokens tokens')
    (absent : ∀ behind, tokens ≠ first :: behind) (behind : List Token) :
    tokens' ≠ first :: behind := by
  intro begins
  obtain ⟨behind, begins⟩ := ahead.cons_iff.2 ⟨behind, begins⟩
  exact absent behind begins

theorem Ahead.eq_nil (ahead : fork.Ahead [] tokens') : tokens' = [] := by
  simpa using ahead.head?.symm

theorem Untouched.of_suffix (untouched : fork.Untouched left) (suffix : left <:+ tokens) :
    fork.Untouched tokens :=
  Nat.le_trans untouched suffix.length_le

/-- A token that may be taken without touching what is beyond the fork is in front of
    the fork. -/
theorem Ahead.behind (ahead : fork.Ahead (first :: tokens) tokens')
    (untouched : fork.Untouched tokens) :
    ∃ behind, tokens' = first :: behind ∧ fork.Ahead tokens behind := by
  obtain ⟨_ | ⟨_, shared⟩, split, rfl⟩ := ahead
  · have whole : fork.way.length = tokens.length + 1 := (congrArg List.length split).symm
    exact absurd untouched (by rw [Untouched, whole]; omega)
  · cases split
    exact ⟨_, rfl, shared, rfl, rfl⟩

end Fork

section Values

variable {α : Type} {single : Single α} {fork : Fork} {tokens tokens' : List Token}

/-! ### Single values -/

/-- A kind of value whose first token tells whether there is one, and which looks no
    further than one token beyond its end. -/
structure Single.Near (single : Single α) : Prop where
  absent : ∀ first {behind} behind', single.read? first behind = none →
    single.read? first behind' = none
  read : ∀ first {fork : Fork} {tokens tokens' left : List Token} {value : α},
    fork.Ahead tokens tokens' → single.read? first tokens = some (value, left) →
    fork.Untouched left →
    ∃ left', single.read? first tokens' = some (value, left') ∧ fork.Ahead left left'

namespace Single

theorem Near.take (near : single.Near) (ahead : fork.Ahead tokens tokens')
    (untouched : fork.Untouched (single.take tokens).2) :
    fork.Alike (single.take tokens) (single.take tokens') := by
  cases tokens with
  | nil =>
    obtain rfl := ahead.eq_nil
    exact ⟨rfl, ahead⟩
  | cons first behind =>
    cases read : single.read? first behind with
    | none =>
      obtain ⟨behind', rfl⟩ := ahead.cons_iff.1 ⟨behind, rfl⟩
      simp only [Single.take, read, near.absent first behind' read, Option.getD_none]
      exact ⟨rfl, ahead⟩
    | some answer =>
      obtain ⟨value, left⟩ := answer
      simp only [Single.take, read, Option.getD_some] at untouched ⊢
      obtain ⟨behind', rfl, onward⟩ := ahead.behind (untouched.of_suffix (single.suffix read))
      obtain ⟨left', read', beyond⟩ := near.read first onward read untouched
      simp only [read', Option.getD_some]
      exact ⟨rfl, beyond⟩

theorem near_ofToken {substitute : α} {value? : Token → Option α} :
    (ofToken substitute value?).Near where
  absent first behind behind' none := by simpa [ofToken] using none
  read first fork tokens tokens' left value ahead read _ := by
    obtain ⟨own, isValue, same⟩ := Option.map_eq_some_iff.1 read
    cases same
    exact ⟨tokens', by simp [ofToken, isValue], ahead⟩

theorem near_float : float.Near := near_ofToken

theorem near_whole : whole.Near := near_ofToken

theorem near_truth : truth.Near := near_ofToken

theorem near_text : text.Near := near_ofToken

theorem near_keyword (substitute : α) (meaning : List (String × α)) :
    (keyword substitute meaning).Near := near_ofToken

theorem near_ofFirstFloat {substitute : α} {go : Float32 → List Token → α × List Token}
    {suffix : ∀ x tokens, (go x tokens).2 <:+ tokens}
    (behind : ∀ x {fork : Fork} {tokens tokens' : List Token}, fork.Ahead tokens tokens' →
      fork.Untouched (go x tokens).2 → fork.Alike (go x tokens) (go x tokens')) :
    (ofFirstFloat substitute go suffix).Near where
  absent first behind behind' none := by
    cases first with
    | number value => cases none
    | _ => rfl
  read first fork tokens tokens' left value ahead read untouched := by
    cases first with
    | number number =>
      have answer : go number.toFloat32 tokens = (value, left) := Option.some.inj read
      have alike := behind number.toFloat32 ahead (by rwa [answer])
      rw [answer] at alike
      exact ⟨(go number.toFloat32 tokens').2, congrArg some (Prod.ext alike.1.symm rfl), alike.2⟩
    | _ => cases read

theorem near_vec2 : vec2.Near :=
  near_ofFirstFloat fun x _ _ _ ahead untouched => by
    obtain ⟨y, ahead⟩ := near_float.take ahead untouched
    exact ⟨by simp only [y], ahead⟩

theorem near_vec3 : vec3.Near :=
  near_ofFirstFloat fun x _ _ _ ahead untouched => by
    obtain ⟨y, ahead⟩ := near_float.take ahead (untouched.of_suffix (float.take_suffix _))
    obtain ⟨z, ahead⟩ := near_float.take ahead untouched
    exact ⟨by simp only [y, z], ahead⟩

theorem near_vec4 : vec4.Near :=
  near_ofFirstFloat fun x _ _ _ ahead untouched => by
    have untouchedZ := untouched.of_suffix (float.take_suffix _)
    obtain ⟨y, ahead⟩ := near_float.take ahead (untouchedZ.of_suffix (float.take_suffix _))
    obtain ⟨z, ahead⟩ := near_float.take ahead untouchedZ
    obtain ⟨w, ahead⟩ := near_float.take ahead untouched
    exact ⟨by simp only [y, z, w], ahead⟩

end Single

/-! ### Lists -/

theorem readMembers_alike (near : single.Near) (found : List α)
    (ahead : fork.Ahead tokens tokens')
    (untouched : fork.Untouched (readMembers single found tokens).2) :
    fork.Alike (readMembers single found tokens) (readMembers single found tokens') := by
  fun_induction readMembers single found tokens generalizing tokens' with
  | case1 found =>
    obtain rfl := ahead.eq_nil
    rw [readMembers]
    exact ⟨rfl, ahead⟩
  | case2 found behind =>
    obtain ⟨behind', rfl, onward⟩ := ahead.behind untouched
    rw [readMembers]
    exact ⟨rfl, onward⟩
  | case3 found first behind noEnd value left read ih =>
    have untouchedLeft := untouched.of_suffix (readMembers_suffix single _ left)
    obtain ⟨behind', rfl, onward⟩ := ahead.behind (untouchedLeft.of_suffix (single.suffix read))
    obtain ⟨left', read', beyond⟩ := near.read first onward read untouchedLeft
    rw [readMembers_value noEnd read']
    exact ih beyond untouched
  | case4 found first behind noEnd read ih =>
    obtain ⟨behind', rfl, onward⟩ :=
      ahead.behind (untouched.of_suffix (readMembers_suffix single found behind))
    rw [readMembers_stray noEnd (near.absent first behind' read)]
    exact ih onward untouched

theorem readList_alike (near : single.Near) (ahead : fork.Ahead tokens tokens')
    (untouched : fork.Untouched (readList single tokens).2) :
    fork.Alike (readList single tokens) (readList single tokens') := by
  fun_cases readList single tokens with
  | case1 behind =>
    obtain ⟨behind', rfl, onward⟩ :=
      ahead.behind (untouched.of_suffix (readMembers_suffix single [] behind))
    exact readMembers_alike near [] onward untouched
  | case2 tokens bare =>
    rw [readList.eq_2 _ _ bare] at untouched
    obtain ⟨value, beyond⟩ := near.take ahead untouched
    rw [readList.eq_2 _ _ (ahead.ne_cons bare)]
    exact ⟨congrArg (fun value => [value]) value, beyond⟩

/-! ### Values of other shapes -/

theorem readFlags_alike (meaning : List (String × α)) (union : α → α → α) (found : Option α)
    (ahead : fork.Ahead tokens tokens')
    (untouched : fork.Untouched (readFlags meaning union found tokens).2) :
    fork.Alike (readFlags meaning union found tokens) (readFlags meaning union found tokens') := by
  fun_induction readFlags meaning union found tokens generalizing tokens' with
  | case1 found name behind flag known ih =>
    obtain ⟨behind', rfl, onward⟩ :=
      ahead.behind (untouched.of_suffix (readFlags_suffix meaning union _ behind))
    simp only [readFlags, known]
    exact ih onward untouched
  | case2 found name behind unknown =>
    obtain ⟨behind', rfl⟩ := ahead.cons_iff.1 ⟨behind, rfl⟩
    simp only [readFlags, unknown]
    exact ⟨rfl, ahead⟩
  | case3 found tokens noWord =>
    rw [readFlags.eq_2 _ _ _ _ fun name => ahead.ne_cons (noWord name)]
    exact ⟨rfl, ahead⟩

theorem readFloats_alike (count : Nat) (found : List Float32) (ahead : fork.Ahead tokens tokens')
    (untouched : fork.Untouched (readFloats count found tokens).2) :
    fork.Alike (readFloats count found tokens) (readFloats count found tokens') := by
  induction count generalizing found tokens tokens' with
  | zero => exact ⟨rfl, ahead⟩
  | succ count ih =>
    obtain ⟨value, onward⟩ :=
      Single.near_float.take ahead (untouched.of_suffix (readFloats_suffix count _ _))
    rw [readFloats, readFloats, ← value]
    exact ih _ onward untouched

theorem skipPixels_ahead (count : Nat) (ahead : fork.Ahead tokens tokens')
    (untouched : fork.Untouched (skipPixels count tokens)) :
    fork.Ahead (skipPixels count tokens) (skipPixels count tokens') := by
  fun_induction skipPixels count tokens generalizing tokens' with
  | case1 count value text behind continues ih =>
    have untouchedBehind := untouched.of_suffix (skipPixels_suffix count behind)
    obtain ⟨_, rfl, onward⟩ := ahead.behind (untouchedBehind.of_suffix (List.suffix_cons _ _))
    obtain ⟨behind', rfl, beyond⟩ := onward.behind untouchedBehind
    simpa only [skipPixels, continues, if_true] using ih beyond untouched
  | case2 count value text behind stops ih =>
    obtain ⟨_, rfl, onward⟩ := ahead.behind (untouched.of_suffix (skipPixels_suffix count _))
    obtain ⟨behind', rfl⟩ := onward.cons_iff.1 ⟨behind, rfl⟩
    simpa only [skipPixels, if_neg stops] using ih onward untouched
  | case3 count value behind noWord ih =>
    obtain ⟨behind', rfl, onward⟩ := ahead.behind (untouched.of_suffix (skipPixels_suffix count _))
    rw [skipPixels.eq_2 _ _ _ fun text => onward.ne_cons (noWord text)]
    exact ih onward untouched
  | case4 count tokens noPixels stops =>
    cases count with
    | zero => simpa [skipPixels] using ahead
    | succ count =>
      rw [skipPixels_of_no_pixel fun value => ahead.ne_cons fun behind => stops count value behind rfl]
      exact ahead

/-! ### Readers of field values -/

/-- A reader that looks no further than one token beyond the value. -/
def ValueReader.Near (reader : ValueReader α) : Prop :=
  ∀ current {fork : Fork} {tokens tokens' : List Token}, fork.Ahead tokens tokens' →
    fork.Untouched (reader.run current tokens).2 →
    fork.Alike (reader.run current tokens) (reader.run current tokens')

namespace Single.Near

theorem reader (near : single.Near) : single.reader.Near :=
  fun _ _ _ _ ahead untouched => near.take ahead untouched

theorem list (near : single.Near) : single.list.Near :=
  fun _ _ _ _ ahead untouched => readList_alike near ahead untouched

theorem array (near : single.Near) : single.array.Near := by
  intro current fork tokens tokens' ahead untouched
  obtain ⟨members, beyond⟩ := readList_alike near ahead untouched
  exact ⟨congrArg List.toArray members, beyond⟩

end Single.Near

theorem near_flags (meaning : List (String × α)) (union : α → α → α) :
    (flags meaning union).Near := by
  intro current fork tokens tokens' ahead untouched
  obtain ⟨found, beyond⟩ := readFlags_alike meaning union none ahead untouched
  exact ⟨congrArg (·.getD current) found, beyond⟩

theorem near_matrix : matrix.Near := by
  intro current fork tokens tokens' ahead untouched
  obtain ⟨values, beyond⟩ := readFloats_alike 16 [] ahead untouched
  exact ⟨congrArg Geometry.Mat4.ofColumns values, beyond⟩

theorem near_image : image.Near := by
  intro current fork tokens tokens' ahead untouched
  have untouchedPixels := untouched.of_suffix (skipPixels_suffix _ _)
  have untouchedComponents := untouchedPixels.of_suffix (Single.whole.take_suffix _)
  have untouchedHeight := untouchedComponents.of_suffix (Single.whole.take_suffix _)
  obtain ⟨width, behindWidth⟩ := Single.near_whole.take ahead untouchedHeight
  obtain ⟨height, behindHeight⟩ := Single.near_whole.take behindWidth untouchedComponents
  obtain ⟨-, onward⟩ := Single.near_whole.take behindHeight untouchedPixels
  refine ⟨rfl, ?_⟩
  simp only [image, skipImage, ← width, ← height]
  exact skipPixels_ahead _ onward untouched

end Values

/-! ### Fields -/

theorem Single.OfField.near {α : Type} {single : Single α} (own : single.OfField) :
    single.Near := by
  cases own with
  | float => exact near_float
  | whole => exact near_whole
  | truth => exact near_truth
  | text => exact near_text
  | keyword substitute meaning => exact near_keyword substitute meaning
  | vec2 => exact near_vec2
  | vec3 => exact near_vec3
  | vec4 => exact near_vec4

theorem ValueReader.OfField.near {α : Type} {reader : ValueReader α} (own : reader.OfField) :
    reader.Near := by
  cases own with
  | reader single => exact single.near.reader
  | list single => exact single.near.list
  | array single => exact single.near.array
  | flags meaning union => exact near_flags meaning union
  | matrix => exact near_matrix
  | image => exact near_image

theorem NodeType.near {name : String} {type : NodeType}
    (named : NodeType.named? name = some type) (field : Field type.Values)
    (member : field ∈ type.fields) : field.reader.Near :=
  (NodeType.ofField named field member).near

section Fields

variable {σ : Type} {fields : List (Field σ)} {fork : Fork} {tokens tokens' : List Token}

theorem Field.read_alike {field : Field σ} (near : field.reader.Near) (values : σ)
    (ahead : fork.Ahead tokens tokens') (untouched : fork.Untouched (field.read values tokens).2) :
    fork.Alike (field.read values tokens) (field.read values tokens') := by
  obtain ⟨value, beyond⟩ := near (field.get values) ahead untouched
  exact ⟨congrArg (field.set · values) value, beyond⟩

theorem skipValue_ahead (ahead : fork.Ahead tokens tokens')
    (untouched : fork.Untouched (skipValue tokens)) :
    fork.Ahead (skipValue tokens) (skipValue tokens') := by
  fun_cases skipValue tokens with
  | case1 =>
    obtain rfl := ahead.eq_nil
    exact ahead
  | case2 behind =>
    obtain ⟨behind', rfl⟩ := ahead.cons_iff.1 ⟨behind, rfl⟩
    exact ahead
  | case3 first behind noClose =>
    rw [skipValue.eq_3 _ _ noClose] at untouched
    obtain ⟨behind', rfl, onward⟩ := ahead.behind untouched
    rw [skipValue.eq_3 _ _ noClose]
    exact onward

theorem readFields_alike (near : ∀ field ∈ fields, field.reader.Near) (values : σ)
    (ahead : fork.Ahead tokens tokens')
    (untouched : fork.Untouched (readFields fields values tokens).2) :
    fork.Alike (readFields fields values tokens) (readFields fields values tokens') := by
  fun_induction readFields fields values tokens generalizing tokens' with
  | case1 values =>
    obtain rfl := ahead.eq_nil
    rw [readFields]
    exact ⟨rfl, ahead⟩
  | case2 values behind =>
    obtain ⟨behind', rfl, onward⟩ := ahead.behind untouched
    rw [readFields]
    exact ⟨rfl, onward⟩
  | case3 values name behind field named ih =>
    have untouchedValue := untouched.of_suffix (readFields_suffix fields _ _)
    obtain ⟨behind', rfl, onward⟩ :=
      ahead.behind (untouchedValue.of_suffix (field.read_suffix values behind))
    obtain ⟨read, beyond⟩ :=
      field.read_alike (near field (field_of_fieldOf? named)) values onward untouchedValue
    rw [readFields]
    simp only [named, ← read]
    exact ih beyond untouched
  | case4 values name behind unnamed ih =>
    have untouchedValue := untouched.of_suffix (readFields_suffix fields _ _)
    obtain ⟨behind', rfl, onward⟩ :=
      ahead.behind (untouchedValue.of_suffix (skipValue_suffix behind))
    rw [readFields]
    simp only [unnamed]
    exact ih (skipValue_ahead onward untouchedValue) untouched
  | case5 values first behind noClose noWord ih =>
    obtain ⟨behind', rfl, onward⟩ :=
      ahead.behind (untouched.of_suffix (readFields_suffix fields _ _))
    rw [readFields_stray noClose noWord]
    exact ih onward untouched

end Fields

/-! ### Blocks that are left out -/

section Blocks

variable {fork : Fork} {tokens tokens' : List Token}

theorem skipBlocks_ahead (depth : Nat) (ahead : fork.Ahead tokens tokens')
    (untouched : fork.Untouched (skipBlocks depth tokens)) :
    fork.Ahead (skipBlocks depth tokens) (skipBlocks depth tokens') := by
  fun_induction skipBlocks depth tokens generalizing tokens' with
  | case1 tokens => simpa [skipBlocks] using ahead
  | case2 depth inside =>
    obtain rfl := ahead.eq_nil
    rw [skipBlocks.eq_2 _ inside]
    exact ahead
  | case3 depth behind ih =>
    obtain ⟨behind', rfl, onward⟩ := ahead.behind (untouched.of_suffix (skipBlocks_suffix _ _))
    exact ih onward untouched
  | case4 depth behind ih =>
    obtain ⟨behind', rfl, onward⟩ := ahead.behind (untouched.of_suffix (skipBlocks_suffix _ _))
    exact ih onward untouched
  | case5 depth first behind noOpen noClose ih =>
    obtain ⟨behind', rfl, onward⟩ := ahead.behind (untouched.of_suffix (skipBlocks_suffix _ _))
    rw [skipBlocks.eq_5 _ _ _ noOpen noClose]
    exact ih onward untouched

theorem skipBlock_ahead (ahead : fork.Ahead tokens tokens')
    (untouched : fork.Untouched (skipBlock tokens)) :
    fork.Ahead (skipBlock tokens) (skipBlock tokens') := by
  fun_cases skipBlock tokens with
  | case1 inside =>
    obtain ⟨inside', rfl, onward⟩ := ahead.behind (untouched.of_suffix (skipBlocks_suffix 1 inside))
    exact skipBlocks_ahead 1 onward untouched
  | case2 tokens noBlock =>
    rw [skipBlock.eq_2 _ (ahead.ne_cons noBlock)]
    exact ahead

end Blocks

/-! ### Nodes -/

theorem bodyAt_suffix {σ : Type} (fields : List (Field σ)) (values : σ) (found : List Form)
    (tokens : List Token) : (bodyAt fields values found tokens).2 <:+ tokens :=
  (readChildren fields values found tokens).2.2

/-- What a node or a body is read as, and where it ends, is told in front of the token
    behind the next one that is left. -/
theorem formAt_alike_and_bodyAt_alike :
    (∀ (first : Token) (tokens : List Token), ∀ {fork : Fork} {tokens' : List Token},
      fork.Ahead tokens tokens' → fork.Untouched (formAt first tokens).2 →
      fork.Alike (formAt first tokens) (formAt first tokens')) ∧
    (∀ (σ : Type) (fields : List (Field σ)) (values : σ) (found : List Form)
      (tokens : List Token), (∀ field ∈ fields, field.reader.Near) →
      ∀ {fork : Fork} {tokens' : List Token}, fork.Ahead tokens tokens' →
      fork.Untouched (bodyAt fields values found tokens).2 →
      fork.Alike (bodyAt fields values found tokens) (bodyAt fields values found tokens')) := by
  apply readForm.mutual_induct
  case case1 =>
    intro name next behind starts _ _ _ ih fork tokens' ahead untouched
    rw [formAt_define starts] at untouched
    have untouchedBehind := untouched.of_suffix (formAt_suffix next behind)
    have untouchedNext := untouchedBehind.of_suffix (List.suffix_cons next behind)
    obtain ⟨_, rfl, onward⟩ := ahead.behind untouchedNext
    obtain ⟨behind', rfl, beyond⟩ := onward.behind untouchedBehind
    obtain ⟨form, stop⟩ := ih beyond untouched
    rw [formAt_define starts, formAt_define starts, form]
    exact ⟨rfl, stop⟩
  case case2 =>
    intro name next behind stops fork tokens' ahead untouched
    rw [formAt_define_stop stops] at untouched
    obtain ⟨_, rfl, onward⟩ := ahead.behind untouched
    obtain ⟨behind', rfl⟩ := onward.cons_iff.1 ⟨behind, rfl⟩
    rw [formAt_define_stop stops, formAt_define_stop stops]
    exact ⟨rfl, onward⟩
  case case3 =>
    intro text fork tokens' ahead untouched
    rw [formAt_define_end] at untouched
    obtain ⟨_, rfl, onward⟩ := ahead.behind untouched
    obtain rfl := onward.eq_nil
    rw [formAt_define_end]
    exact ⟨rfl, onward⟩
  case case4 =>
    intro tokens noNode noName fork tokens' ahead untouched
    have absent : ∀ name behind, tokens ≠ .word name :: behind := by
      rintro name (_ | ⟨next, behind⟩) rfl
      · exact noName name rfl
      · exact noNode name next behind rfl
    rw [formAt_define_unnamed absent, formAt_define_unnamed fun name => ahead.ne_cons (absent name)]
    exact ⟨rfl, ahead⟩
  case case5 =>
    intro name behind fork tokens' ahead untouched
    rw [formAt_reuse] at untouched
    obtain ⟨behind', rfl, onward⟩ := ahead.behind untouched
    rw [formAt_reuse, formAt_reuse]
    exact ⟨rfl, onward⟩
  case case6 =>
    intro tokens noName fork tokens' ahead untouched
    rw [formAt_reuse_unnamed noName, formAt_reuse_unnamed fun name => ahead.ne_cons (noName name)]
    exact ⟨rfl, ahead⟩
  case case7 =>
    intro tokens typeName unknown fork tokens' ahead untouched
    rw [formAt_unknown unknown] at untouched
    rw [formAt_unknown unknown, formAt_unknown unknown]
    exact ⟨rfl, skipBlock_ahead ahead untouched⟩
  case case8 =>
    intro typeName type known tokens parent _ _ _ _ ih fork tokens' ahead untouched
    rw [formAt_parent known parent] at untouched
    obtain ⟨behind', rfl, onward⟩ := ahead.behind (untouched.of_suffix (bodyAt_suffix _ _ _ tokens))
    obtain ⟨body, stop⟩ := ih (NodeType.near known) onward untouched
    rw [formAt_parent known parent, formAt_parent known parent, body]
    exact ⟨rfl, stop⟩
  case case9 =>
    intro typeName type known tokens single fork tokens' ahead untouched
    have single : type.parent = false := by simpa using single
    rw [formAt_single known single] at untouched
    obtain ⟨behind', rfl, onward⟩ := ahead.behind (untouched.of_suffix (readFields_suffix _ _ tokens))
    obtain ⟨values, stop⟩ := readFields_alike (NodeType.near known) type.initial onward untouched
    rw [formAt_single known single, formAt_single known single, values]
    exact ⟨rfl, stop⟩
  case case10 =>
    intro typeName type known tokens noBody fork tokens' ahead untouched
    rw [formAt_bare known noBody, formAt_bare known (ahead.ne_cons noBody)]
    exact ⟨rfl, ahead⟩
  case case11 =>
    intro first tokens noDefine noReuse noWord fork tokens' ahead untouched
    have noNode : startsNode first = false := by
      cases first with
      | define => exact absurd rfl noDefine
      | reuse => exact absurd rfl noReuse
      | word text => exact absurd rfl (noWord text)
      | _ => rfl
    rw [formAt_none noNode, formAt_none noNode]
    exact ⟨rfl, ahead⟩
  case case12 =>
    intro σ fields values found near fork tokens' ahead untouched
    obtain rfl := ahead.eq_nil
    rw [bodyAt_end]
    exact ⟨rfl, ahead⟩
  case case13 =>
    intro σ fields values found tokens near fork tokens' ahead untouched
    rw [bodyAt_close] at untouched
    obtain ⟨behind', rfl, onward⟩ := ahead.behind untouched
    rw [bodyAt_close, bodyAt_close]
    exact ⟨rfl, onward⟩
  case case14 =>
    intro σ fields values found head tokens inside field named _ _ _ ih near fork tokens' ahead
      untouched
    rw [bodyAt_field named] at untouched
    have untouchedValue := untouched.of_suffix (bodyAt_suffix fields _ found _)
    obtain ⟨behind', rfl, onward⟩ :=
      ahead.behind (untouchedValue.of_suffix (field.read_suffix values tokens))
    obtain ⟨read, beyond⟩ :=
      field.read_alike (near field (field_of_fieldOf? named)) values onward untouchedValue
    rw [bodyAt_field named, bodyAt_field named, ← read]
    exact ih near beyond untouched
  case case15 =>
    intro σ fields values found head tokens inside unnamed form rest read _ _ _ ih ihRest near fork
      tokens' ahead untouched
    have answer : formAt head tokens = (form, rest.1) := by rw [formAt, read]
    rw [bodyAt_form inside unnamed] at untouched
    have untouchedForm := untouched.of_suffix (bodyAt_suffix fields _ _ _)
    obtain ⟨behind', rfl, onward⟩ :=
      ahead.behind (untouchedForm.of_suffix (formAt_suffix head tokens))
    obtain ⟨own, beyond⟩ := ih onward untouchedForm
    rw [bodyAt_form inside unnamed, bodyAt_form inside unnamed, ← own]
    rw [answer] at beyond untouched ⊢
    exact ihRest near beyond untouched

end VrmlWorld.Document
