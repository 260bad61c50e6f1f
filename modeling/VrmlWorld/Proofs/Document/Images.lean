/-
  VrmlWorld/Proofs/Document/Images.lean
  =====================================
  **An image among the fields of a texture is left out.**

  Nothing is kept of an image, so reading has to find its end, and does so by counting
  pixels. A decimal pixel is one token, a hexadecimal one is a zero and a word that
  starts with an `x`. The count comes out behind the last pixel, except where that is
  decimal and such a word follows by chance: it takes the word too
  (`skipPixels_append`). Up to this, a texture is read as if it had no image
  (`formAt_texture_image`).
-/
import VrmlWorld.Number.Digit
import VrmlWorld.Proofs.Document.LineBreaks
import VrmlWorld.Proofs.Document.Reading

namespace VrmlWorld.Document

/-! ### Pixels -/

/-- How a pixel is written. -/
inductive PixelForm where
  | decimal
  | hexadecimal
deriving DecidableEq, Repr

/-- The tokens of pixels of some forms. -/
inductive PixelTokens : List PixelForm → List Token → Prop where
  | nil : PixelTokens [] []
  | decimal {value : Float} {forms : List PixelForm} {pixels : List Token}
      (more : PixelTokens forms pixels) : PixelTokens (.decimal :: forms) (.number value :: pixels)
  | hexadecimal {value : Float} {digits : String} {forms : List PixelForm} {pixels : List Token}
      (continues : continuesPixel digits = true) (more : PixelTokens forms pixels) :
      PixelTokens (.hexadecimal :: forms) (.number value :: .word digits :: pixels)

/-- Whether the first one of some tokens can be the second half of a pixel. -/
def startsAsDigits : List Token → Bool
  | .word text :: _ => continuesPixel text
  | _ => false

/-- Whether pixels run into what stands behind them: the last one is a whole pixel
    already, but goes on as if it was not. -/
def RunInto (forms : List PixelForm) (behind : List Token) : Prop :=
  forms.getLast? = some .decimal ∧ startsAsDigits behind = true

instance (forms : List PixelForm) (behind : List Token) : Decidable (RunInto forms behind) :=
  inferInstanceAs (Decidable (_ ∧ _))

theorem skipPixels_succ (count : Nat) (value : Float) (behind : List Token) :
    skipPixels (count + 1) (.number value :: behind) =
      skipPixels count (if startsAsDigits behind then behind.tail else behind) := by
  unfold startsAsDigits
  split
  · rw [skipPixels]
    split <;> rfl
  · rename_i noWord
    rw [skipPixels.eq_2 _ _ _ noWord, if_neg Bool.false_ne_true]

theorem PixelTokens.startsAsDigits_append {forms : List PixelForm} {pixels : List Token}
    (written : PixelTokens forms pixels) (nonempty : forms ≠ []) (behind : List Token) :
    startsAsDigits (pixels ++ behind) = false := by
  cases written with
  | nil => exact absurd rfl nonempty
  | decimal => rfl
  | hexadecimal => rfl

theorem runInto_cons {forms : List PixelForm} (nonempty : forms ≠ []) (form : PixelForm)
    (behind : List Token) : RunInto (form :: forms) behind ↔ RunInto forms behind := by
  rw [RunInto, RunInto, List.getLast?_cons_of_ne_nil nonempty]

/-- Counting pixels ends behind the last one, or behind a word that this one runs into. -/
theorem skipPixels_append {forms : List PixelForm} {pixels : List Token}
    (written : PixelTokens forms pixels) (behind : List Token) :
    skipPixels forms.length (pixels ++ behind) =
      if RunInto forms behind then behind.tail else behind := by
  induction written with
  | nil => simp [skipPixels, RunInto]
  | @decimal value forms pixels more ih =>
    -- Behind any pixel but the last there is a number, and no pixel runs into that.
    rw [List.length_cons, List.cons_append, skipPixels_succ]
    by_cases last : forms = []
    · subst last
      cases more
      simp [skipPixels, RunInto]
    · rw [more.startsAsDigits_append last, if_neg Bool.false_ne_true, ih]
      simp only [runInto_cons last]
  | @hexadecimal value digits forms pixels continues more ih =>
    have second : startsAsDigits (.word digits :: (pixels ++ behind)) = true := continues
    rw [List.length_cons, List.cons_append, List.cons_append, skipPixels_succ, if_pos second,
      List.tail_cons, ih]
    by_cases last : forms = []
    · subst last
      simp [RunInto]
    · simp only [runInto_cons last]

/-! ### Fields of a texture -/

/-- The tokens of an image: its width, height and number of components, and a pixel for
    each place. -/
inductive ImageTokens (width height : Nat) (forms : List PixelForm) : List Token → Prop where
  | intro {wide high components : Float} {pixels : List Token}
      (isWidth : Number.wholeOfDouble wide = width)
      (isHeight : Number.wholeOfDouble high = height)
      (count : forms.length = width * height) (written : PixelTokens forms pixels) :
      ImageTokens width height forms
        (.word "image" :: .number wide :: .number high :: .number components :: pixels)

/-- A field whose value can be any word has one token behind its name, if only to be
    left out. -/
theorem exists_readFields_ofToken {σ α : Type} {fields : List (Field σ)} {values : σ}
    {name : String} {first : Token} {substitute : α} {value? : Token → Option α} {get : σ → α}
    {set : α → σ → σ}
    (named : fieldOf? fields (.word name) =
      some ⟨name, (Single.ofToken substitute value?).reader, get, set⟩)
    (words : ∀ text, (value? (.word text)).isSome) (inside : first ≠ .closeBrace) :
    ∃ values', ∀ behind, readFields fields values (.word name :: first :: behind) =
      readFields fields values' behind := by
  cases read : value? first with
  | some value =>
    refine ⟨set value values, fun behind => ?_⟩
    rw [readFields_known named]
    simp [Field.read, Single.reader, Single.take, Single.ofToken, read]
  | none =>
    refine ⟨set substitute values, fun behind => ?_⟩
    have noWord : ∀ text, first ≠ .word text := by
      rintro text rfl
      have word := words text
      rw [read] at word
      cases word
    rw [readFields_known named]
    simpa [Field.read, Single.reader, Single.take, Single.ofToken, read] using
      readFields_stray inside noWord

section Texture

variable {width height : Nat} {forms : List PixelForm} {tokens before behind : List Token}

theorem readFields_image (written : ImageTokens width height forms tokens)
    (values : NodeType.texture2.Values) (behind : List Token) :
    readFields NodeType.texture2.fields values (tokens ++ behind) =
      readFields NodeType.texture2.fields values
        (if RunInto forms behind then behind.tail else behind) := by
  obtain ⟨isWidth, isHeight, count, written⟩ := written
  rename_i wide high components pixels
  have announced : (Number.wholeOfDouble wide).toNat * (Number.wholeOfDouble high).toNat =
      forms.length := by
    rw [isWidth, isHeight, Int.toNat_natCast, Int.toNat_natCast, count]
  have named : fieldOf? NodeType.texture2.fields (.word "image") =
      some ⟨"image", image, fun _ => (), fun _ values => values⟩ := rfl
  rw [← skipPixels_append written, ← announced]
  exact readFields_known named

/-- A field other than an image has a token behind its name, whatever that is. -/
theorem exists_readFields_field {name : String} {first : Token} (noImage : name ≠ "image")
    (inside : first ≠ .closeBrace) (values : NodeType.texture2.Values) :
    ∃ values', ∀ behind,
      readFields NodeType.texture2.fields values (.word name :: first :: behind) =
        readFields NodeType.texture2.fields values' behind := by
  by_cases filename : name = "filename"
  · subst filename
    exact exists_readFields_ofToken rfl (fun _ => rfl) inside
  by_cases wrapS : name = "wrapS"
  · subst wrapS
    exact exists_readFields_ofToken rfl (fun _ => rfl) inside
  by_cases wrapT : name = "wrapT"
  · subst wrapT
    exact exists_readFields_ofToken rfl (fun _ => rfl) inside
  have unnamed : fieldOf? NodeType.texture2.fields (.word name) = none := by
    simp [fieldOf?, NodeType.texture2, Ne.symm noImage, Ne.symm filename, Ne.symm wrapS,
      Ne.symm wrapT]
  exact ⟨values, fun _ => readFields_unknown unnamed inside⟩

/-- Tokens that are whole fields of a texture, if others follow behind. What is left
    over of a longer value stands among them, and so may further images. -/
inductive TextureFields (behind : List Token) : List Token → Prop where
  | nil : TextureFields behind []
  | field {name : String} {value : Token} {others : List Token} (noImage : name ≠ "image")
      (inside : value ≠ .closeBrace) (more : TextureFields behind others) :
      TextureFields behind (.word name :: value :: others)
  | stray {first : Token} {others : List Token} (inside : first ≠ .closeBrace)
      (noWord : ∀ name, first ≠ .word name) (more : TextureFields behind others) :
      TextureFields behind (first :: others)
  | image {width height : Nat} {forms : List PixelForm} {image others : List Token}
      (written : ImageTokens width height forms image) (apart : ¬ RunInto forms (others ++ behind))
      (more : TextureFields behind others) : TextureFields behind (image ++ others)

/-- What whole fields say does not depend on what stands behind them, unless they run
    into that. -/
theorem TextureFields.exists_readFields (whole : TextureFields behind before)
    (values : NodeType.texture2.Values) :
    ∃ values', ∀ other, (startsAsDigits other = true → startsAsDigits behind = true) →
      readFields NodeType.texture2.fields values (before ++ other) =
        readFields NodeType.texture2.fields values' other := by
  induction whole generalizing values with
  | nil => exact ⟨values, fun _ _ => rfl⟩
  | field noImage inside more ih =>
    obtain ⟨between, first⟩ := exists_readFields_field noImage inside values
    obtain ⟨values', others⟩ := ih between
    exact ⟨values', fun other apart => (first _).trans (others other apart)⟩
  | stray inside noWord more ih =>
    obtain ⟨values', others⟩ := ih values
    exact ⟨values', fun other apart => (readFields_stray inside noWord).trans (others other apart)⟩
  | @image _ _ forms image others written apart more ih =>
    obtain ⟨values', readOthers⟩ := ih values
    refine ⟨values', fun other keepsApart => ?_⟩
    -- The image meets what follows the fields only if it is the last of them.
    have apart' : ¬ RunInto forms (others ++ other) := by
      rintro ⟨decimal, runs⟩
      apply apart
      refine ⟨decimal, ?_⟩
      rcases others with _ | ⟨first, others⟩
      · exact keepsApart runs
      · cases first <;> exact runs
    rw [List.append_assoc, readFields_image written, if_neg apart']
    exact readOthers other keepsApart

/-- A texture with an image behind some fields is that without, and the same tokens are
    left; but a word that the image runs into is gone. -/
theorem formAt_of_image (whole : TextureFields behind before)
    (written : ImageTokens width height forms tokens) :
    formAt (.word "Texture2") (.openBrace :: (before ++ (tokens ++ behind))) =
      formAt (.word "Texture2")
        (.openBrace :: (before ++ if RunInto forms behind then behind.tail else behind)) := by
  have known : NodeType.named? "Texture2" = some NodeType.texture2 := rfl
  obtain ⟨values, read⟩ := whole.exists_readFields NodeType.texture2.initial
  have onward : startsAsDigits (if RunInto forms behind then behind.tail else behind) = true →
      startsAsDigits behind = true := by
    split
    · rename_i runs
      exact fun _ => runs.2
    · exact id
  have atImage : startsAsDigits (tokens ++ behind) = true → startsAsDigits behind = true := by
    obtain ⟨-, -, -, -⟩ := written
    rintro ⟨⟩
  rw [formAt_single known rfl, formAt_single known rfl, read _ atImage, read _ onward,
    readFields_image written values]

end Texture

/-! ### Images in a text -/

/-- The tokens that a text begins with, and what is unread behind them. -/
inductive Begins : List Token → List Char → List Char → Prop where
  | nil {text : List Char} : Begins [] text text
  | cons {token : Token} {others : List Token} {before lexeme behind rest : List Char}
      (gap : Gap before) (first : Lexeme token lexeme)
      (apart : ∀ c, behind.head? = some c → token.runsOn c = false)
      (more : Begins others behind rest) :
      Begins (token :: others) (before ++ (lexeme ++ behind)) rest

namespace Begins

variable {front others : List Token} {text middle rest : List Char}

theorem append (first : Begins front text middle) (second : Begins others middle rest) :
    Begins (front ++ others) text rest := by
  induction first with
  | nil => exact second
  | cons gap first apart more ih => exact .cons gap first apart (ih second)

theorem tokens_eq (begins : Begins front text rest) (line : Nat) :
    Cursor.tokens ⟨text, line⟩ = front ++ Cursor.tokens ⟨rest, line⟩ := by
  induction begins generalizing line with
  | nil => rfl
  | @cons token others before lexeme behind rest gap first apart more ih =>
    obtain ⟨line', step⟩ := Cursor.next_token gap first apart line
    rw [Cursor.tokens_of_next_eq_some step, ih, List.cons_append, Cursor.tokens_congr rest line' line]

end Begins

/-- The characters of one pixel. -/
inductive PixelLexeme : PixelForm → List Char → Prop where
  | decimal {text : List Char} {numeral : Number.Numeral}
      (read : Number.Numeral.ofChars? text = some numeral) : PixelLexeme .decimal text
  | hexadecimal {mark : Char} {digits : List Char} (isMark : mark = 'x' ∨ mark = 'X')
      (inBase : digits.all (Number.isDigitOf 16) = true) :
      PixelLexeme .hexadecimal ('0' :: mark :: digits)

/-- Whether a character behind a pixel would be read as a part of it. -/
def PixelForm.runsOn : PixelForm → Char → Bool
  | .decimal => isNumberChar
  | .hexadecimal => isWordChar

/-- The pixels that a text begins with, and what is unread behind them. -/
inductive BeginsPixels : List PixelForm → List Char → List Char → Prop where
  | nil {text : List Char} : BeginsPixels [] text text
  | cons {form : PixelForm} {forms : List PixelForm} {before lexeme behind rest : List Char}
      (gap : Gap before) (first : PixelLexeme form lexeme)
      (apart : ∀ c, behind.head? = some c → form.runsOn c = false)
      (more : BeginsPixels forms behind rest) :
      BeginsPixels (form :: forms) (before ++ (lexeme ++ behind)) rest

theorem isWordChar_of_isDigitOf {c : Char} (digit : Number.isDigitOf 16 c = true) :
    isWordChar c = true := by
  have digits : ('0' ≤ c ∧ c ≤ '9') ∨ ('a' ≤ c ∧ c ≤ 'f') ∨ 'A' ≤ c ∧ c ≤ 'F' := by
    by_contra none
    obtain ⟨noDecimal, noLetter⟩ := not_or.1 none
    obtain ⟨noLower, noUpper⟩ := not_or.1 noLetter
    rw [Number.isDigitOf, Number.digitValue?, if_neg noDecimal, if_neg noLower,
      if_neg noUpper] at digit
    cases digit
  have alphabetic (ascii : c.toNat < 128) (letter : c.isAlpha = true) : isWordChar c = true := by
    simp [isWordChar, Text.isAlphabetic, ascii, letter]
  rcases digits with ⟨least, most⟩ | ⟨least, most⟩ | ⟨least, most⟩
  · have ascii : c.toNat < 128 := Nat.lt_of_le_of_lt (m := 57) most (by decide)
    have decimal : c.isDigit = true :=
      Bool.and_eq_true_iff.2 ⟨decide_eq_true least, decide_eq_true most⟩
    simp [isWordChar, Text.isNumeric, ascii, decimal]
  · have ascii : c.toNat < 128 := Nat.lt_of_le_of_lt (m := 102) most (by decide)
    have lower : c.isLower = true :=
      Bool.and_eq_true_iff.2
        ⟨decide_eq_true least, decide_eq_true (Nat.le_trans most (by decide))⟩
    exact alphabetic ascii (Bool.or_eq_true_iff.2 (.inr lower))
  · have ascii : c.toNat < 128 := Nat.lt_of_le_of_lt (m := 70) most (by decide)
    have upper : c.isUpper = true := decide_eq_true ⟨least, Nat.le_trans most (by decide)⟩
    exact alphabetic ascii (Bool.or_eq_true_iff.2 (.inl upper))

/-- A hexadecimal pixel is read as a zero and a word. -/
theorem Begins.hexadecimal {mark : Char} {digits before behind : List Char}
    (gap : Gap before) (isMark : mark = 'x' ∨ mark = 'X')
    (inBase : digits.all (Number.isDigitOf 16) = true)
    (apart : ∀ c, behind.head? = some c → isWordChar c = false) :
    Begins [.number (⟨false, 0, 0⟩ : Number.Numeral).toDouble, .word (String.ofList (mark :: digits))]
      (before ++ ('0' :: mark :: digits ++ behind)) behind := by
  have zero : Lexeme (.number (⟨false, 0, 0⟩ : Number.Numeral).toDouble) ['0'] := .number rfl
  have unlike (name : String) (other : name.toList.head? ≠ some mark) :
      String.ofList (mark :: digits) ≠ name := by
    rintro rfl
    rw [String.toList_ofList] at other
    exact other rfl
  have word : Lexeme (.word (String.ofList (mark :: digits))) (mark :: digits) := by
    apply Lexeme.word String.toList_ofList
    · rcases isMark with rfl | rfl <;> decide
    · rw [List.all_eq_true] at inBase ⊢
      exact fun c member => isWordChar_of_isDigitOf (inBase c member)
    · apply unlike
      rcases isMark with rfl | rfl <;> decide
    · apply unlike
      rcases isMark with rfl | rfl <;> decide
  have second : Begins [.word (String.ofList (mark :: digits))] (mark :: digits ++ behind) behind :=
    .cons .nil word apart .nil
  have noNumber : ∀ c, (mark :: digits ++ behind).head? = some c → isNumberChar c = false := by
    rintro c ⟨⟩
    rcases isMark with rfl | rfl <;> decide
  have begins := Begins.cons gap zero noNumber second
  exact begins

theorem BeginsPixels.exists_tokens {forms : List PixelForm} {text rest : List Char}
    (begins : BeginsPixels forms text rest) :
    ∃ pixels, PixelTokens forms pixels ∧ Begins pixels text rest := by
  induction begins with
  | nil => exact ⟨[], .nil, .nil⟩
  | @cons form forms before lexeme behind rest gap first apart more ih =>
    obtain ⟨pixels, written, begins⟩ := ih
    cases first with
    | decimal read => exact ⟨_, .decimal written, .cons gap (.number read) apart begins⟩
    | @hexadecimal mark digits isMark inBase =>
      have continues : continuesPixel (String.ofList (mark :: digits)) = true := by
        rw [continuesPixel, String.toList_ofList]
        rcases isMark with rfl | rfl <;> rfl
      exact ⟨_, .hexadecimal continues written,
        (Begins.hexadecimal gap isMark inBase apart).append begins⟩

/-- An image that a text begins with, and what is unread behind it. -/
inductive BeginsImage (width height : Nat) (forms : List PixelForm) (text rest : List Char) :
    Prop where
  | intro {wide high components : Float} {pixels : List Char}
      (head : Begins [.word "image", .number wide, .number high, .number components] text pixels)
      (isWidth : Number.wholeOfDouble wide = width)
      (isHeight : Number.wholeOfDouble high = height)
      (count : forms.length = width * height) (written : BeginsPixels forms pixels rest)

theorem BeginsImage.exists_tokens {width height : Nat} {forms : List PixelForm}
    {text rest : List Char} (begins : BeginsImage width height forms text rest) :
    ∃ image, ImageTokens width height forms image ∧ Begins image text rest := by
  obtain ⟨head, isWidth, isHeight, count, written⟩ := begins
  obtain ⟨pixels, tokens, begins⟩ := written.exists_tokens
  exact ⟨_, .intro isWidth isHeight count tokens, head.append begins⟩

/-- A texture with an image behind some fields is read as that without, and reading goes
    on at the same token. Only if the last pixel is decimal and a word with an `x` in
    front stands behind it, that word is taken for the second half of a pixel. -/
theorem formAt_texture_image {width height : Nat} {forms : List PixelForm} {before : List Token}
    {text rest : List Char} {line : Nat}
    (whole : TextureFields (Cursor.tokens ⟨rest, line⟩) before)
    (image : BeginsImage width height forms text rest) :
    (¬ RunInto forms (Cursor.tokens ⟨rest, line⟩) →
      formAt (.word "Texture2") (.openBrace :: (before ++ Cursor.tokens ⟨text, line⟩)) =
        formAt (.word "Texture2") (.openBrace :: (before ++ Cursor.tokens ⟨rest, line⟩))) ∧
    (RunInto forms (Cursor.tokens ⟨rest, line⟩) →
      formAt (.word "Texture2") (.openBrace :: (before ++ Cursor.tokens ⟨text, line⟩)) =
        formAt (.word "Texture2")
          (.openBrace :: (before ++ (Cursor.tokens ⟨rest, line⟩).tail))) := by
  obtain ⟨tokens, written, begins⟩ := image.exists_tokens
  rw [begins.tokens_eq, formAt_of_image whole written]
  constructor
  · intro apart
    rw [if_neg apart]
  · intro runs
    rw [if_pos runs]

theorem lexeme_image : Lexeme (.word "image") ['i', 'm', 'a', 'g', 'e'] :=
  .word rfl (by decide) (by decide) (by decide) (by decide)

theorem lexeme_one : Lexeme (.number (⟨false, 1, 0⟩ : Number.Numeral).toDouble) ['1'] :=
  .number rfl

/-- A decimal and a hexadecimal pixel between two fields. -/
theorem formAt_texture_image_of_two_pixels :
    TextureFields (Cursor.tokens ⟨" wrapS CLAMP\x7d".toList, 1⟩)
        [.word "filename", .quoted "a.png"] ∧
      BeginsImage 2 1 [.decimal, .hexadecimal] " image 2 1 3 255 0XfF wrapS CLAMP\x7d".toList
        " wrapS CLAMP\x7d".toList ∧
      formAt (.word "Texture2") (.openBrace :: ([.word "filename", .quoted "a.png"] ++
          Cursor.tokens ⟨" image 2 1 3 255 0XfF wrapS CLAMP\x7d".toList, 1⟩)) =
        formAt (.word "Texture2") (.openBrace :: ([.word "filename", .quoted "a.png"] ++
          Cursor.tokens ⟨" wrapS CLAMP\x7d".toList, 1⟩)) := by
  have whole : TextureFields (Cursor.tokens ⟨" wrapS CLAMP\x7d".toList, 1⟩)
      [.word "filename", .quoted "a.png"] := .field (by decide) (by simp) .nil
  have image : BeginsImage 2 1 [.decimal, .hexadecimal]
      " image 2 1 3 255 0XfF wrapS CLAMP\x7d".toList " wrapS CLAMP\x7d".toList := by
    have two : Lexeme (.number (⟨false, 2, 0⟩ : Number.Numeral).toDouble) ['2'] := .number rfl
    have three : Lexeme (.number (⟨false, 3, 0⟩ : Number.Numeral).toDouble) ['3'] := .number rfl
    have head := Begins.cons gap_blank lexeme_image (by rintro c ⟨⟩; decide) <|
      .cons gap_blank two (by rintro c ⟨⟩; decide) <|
      .cons gap_blank lexeme_one (by rintro c ⟨⟩; decide) <|
      .cons gap_blank three (by rintro c ⟨⟩; decide) <|
      (Begins.nil : Begins [] " 255 0XfF wrapS CLAMP\x7d".toList _)
    have decimal : PixelLexeme .decimal ['2', '5', '5'] := .decimal rfl
    have hexadecimal : PixelLexeme .hexadecimal ['0', 'X', 'f', 'F'] :=
      .hexadecimal (.inr rfl) (by decide)
    have pixels : BeginsPixels [.decimal, .hexadecimal] " 255 0XfF wrapS CLAMP\x7d".toList
        " wrapS CLAMP\x7d".toList :=
      .cons gap_blank decimal (by rintro c ⟨⟩; decide) <|
      .cons gap_blank hexadecimal (by rintro c ⟨⟩; decide) .nil
    exact .intro head (by decide +kernel) (by decide +kernel) rfl pixels
  have apart : ¬ RunInto [.decimal, .hexadecimal]
      (Cursor.tokens ⟨" wrapS CLAMP\x7d".toList, 1⟩) := by
    rintro ⟨⟨⟩, -⟩
  exact ⟨whole, image, (formAt_texture_image whole image).1 apart⟩

theorem tokens_x_word : Cursor.tokens ⟨" xWrap CLAMP filename \"a.png\"\x7d".toList, 1⟩ =
    [.word "xWrap", .word "CLAMP", .word "filename", .quoted "a.png", .closeBrace] := by
  decide +kernel

/-- One decimal pixel, and behind it a field that no texture has. Its value is taken for
    its name then, and the name of the file for the value of that. -/
theorem formAt_image_before_x_word :
    BeginsImage 1 1 [.decimal] " image 1 1 1 255 xWrap CLAMP filename \"a.png\"\x7d".toList
        " xWrap CLAMP filename \"a.png\"\x7d".toList ∧
      formAt (.word "Texture2") (.openBrace ::
          Cursor.tokens ⟨" image 1 1 1 255 xWrap CLAMP filename \"a.png\"\x7d".toList, 1⟩) =
        (some (.node (.texture2 {}) []), []) ∧
      formAt (.word "Texture2") (.openBrace ::
          Cursor.tokens ⟨" xWrap CLAMP filename \"a.png\"\x7d".toList, 1⟩) =
        (some (.node (.texture2 { filename := "a.png" }) []), []) := by
  have image : BeginsImage 1 1 [.decimal]
      " image 1 1 1 255 xWrap CLAMP filename \"a.png\"\x7d".toList
      " xWrap CLAMP filename \"a.png\"\x7d".toList := by
    have head := Begins.cons gap_blank lexeme_image (by rintro c ⟨⟩; decide) <|
      .cons gap_blank lexeme_one (by rintro c ⟨⟩; decide) <|
      .cons gap_blank lexeme_one (by rintro c ⟨⟩; decide) <|
      .cons gap_blank lexeme_one (by rintro c ⟨⟩; decide) <|
      (Begins.nil : Begins [] " 255 xWrap CLAMP filename \"a.png\"\x7d".toList _)
    have decimal : PixelLexeme .decimal ['2', '5', '5'] := .decimal rfl
    have pixel : BeginsPixels [.decimal] " 255 xWrap CLAMP filename \"a.png\"\x7d".toList
        " xWrap CLAMP filename \"a.png\"\x7d".toList :=
      .cons gap_blank decimal (by rintro c ⟨⟩; decide) .nil
    exact .intro head (by decide +kernel) (by decide +kernel) rfl pixel
  have known : NodeType.named? "Texture2" = some NodeType.texture2 := rfl
  obtain ⟨tokens, written, begins⟩ := image.exists_tokens
  refine ⟨image, ?_, ?_⟩
  · have noField : fieldOf? NodeType.texture2.fields (.word "CLAMP") = none := rfl
    have runs : RunInto [.decimal]
        (Cursor.tokens ⟨" xWrap CLAMP filename \"a.png\"\x7d".toList, 1⟩) := by
      rw [tokens_x_word]
      exact ⟨rfl, rfl⟩
    rw [begins.tokens_eq]
    refine (formAt_of_image .nil written).trans ?_
    rw [if_pos runs, tokens_x_word, List.nil_append, List.tail_cons, formAt_single known rfl,
      readFields_unknown noField (by simp), readFields_stray (by simp) (by simp), readFields]
    rfl
  · have noField : fieldOf? NodeType.texture2.fields (.word "xWrap") = none := rfl
    have named : fieldOf? NodeType.texture2.fields (.word "filename") =
        some ⟨"filename", Single.text.reader, (·.filename),
          fun filename values => { values with filename }⟩ := rfl
    have file : readFields NodeType.texture2.fields NodeType.texture2.initial
        [.word "filename", .quoted "a.png", .closeBrace] = ({ filename := "a.png" }, []) :=
      (readFields_known named).trans (readFields.eq_2 ..)
    rw [tokens_x_word, formAt_single known rfl, readFields_unknown noField (by simp), file]
    rfl

end VrmlWorld.Document
