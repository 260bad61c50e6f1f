/-
  VrmlWorld/Proofs/Document/Spelling.lean
  =======================================
  **How tokens are spelled, and that a spelling is read back.**

  Reading characters is a function; writing is a choice. Between tokens there
  may be blanks, commas and comments, a text may escape any of its characters,
  and a number has many numerals. `Spells` relates tokens to all their
  spellings. Two tokens may touch unless the first would run on into the
  second, and every spelling reads as the tokens it spells (`tokens_of_spells`).
-/
import Mathlib.Data.List.TakeDrop
import Mathlib.Data.List.TakeWhile
import VrmlWorld.Document.Lexer
import VrmlWorld.Proofs.Text.Runs

namespace VrmlWorld.Document

open Number

/-! ### Spellings -/

/-- What may stand between tokens: characters that start none, and comments,
    each with the end of its line. -/
inductive Gap : List Char → Prop where
  | nil : Gap []
  | blank {c : Char} {rest : List Char} (noToken : startsToken c = false) (noComment : c ≠ '#')
      (more : Gap rest) : Gap (c :: rest)
  | comment {hidden rest : List Char} (oneLine : '\n' ∉ hidden) (more : Gap rest) :
      Gap ('#' :: (hidden ++ '\n' :: rest))

/-- What may stand behind the last token: a gap, and perhaps a comment that ends
    with the file. -/
inductive Trailing : List Char → Prop where
  | gap {text : List Char} (gap : Gap text) : Trailing text
  | comment {before hidden : List Char} (gap : Gap before) (oneLine : '\n' ∉ hidden) :
      Trailing (before ++ '#' :: hidden)

/-- The inside of the quotes around a text: quotes and backslashes are escaped,
    other characters may be. -/
inductive Escapes : List Char → List Char → Prop where
  | nil : Escapes [] []
  | plain {c : Char} {text written : List Char} (noQuote : c ≠ '"') (noEscape : c ≠ '\\')
      (more : Escapes text written) : Escapes (c :: text) (c :: written)
  | escaped {c : Char} {text written : List Char} (more : Escapes text written) :
      Escapes (c :: text) ('\\' :: c :: written)

/-- The spellings of one token. -/
inductive Lexeme : Token → List Char → Prop where
  | openBrace : Lexeme .openBrace ['{']
  | closeBrace : Lexeme .closeBrace ['}']
  | openBracket : Lexeme .openBracket ['[']
  | closeBracket : Lexeme .closeBracket [']']
  | word {name : String} {c : Char} {rest : List Char} (spelled : name.toList = c :: rest)
      (starts : startsWord c = true) (inside : rest.all isWordChar = true)
      (noDefine : name ≠ "DEF") (noReuse : name ≠ "USE") : Lexeme (.word name) (c :: rest)
  | number {text : List Char} {numeral : Numeral} (read : Numeral.ofChars? text = some numeral) :
      Lexeme (.number numeral.toDouble) text
  | quoted {text : String} {written : List Char} (escapes : Escapes text.toList written) :
      Lexeme (.quoted text) ('"' :: (written ++ ['"']))
  | define : Lexeme .define ['D', 'E', 'F']
  | reuse : Lexeme .reuse ['U', 'S', 'E']

/-- Whether a character behind a token would be read as a part of it. -/
def Token.runsOn : Token → Char → Bool
  | .word _ | .define | .reuse => isWordChar
  | .number _ => isNumberChar
  | _ => fun _ => false

/-- The spellings of some tokens. -/
inductive Spells : List Token → List Char → Prop where
  | nil {text : List Char} (trailing : Trailing text) : Spells [] text
  | cons {token : Token} {others : List Token} {before lexeme rest : List Char} (gap : Gap before)
      (first : Lexeme token lexeme) (apart : ∀ c, rest.head? = some c → token.runsOn c = false)
      (more : Spells others rest) : Spells (token :: others) (before ++ (lexeme ++ rest))

/-! ### Between tokens -/

theorem seekToken_hidden {hidden : List Char} (oneLine : '\n' ∉ hidden) (rest : List Char)
    (line : Nat) :
    seekToken true (hidden ++ '\n' :: rest) line = seekToken false rest (line + 1) := by
  induction hidden with
  | nil => simp [seekToken]
  | cons c hidden ih =>
    have noEnd := List.ne_of_not_mem_cons oneLine
    have others := List.not_mem_of_not_mem_cons oneLine
    rw [List.cons_append, seekToken, if_neg (Ne.symm noEnd)]
    exact ih others

theorem seekToken_hidden_end {hidden : List Char} (oneLine : '\n' ∉ hidden) (line : Nat) :
    seekToken true hidden line = ⟨[], line⟩ := by
  induction hidden with
  | nil => simp [seekToken]
  | cons c hidden ih =>
    have noEnd := List.ne_of_not_mem_cons oneLine
    have others := List.not_mem_of_not_mem_cons oneLine
    rw [seekToken, if_neg (Ne.symm noEnd)]
    exact ih others

/-- A gap is passed over; only lines are counted. -/
theorem seekToken_gap {before : List Char} (gap : Gap before) (rest : List Char) (line : Nat) :
    ∃ line', seekToken false (before ++ rest) line = seekToken false rest line' := by
  induction gap generalizing line with
  | nil => exact ⟨line, rfl⟩
  | @blank c others noToken noComment more ih =>
    rw [List.cons_append, seekToken]
    by_cases newline : c = '\n'
    · rw [if_pos newline]
      exact ih (line + 1)
    · rw [if_neg newline, if_neg noComment, noToken, if_neg Bool.false_ne_true]
      exact ih line
  | @comment hidden others oneLine more ih =>
    have start : seekToken false ('#' :: (hidden ++ '\n' :: others) ++ rest) line =
        seekToken true (hidden ++ '\n' :: (others ++ rest)) line := by
      simp [seekToken]
    rw [start, seekToken_hidden oneLine]
    exact ih (line + 1)

theorem seekToken_trailing {text : List Char} (trailing : Trailing text) (line : Nat) :
    (seekToken false text line).rest = [] := by
  cases trailing with
  | gap gap =>
    obtain ⟨line', passed⟩ := seekToken_gap gap [] line
    rw [List.append_nil] at passed
    rw [passed, seekToken]
  | @comment before hidden gap oneLine =>
    obtain ⟨line', passed⟩ := seekToken_gap gap ('#' :: hidden) line
    have hash : seekToken false ('#' :: hidden) line' = seekToken true hidden line' := by
      simp [seekToken]
    rw [passed, hash, seekToken_hidden_end oneLine]

theorem seekToken_token {c : Char} (starts : startsToken c = true) (noComment : c ≠ '#')
    (noNewline : c ≠ '\n') (rest : List Char) (line : Nat) :
    seekToken false (c :: rest) line = ⟨c :: rest, line⟩ := by
  rw [seekToken, if_neg noNewline, if_neg noComment, if_pos starts]

/-! ### Quoted texts -/

theorem readQuoted_escapes {text written : List Char} (escapes : Escapes text written)
    (found rest : List Char) (line : Nat) :
    ∃ line', readQuoted found (written ++ '"' :: rest) line =
      (String.ofList (found.reverse ++ text), ⟨rest, line'⟩) := by
  induction escapes generalizing found line with
  | nil => exact ⟨line, by simp [readQuoted]⟩
  | @plain c text written noQuote noEscape more ih =>
    have step : readQuoted found (c :: (written ++ '"' :: rest)) line =
        readQuoted (c :: found) (written ++ '"' :: rest)
          (if c = '\n' then line + 1 else line) := by
      rw [readQuoted.eq_4 _ _ _ _ (by simp [noEscape]) (by simp [noEscape]), if_neg noQuote]
    obtain ⟨line', read⟩ := ih (c :: found) (if c = '\n' then line + 1 else line)
    exact ⟨line', by rw [List.cons_append, step, read, List.reverse_cons, List.append_assoc,
      List.singleton_append]⟩
  | @escaped c text written more ih =>
    obtain ⟨line', read⟩ := ih (c :: found) line
    refine ⟨line', ?_⟩
    rw [List.cons_append, List.cons_append, readQuoted, read, List.reverse_cons, List.append_assoc,
      List.singleton_append]

/-! ### Numerals -/

theorem isNumberChar_of_isDigit {c : Char} (digit : Numeral.isDigit c = true) :
    isNumberChar c = true := by
  simp [isNumberChar, startsNumber, digit]

theorem mem_splitSign {text : List Char} {c : Char} (member : c ∈ text) :
    c = '-' ∨ c = '+' ∨ c ∈ (Numeral.splitSign text).2 := by
  unfold Numeral.splitSign
  split
  · rcases List.mem_cons.1 member with rfl | later
    · exact .inl rfl
    · exact .inr (.inr later)
  · rcases List.mem_cons.1 member with rfl | later
    · exact .inr (.inl rfl)
    · exact .inr (.inr later)
  · exact .inr (.inr member)

theorem mem_fraction {text : List Char} {c : Char} (member : c ∈ text) :
    c = '.' ∨ Numeral.isDigit c = true ∨ c ∈ (Numeral.fraction text).2 := by
  unfold Numeral.fraction
  split
  · rename_i rest
    rcases List.mem_cons.1 member with rfl | later
    · exact .inl rfl
    · rw [List.span_eq_takeWhile_dropWhile]
      rw [← List.takeWhile_append_dropWhile (p := Numeral.isDigit) (l := rest)] at later
      rcases List.mem_append.1 later with digit | behind
      · exact .inr (.inl (List.mem_takeWhile_imp digit))
      · exact .inr (.inr behind)
  · exact .inr (.inr member)

theorem isNumberChar_of_exponent? {text : List Char} {exponent : Int}
    (read : Numeral.exponent? text = some exponent) {c : Char} (member : c ∈ text) :
    isNumberChar c = true := by
  cases text with
  | nil => cases member
  | cons d rest =>
    rw [Numeral.exponent?] at read
    split at read
    · rename_i mark
      rcases List.mem_cons.1 member with rfl | later
      · rcases mark with rfl | rfl <;> decide
      · rcases mem_splitSign later with rfl | rfl | digit
        · decide
        · decide
        · generalize Numeral.splitSign rest = split at read digit
          obtain ⟨negative, digits⟩ := split
          simp only at read digit
          split at read
          · cases read
          · rename_i complete
            have all : digits.all Numeral.isDigit = true := by
              cases h : digits.all Numeral.isDigit <;> simp_all
            exact isNumberChar_of_isDigit (List.all_eq_true.1 all c digit)
    · cases read

/-- What can be read as a numeral has digits around its point, and what stands
    behind them is read as an exponent. -/
theorem ofChars?_eq_some {text : List Char} {numeral : Numeral}
    (read : Numeral.ofChars? text = some numeral) :
    let unsigned := (Numeral.splitSign text).2
    let behind := unsigned.dropWhile Numeral.isDigit
    (unsigned.takeWhile Numeral.isDigit ≠ [] ∨ (Numeral.fraction behind).1 ≠ []) ∧
      ∃ exponent, Numeral.exponent? (Numeral.fraction behind).2 = some exponent := by
  intro unsigned behind
  simp only [Numeral.ofChars?, List.span_eq_takeWhile_dropWhile] at read
  split at read
  · cases read
  · rename_i digits
    rw [Option.bind_eq_bind, Option.bind_eq_some_iff] at read
    obtain ⟨exponent, found, -⟩ := read
    refine ⟨?_, exponent, found⟩
    by_contra none
    obtain ⟨noWhole, noPlaces⟩ := not_or.1 none
    simp [unsigned, behind] at noWhole noPlaces digits
    simp_all

/-- A numeral begins as numbers do and consists of the characters of numbers. -/
theorem numeral_chars {text : List Char} {numeral : Numeral}
    (read : Numeral.ofChars? text = some numeral) :
    ∃ c rest, text = c :: rest ∧ startsNumber c = true ∧ ∀ d ∈ rest, isNumberChar d = true := by
  obtain ⟨digits, exponent, found⟩ := ofChars?_eq_some read
  have inside : ∀ d ∈ text, isNumberChar d = true := by
    intro d member
    rcases mem_splitSign member with rfl | rfl | unsigned
    · decide
    · decide
    · rw [← List.takeWhile_append_dropWhile (p := Numeral.isDigit)
        (l := (Numeral.splitSign text).2)] at unsigned
      rcases List.mem_append.1 unsigned with digit | behind
      · exact isNumberChar_of_isDigit (List.mem_takeWhile_imp digit)
      · rcases mem_fraction behind with rfl | digit | last
        · decide
        · exact isNumberChar_of_isDigit digit
        · exact isNumberChar_of_exponent? found last
  cases text with
  | nil => simp [Numeral.splitSign, Numeral.fraction] at digits
  | cons c rest =>
    refine ⟨c, rest, rfl, ?_, fun d member => inside d (List.mem_cons_of_mem c member)⟩
    by_contra starts
    obtain ⟨noDigit, noMinus, noPlus, noPoint⟩ :
        ¬ Numeral.isDigit c = true ∧ c ≠ '-' ∧ c ≠ '+' ∧ c ≠ '.' := by
      simpa [startsNumber, and_assoc] using starts
    have unsigned : Numeral.splitSign (c :: rest) = (false, c :: rest) := by
      unfold Numeral.splitSign
      split <;> simp_all
    have noWhole : (c :: rest).takeWhile Numeral.isDigit = [] := by
      rw [List.takeWhile_cons_of_neg noDigit]
    have noPlaces : (Numeral.fraction (c :: rest)).1 = [] := by
      unfold Numeral.fraction
      split
      · simp_all
      · rfl
    rw [unsigned, List.dropWhile_cons_of_neg noDigit] at digits
    exact digits.elim (· noWhole) (· noPlaces)

/-! ### First characters -/

theorem startsWord_of_isDigit {c : Char} (digit : Numeral.isDigit c = true) :
    startsWord c = false := by
  obtain ⟨least, most⟩ : 48 ≤ c.toNat ∧ c.toNat ≤ 57 := by
    obtain ⟨least, most⟩ := Bool.and_eq_true_iff.1 digit
    exact ⟨of_decide_eq_true least, of_decide_eq_true most⟩
  have noAlpha : c.isAlpha = false := by
    rw [Bool.eq_false_iff]
    intro alpha
    rcases Bool.or_eq_true_iff.1 alpha with upper | lower
    · have above : 65 ≤ c.toNat := (of_decide_eq_true upper).1
      omega
    · have above : 97 ≤ c.toNat := of_decide_eq_true (Bool.and_eq_true_iff.1 lower).1
      omega
  have ascii : c.toNat < 128 := by omega
  have noUnderscore : c ≠ '_' := by
    rintro rfl
    simp at most
  simp [startsWord, Text.isAlphabetic, ascii, noAlpha, noUnderscore]

theorem startsWord_of_startsNumber {c : Char} (number : startsNumber c = true) :
    startsWord c = false := by
  simp only [startsNumber, Bool.or_eq_true, beq_iff_eq] at number
  rcases number with ((digit | rfl) | rfl) | rfl
  · exact startsWord_of_isDigit digit
  · decide
  · decide
  · decide

theorem startsWord_of_punctuation? {c : Char} {token : Token}
    (single : punctuation? c = some token) : startsWord c = false := by
  unfold punctuation? at single
  split at single
  · decide
  · decide
  · decide
  · decide
  · cases single

theorem punctuation?_of_startsNumber {c : Char} (number : startsNumber c = true) :
    punctuation? c = none := by
  unfold punctuation?
  split
  · revert number; decide
  · revert number; decide
  · revert number; decide
  · revert number; decide
  · rfl

/-! ### Tokens -/

theorem readToken_word {c : Char} {run rest : List Char} (starts : startsWord c = true)
    (inside : run.all isWordChar = true)
    (apart : ∀ d, rest.head? = some d → isWordChar d = false) (line : Nat) :
    readToken c (run ++ rest) line = (.ofWordChars (c :: run), ⟨rest, line⟩) := by
  have noPunctuation : punctuation? c = none := by
    cases single : punctuation? c with
    | none => rfl
    | some token =>
      rw [startsWord_of_punctuation? single] at starts
      cases starts
  have noQuote : c ≠ '"' := by
    rintro rfl
    revert starts
    decide
  have noNumber : ¬ startsNumber c = true := by
    intro number
    rw [startsWord_of_startsNumber number] at starts
    cases starts
  have all := List.all_eq_true.1 inside
  simp only [readToken, noPunctuation, if_neg noQuote, if_neg noNumber,
    Text.takeWhile_run all apart, Text.dropWhile_run all apart]

/-- A token is read from each of its spellings, up to what stands apart from
    it. -/
theorem readToken_lexeme {token : Token} {lexeme rest : List Char} (spelled : Lexeme token lexeme)
    (apart : ∀ c, rest.head? = some c → token.runsOn c = false) (line : Nat) :
    ∃ c run line', lexeme = c :: run ∧ startsToken c = true ∧ c ≠ '#' ∧ c ≠ '\n' ∧
      readToken c (run ++ rest) line = (token, ⟨rest, line'⟩) := by
  cases spelled with
  | openBrace | closeBrace | openBracket | closeBracket =>
    exact ⟨_, _, line, rfl, by decide, by decide, by decide, rfl⟩
  | @word name c run spelled starts inside noDefine noReuse =>
    refine ⟨c, run, line, rfl, ?_, ?_, ?_, ?_⟩
    · simp [startsToken, starts]
    · rintro rfl
      revert starts
      decide
    · rintro rfl
      revert starts
      decide
    · rw [readToken_word starts inside apart]
      have text : String.ofList (c :: run) = name := by rw [← spelled, String.ofList_toList]
      simp only [Token.ofWordChars, text, if_neg noDefine, if_neg noReuse]
  | @number text numeral read =>
    obtain ⟨c, run, rfl, starts, inside⟩ := numeral_chars read
    refine ⟨c, run, line, rfl, ?_, ?_, ?_, ?_⟩
    · simp [startsToken, starts]
    · rintro rfl
      revert starts
      decide
    · rintro rfl
      revert starts
      decide
    · have noQuote : c ≠ '"' := by
        rintro rfl
        revert starts
        decide
      simp only [readToken, punctuation?_of_startsNumber starts, if_neg noQuote, if_pos starts,
        Text.takeWhile_run inside apart, Text.dropWhile_run inside apart, Token.ofNumberChars, read]
  | @quoted text written escapes =>
    obtain ⟨line', read⟩ := readQuoted_escapes escapes [] rest line
    refine ⟨'"', written ++ ['"'], line', rfl, by decide, by decide, by decide, ?_⟩
    have noPunctuation : punctuation? '"' = none := rfl
    simp only [List.reverse_nil, List.nil_append, String.ofList_toList] at read
    simp [readToken, noPunctuation, read]
  | define =>
    exact ⟨'D', ['E', 'F'], line, rfl, by decide, by decide, by decide,
      readToken_word (by decide) (by decide) apart line⟩
  | reuse =>
    exact ⟨'U', ['S', 'E'], line, rfl, by decide, by decide, by decide,
      readToken_word (by decide) (by decide) apart line⟩

/-! ### Texts -/

namespace Cursor

theorem next_token {token : Token} {before lexeme rest : List Char} (gap : Gap before)
    (spelled : Lexeme token lexeme) (apart : ∀ c, rest.head? = some c → token.runsOn c = false)
    (line : Nat) :
    ∃ line', next ⟨before ++ (lexeme ++ rest), line⟩ = (some token, ⟨rest, line'⟩) := by
  obtain ⟨between, passed⟩ := seekToken_gap gap (lexeme ++ rest) line
  obtain ⟨c, run, line', rfl, starts, noComment, noNewline, read⟩ :=
    readToken_lexeme spelled apart between
  refine ⟨line', ?_⟩
  rw [List.cons_append, seekToken_token starts noComment noNewline] at passed
  simp only [next, List.cons_append, passed, read]

theorem next_trailing {text : List Char} (trailing : Trailing text) (line : Nat) :
    (next ⟨text, line⟩).1 = none := by
  simp only [next, seekToken_trailing trailing]

theorem scanOnto_of_next_eq_some {cursor after : Cursor} {token : Token}
    (step : cursor.next = (some token, after)) (found : List (Token × Nat)) :
    scanOnto found cursor = scanOnto ((token, after.line) :: found) after := by
  rw [scanOnto]
  split
  · rename_i finish last
    rw [step] at last
    cases last
  · rename_i token' after' step'
    rw [step] at step'
    cases step'
    rfl

theorem scanOnto_of_next_eq_none {cursor : Cursor} (last : cursor.next.1 = none)
    (found : List (Token × Nat)) : (scanOnto found cursor).1 = found := by
  rw [scanOnto]
  split
  · rfl
  · rename_i token after step
    rw [step] at last
    cases last

theorem scanOnto_spells {spelled : List Token} {text : List Char} (spells : Spells spelled text)
    (found : List (Token × Nat)) (line : Nat) :
    (scanOnto found ⟨text, line⟩).1.map (·.1) = spelled.reverse ++ found.map (·.1) := by
  induction spells generalizing found line with
  | nil trailing =>
    rw [scanOnto_of_next_eq_none (next_trailing trailing line)]
    rfl
  | cons gap first apart more ih =>
    obtain ⟨line', step⟩ := next_token gap first apart line
    rw [scanOnto_of_next_eq_some step, ih]
    simp

end Cursor

/-- The tokens of a text are those that it spells. -/
theorem tokens_of_spells {spelled : List Token} {text : String}
    (spells : Spells spelled text.toList) : tokens text = spelled := by
  rw [tokens, Cursor.scan, Cursor.start, List.map_reverse, Cursor.scanOnto_spells spells]
  simp

/-- A single blank between two tokens. -/
theorem gap_blank : Gap [' '] := .blank (by decide) (by decide) .nil

end VrmlWorld.Document
