/-
  VrmlWorld/Proofs/Document/LineBreaks.lean
  =========================================
  **A line break cuts a text in two, unless it stands in a quoted text.**

  Nothing but a quoted text goes on behind the end of a line. `Stand` says of
  each place of a text what it is in, without reading tokens. Where a text does
  not end in quotes, the tokens of what stands on the next lines are read as if
  the text began there (`tokens_append_newline`). Where it does, the line break
  alone already makes another token of its last one (`tokens_newline_ne`).
-/
import VrmlWorld.Proofs.Document.Spelling

namespace VrmlWorld.Document

/-! ### Where a character stands -/

/-- What a place of a text is in. -/
inductive Stand where
  /-- Neither in a comment nor in quotes. -/
  | plain
  | comment
  | quoted
  /-- In quotes, behind a backslash. -/
  | escaped
deriving DecidableEq, Repr

namespace Stand

def after : Stand → Char → Stand
  | plain, c => if c = '"' then quoted else if c = '#' then comment else plain
  | comment, c => if c = '\n' then plain else comment
  | quoted, c => if c = '\\' then escaped else if c = '"' then plain else quoted
  | escaped, _ => quoted

def behind (stand : Stand) (text : List Char) : Stand := text.foldl after stand

def isQuoted : Stand → Bool
  | quoted | escaped => true
  | plain | comment => false

@[simp] theorem behind_nil (stand : Stand) : stand.behind [] = stand := rfl

@[simp] theorem behind_cons (stand : Stand) (c : Char) (text : List Char) :
    stand.behind (c :: text) = (stand.after c).behind text := rfl

theorem after_plain {c : Char} (noQuote : c ≠ '"') (noComment : c ≠ '#') :
    after plain c = plain := by
  rw [after, if_neg noQuote, if_neg noComment]

/-- A run of a class without quotes and comments changes nothing. -/
theorem behind_dropWhile {p : Char → Bool} (noQuote : p '"' = false) (noComment : p '#' = false)
    (text : List Char) : plain.behind (text.dropWhile p) = plain.behind text := by
  induction text with
  | nil => rfl
  | cons c rest ih =>
    cases inside : p c with
    | false => rw [List.dropWhile_cons_of_neg (by simp [inside])]
    | true =>
      have same : after plain c = plain := by
        apply after_plain
        · rintro rfl
          rw [noQuote] at inside
          cases inside
        · rintro rfl
          rw [noComment] at inside
          cases inside
      rw [List.dropWhile_cons_of_pos inside, ih, behind_cons, same]

end Stand

/-- Whether a text ends in a quoted text that is not closed. -/
def endsInQuotes (text : List Char) : Bool := (Stand.plain.behind text).isQuoted

/-! ### Lines read apart -/

/-- What a place outside of quotes is in. -/
def standBetween (inComment : Bool) : Stand := if inComment then .comment else .plain

/-- A search for a token that ends with the text goes on behind the line break. -/
theorem seekToken_append_of_nil {text : List Char} {inComment : Bool} {line : Nat}
    (finished : (seekToken inComment text line).rest = []) (others : List Char) :
    ∃ line', seekToken inComment (text ++ '\n' :: others) line = seekToken false others line' := by
  fun_induction seekToken inComment text line with
  | case1 inComment line =>
    refine ⟨line + 1, ?_⟩
    cases inComment <;> simp [seekToken]
  | case2 text line ih => simpa [seekToken] using ih finished
  | case3 d text line noNewline ih => simpa [seekToken, noNewline] using ih finished
  | case4 text line ih => simpa [seekToken] using ih finished
  | case5 text line noNewline ih => simpa [seekToken] using ih finished
  | case6 d text line noNewline noComment starts => cases finished
  | case7 d text line noNewline noComment noToken ih =>
    simpa [seekToken, noNewline, noComment, noToken] using ih finished

/-- A text without any further token does not end in quotes. -/
theorem not_endsInQuotes_of_seekToken {text : List Char} {inComment : Bool} {line : Nat}
    (finished : (seekToken inComment text line).rest = []) :
    ((standBetween inComment).behind text).isQuoted = false := by
  fun_induction seekToken inComment text line with
  | case1 inComment line => cases inComment <;> rfl
  | case2 text line ih => exact ih finished
  | case3 d text line noNewline ih =>
    have stays : Stand.comment.after d = .comment := by simp [Stand.after, noNewline]
    rw [standBetween, if_pos rfl, Stand.behind_cons, stays]
    exact ih finished
  | case4 text line ih => exact ih finished
  | case5 text line noNewline ih => exact ih finished
  | case6 d text line noNewline noComment starts => cases finished
  | case7 d text line noNewline noComment noToken ih =>
    have noQuote : d ≠ '"' := by
      rintro rfl
      exact noToken (by decide)
    rw [standBetween, if_neg Bool.false_ne_true, Stand.behind_cons,
      Stand.after_plain noQuote noComment]
    exact ih finished

/-- A search that finds the beginning of a token finds it outside of quotes and
    comments, whatever stands behind the text. -/
theorem seekToken_append_of_cons {text rest : List Char} {c : Char} {inComment : Bool} {line : Nat}
    (found : (seekToken inComment text line).rest = c :: rest) (others : List Char) :
    seekToken inComment (text ++ others) line =
        ⟨c :: (rest ++ others), (seekToken inComment text line).line⟩ ∧
      c ≠ '#' ∧ Stand.plain.behind (c :: rest) = (standBetween inComment).behind text := by
  fun_induction seekToken inComment text line with
  | case1 => cases found
  | case2 text line ih => simpa [seekToken, standBetween, Stand.after] using ih found
  | case3 d text line noNewline ih =>
    simpa [seekToken, standBetween, Stand.after, noNewline] using ih found
  | case4 text line ih => simpa [seekToken, standBetween, Stand.after] using ih found
  | case5 text line noNewline ih => simpa [seekToken, standBetween, Stand.after] using ih found
  | case6 d text line noNewline noComment starts =>
    cases found
    simp [seekToken, standBetween, noNewline, noComment, starts]
  | case7 d text line noNewline noComment noToken ih =>
    have noQuote : d ≠ '"' := by
      rintro rfl
      exact noToken (by decide)
    simpa [seekToken, standBetween, Stand.after_plain noQuote noComment, noNewline, noComment,
      noToken] using ih found

/-- A quoted text that is closed ends where it does, whatever stands behind. One that
    is not closed goes on behind the text, with the line break in it. -/
theorem readQuoted_append_or (found text : List Char) (line : Nat) :
    ((∀ others, readQuoted found (text ++ others) line =
        ((readQuoted found text line).1,
          ⟨(readQuoted found text line).2.rest ++ others, (readQuoted found text line).2.line⟩)) ∧
      Stand.plain.behind (readQuoted found text line).2.rest = Stand.quoted.behind text) ∨
    ((Stand.quoted.behind text).isQuoted = true ∧ (readQuoted found text line).2.rest = [] ∧
      ∃ content line', (readQuoted found text line).1 = String.ofList content ∧
        readQuoted found (text ++ ['\n']) line =
          (String.ofList (content ++ ['\n']), ⟨[], line'⟩)) := by
  fun_induction readQuoted found text line with
  | case1 found line =>
    exact .inr ⟨rfl, rfl, found.reverse, line + 1, rfl, by simp [readQuoted.eq_4, readQuoted]⟩
  | case2 found line =>
    exact .inr ⟨rfl, rfl, found.reverse, line, rfl, by simp [readQuoted]⟩
  | case3 found c rest line ih => simpa [readQuoted, Stand.after] using ih
  | case4 found rest line => exact .inl ⟨fun others => by simp [readQuoted], rfl⟩
  | case5 found c rest line noEnd noMore noQuote ih =>
    have noEscape : c ≠ '\\' := by
      rintro rfl
      rcases rest with _ | ⟨d, rest⟩
      · exact noEnd rfl rfl
      · exact noMore d rest rfl rfl
    have stays : Stand.quoted.after c = .quoted := by simp [Stand.after, noEscape, noQuote]
    have step (others : List Char) : readQuoted found (c :: (rest ++ others)) line =
        readQuoted (c :: found) (rest ++ others) (if c = '\n' then line + 1 else line) := by
      rw [readQuoted.eq_4 _ _ _ _ (by simp [noEscape]) (by simp [noEscape]), if_neg noQuote]
    simpa only [Stand.behind_cons, stays, List.cons_append, step] using ih

/-- A token is read in the same way in front of a character that continues neither a
    number nor a word, unless it is a quoted text that is not closed. -/
theorem readToken_append_or {c d : Char} {rest : List Char} (noComment : c ≠ '#')
    (endsNumber : isNumberChar d = false) (endsWord : isWordChar d = false) (line : Nat) :
    ((∀ others, readToken c (rest ++ d :: others) line =
        ((readToken c rest line).1,
          ⟨(readToken c rest line).2.rest ++ d :: others, (readToken c rest line).2.line⟩)) ∧
      Stand.plain.behind (readToken c rest line).2.rest = Stand.plain.behind (c :: rest)) ∨
    (endsInQuotes (c :: rest) = true ∧ (readToken c rest line).2.rest = [] ∧
      ∃ content line', (readToken c rest line).1 = .quoted (String.ofList content) ∧
        readToken c (rest ++ ['\n']) line =
          (.quoted (String.ofList (content ++ ['\n'])), ⟨[], line'⟩)) := by
  by_cases quote : c = '"'
  · subst quote
    have noPunctuation : punctuation? '"' = none := rfl
    rcases readQuoted_append_or [] rest line with ⟨read, stand⟩ |
      ⟨unclosed, finished, content, line', isContent, read⟩
    · left
      simp only [readToken, noPunctuation, if_true, read, implies_true, true_and]
      exact stand
    · right
      simp only [readToken, noPunctuation, if_true, read]
      exact ⟨unclosed, finished, content, line', congrArg Token.quoted isContent, rfl⟩
  · left
    rw [Stand.behind_cons, Stand.after_plain quote noComment]
    cases single : punctuation? c with
    | some token => simp [readToken, single]
    | none =>
      by_cases number : startsNumber c
      · simp only [readToken, single, if_neg quote, if_pos number,
          Text.takeWhile_append_stop endsNumber, Text.dropWhile_append_stop endsNumber,
          implies_true, true_and]
        exact Stand.behind_dropWhile (by decide) (by decide) rest
      · simp only [readToken, single, if_neg quote, if_neg number,
          Text.takeWhile_append_stop endsWord, Text.dropWhile_append_stop endsWord,
          implies_true, true_and]
        exact Stand.behind_dropWhile (by decide) (by decide) rest

/-! ### Line numbers are of no account -/

theorem rest_seekToken (inComment : Bool) (text : List Char) (line line' : Nat) :
    (seekToken inComment text line).rest = (seekToken inComment text line').rest := by
  fun_induction seekToken inComment text line generalizing line' with
  | case1 inComment line => cases inComment <;> rfl
  | case2 text line ih => simpa [seekToken] using ih (line' + 1)
  | case3 c text line noNewline ih => simpa [seekToken, noNewline] using ih line'
  | case4 text line ih => simpa [seekToken] using ih (line' + 1)
  | case5 text line noNewline ih => simpa [seekToken] using ih line'
  | case6 c text line noNewline noComment starts => simp [seekToken, noNewline, noComment, starts]
  | case7 c text line noNewline noComment noToken ih =>
    simpa [seekToken, noNewline, noComment, noToken] using ih line'

theorem rest_readQuoted (found text : List Char) (line line' : Nat) :
    (readQuoted found text line).1 = (readQuoted found text line').1 ∧
      (readQuoted found text line).2.rest = (readQuoted found text line').2.rest := by
  fun_induction readQuoted found text line generalizing line' with
  | case1 => exact ⟨rfl, rfl⟩
  | case2 => exact ⟨rfl, rfl⟩
  | case3 found c rest line ih => simpa [readQuoted] using ih line'
  | case4 found rest line => simp [readQuoted]
  | case5 found c rest line noEnd noMore noQuote ih =>
    rw [readQuoted.eq_4 _ _ _ _ noEnd noMore, if_neg noQuote]
    exact ih _

theorem rest_readToken (c : Char) (rest : List Char) (line line' : Nat) :
    (readToken c rest line).1 = (readToken c rest line').1 ∧
      (readToken c rest line).2.rest = (readToken c rest line').2.rest := by
  rw [readToken, readToken]
  split
  · exact ⟨rfl, rfl⟩
  · split
    · obtain ⟨sameText, sameRest⟩ := rest_readQuoted [] rest line line'
      exact ⟨congrArg Token.quoted sameText, sameRest⟩
    · split <;> exact ⟨rfl, rfl⟩

namespace Cursor

theorem rest_next (rest : List Char) (line line' : Nat) :
    (next ⟨rest, line⟩).1 = (next ⟨rest, line'⟩).1 ∧
      (next ⟨rest, line⟩).2.rest = (next ⟨rest, line'⟩).2.rest := by
  have same := rest_seekToken false rest line line'
  rw [next, next]
  dsimp only
  generalize seekToken false rest line = reached at same
  generalize seekToken false rest line' = reached' at same
  obtain ⟨text, between⟩ := reached
  obtain ⟨text', between'⟩ := reached'
  obtain rfl : text = text' := same
  cases text with
  | nil => exact ⟨rfl, rfl⟩
  | cons c text =>
    obtain ⟨token, behind⟩ := rest_readToken c text between between'
    exact ⟨congrArg some token, behind⟩

/-! ### Tokens from a position on -/

def tokens (cursor : Cursor) : List Token := cursor.scan.1.map (·.1)

theorem scanOnto_append (found : List (Token × Nat)) (cursor : Cursor) :
    (scanOnto found cursor).1 = (scanOnto [] cursor).1 ++ found := by
  induction length : cursor.rest.length using Nat.strong_induction_on generalizing cursor found with
  | _ length' ih =>
    subst length
    cases step : cursor.next with
    | mk answer after =>
      cases answer with
      | none =>
        have last : cursor.next.1 = none := by rw [step]
        rw [scanOnto_of_next_eq_none last, scanOnto_of_next_eq_none last, List.nil_append]
      | some token =>
        have shorter := length_next_lt step
        rw [scanOnto_of_next_eq_some step, scanOnto_of_next_eq_some step, ih _ shorter _ _ rfl,
          ih _ shorter [_] _ rfl, List.append_assoc, List.singleton_append]

theorem tokens_eq_reverse (cursor : Cursor) :
    cursor.tokens = ((scanOnto [] cursor).1.map (·.1)).reverse := by
  simp [tokens, scan]

theorem tokens_of_next_eq_none {cursor : Cursor} (last : cursor.next.1 = none) :
    cursor.tokens = [] := by
  rw [tokens_eq_reverse, scanOnto_of_next_eq_none last]
  rfl

theorem tokens_of_next_eq_some {cursor after : Cursor} {token : Token}
    (step : cursor.next = (some token, after)) : cursor.tokens = token :: after.tokens := by
  rw [tokens_eq_reverse, tokens_eq_reverse, scanOnto_of_next_eq_some step, scanOnto_append]
  simp

theorem tokens_congr_next {cursor other : Cursor} (same : cursor.next = other.next) :
    cursor.tokens = other.tokens := by
  cases step : cursor.next with
  | mk answer after =>
    rw [step] at same
    cases answer with
    | none => rw [tokens_of_next_eq_none (by rw [step]), tokens_of_next_eq_none (by rw [← same])]
    | some token => rw [tokens_of_next_eq_some step, tokens_of_next_eq_some same.symm]

theorem tokens_congr (rest : List Char) (line line' : Nat) :
    tokens ⟨rest, line⟩ = tokens ⟨rest, line'⟩ := by
  induction length : rest.length using Nat.strong_induction_on generalizing rest line line' with
  | _ length' ih =>
    subst length
    obtain ⟨sameToken, sameRest⟩ := rest_next rest line line'
    cases step : next ⟨rest, line⟩ with
    | mk answer after =>
      cases step' : next ⟨rest, line'⟩ with
      | mk answer' after' =>
        rw [step, step'] at sameToken sameRest
        obtain rfl : answer = answer' := sameToken
        cases answer with
        | none => rw [tokens_of_next_eq_none (by rw [step]), tokens_of_next_eq_none (by rw [step'])]
        | some token =>
          obtain ⟨behind, line⟩ := after
          obtain ⟨behind', line'⟩ := after'
          obtain rfl : behind = behind' := sameRest
          rw [tokens_of_next_eq_some step, tokens_of_next_eq_some step',
            ih _ (length_next_lt step) behind line line' rfl]

/-! ### Texts cut at a line break -/

variable {text : List Char} {line : Nat}

theorem next_append_of_none (last : (next ⟨text, line⟩).1 = none) (others : List Char) :
    ∃ line', next ⟨text ++ '\n' :: others, line⟩ = next ⟨others, line'⟩ := by
  have finished : (seekToken false text line).rest = [] := by
    simp only [next] at last
    split at last
    · assumption
    · cases last
  obtain ⟨line', passed⟩ := seekToken_append_of_nil finished others
  refine ⟨line', ?_⟩
  simp only [next, passed]

/-- The next token is the same in front of a character that continues none, and the
    text ends in the same way behind it. Only a quoted text that is not closed goes on
    behind the text. -/
theorem next_append_or {token : Token} {after : Cursor} {d : Char}
    (step : next ⟨text, line⟩ = (some token, after)) (endsNumber : isNumberChar d = false)
    (endsWord : isWordChar d = false) :
    ((∀ others, next ⟨text ++ d :: others, line⟩ =
        (some token, ⟨after.rest ++ d :: others, after.line⟩)) ∧
      Stand.plain.behind after.rest = Stand.plain.behind text) ∨
    (endsInQuotes text = true ∧ after.rest = [] ∧
      ∃ content line', token = .quoted (String.ofList content) ∧
        next ⟨text ++ ['\n'], line⟩ =
          (some (.quoted (String.ofList (content ++ ['\n']))), ⟨[], line'⟩)) := by
  simp only [next] at step
  split at step
  · cases step
  · rename_i c rest found
    obtain ⟨-, noComment, stand⟩ := seekToken_append_of_cons found []
    have passed (others : List Char) := (seekToken_append_of_cons found others).1
    cases step
    rcases readToken_append_or noComment endsNumber endsWord (seekToken false text line).line
      with ⟨read, standBehind⟩ | ⟨unclosed, finished, content, line', isContent, read⟩
    · left
      refine ⟨fun others => ?_, standBehind.trans stand⟩
      simp only [next, passed, read]
    · right
      refine ⟨?_, finished, content, line', isContent, ?_⟩
      · rw [endsInQuotes, stand] at unclosed
        exact unclosed
      · simp only [next, passed, read]

theorem next_append_of_some {token : Token} {after : Cursor} {d : Char}
    (step : next ⟨text, line⟩ = (some token, after)) (closed : endsInQuotes text = false)
    (endsNumber : isNumberChar d = false) (endsWord : isWordChar d = false)
    (others : List Char) :
    next ⟨text ++ d :: others, line⟩ = (some token, ⟨after.rest ++ d :: others, after.line⟩) ∧
      Stand.plain.behind after.rest = Stand.plain.behind text := by
  rcases next_append_or step endsNumber endsWord with ⟨onward, stand⟩ | ⟨unclosed, -⟩
  · exact ⟨onward others, stand⟩
  · rw [closed] at unclosed
    cases unclosed

theorem tokens_append (closed : endsInQuotes text = false) (others : List Char) :
    tokens ⟨text ++ '\n' :: others, line⟩ = tokens ⟨text, line⟩ ++ tokens ⟨others, line⟩ := by
  induction length : text.length using Nat.strong_induction_on generalizing text line with
  | _ length' ih =>
    subst length
    cases step : next ⟨text, line⟩ with
    | mk answer after =>
      cases answer with
      | none =>
        have last : (next ⟨text, line⟩).1 = none := by rw [step]
        obtain ⟨line', onward⟩ := next_append_of_none last others
        rw [tokens_congr_next onward, tokens_of_next_eq_none last, List.nil_append]
        exact tokens_congr others line' line
      | some token =>
        have endsNumber : isNumberChar '\n' = false := by decide
        have endsWord : isWordChar '\n' = false := by decide
        obtain ⟨onward, stand⟩ := next_append_of_some step closed endsNumber endsWord others
        have closedBehind : endsInQuotes after.rest = false := by rwa [endsInQuotes, stand]
        rw [tokens_of_next_eq_some onward, tokens_of_next_eq_some step,
          ih _ (length_next_lt step) closedBehind rfl, List.cons_append,
          tokens_congr others after.line line]

/-- Where a text ends in quotes, a line break behind it changes its last token. -/
theorem tokens_newline_ne (unclosed : endsInQuotes text = true) :
    tokens ⟨text ++ ['\n'], line⟩ ≠ tokens ⟨text, line⟩ := by
  induction length : text.length using Nat.strong_induction_on generalizing text line with
  | _ length' ih =>
    subst length
    have endsNumber : isNumberChar '\n' = false := by decide
    have endsWord : isWordChar '\n' = false := by decide
    cases step : next ⟨text, line⟩ with
    | mk answer after =>
      cases answer with
      | none =>
        have finished : (seekToken false text line).rest = [] := by
          simp only [next] at step
          split at step
          · assumption
          · cases step
        have closed : endsInQuotes text = false := not_endsInQuotes_of_seekToken finished
        rw [unclosed] at closed
        cases closed
      | some token =>
        rw [tokens_of_next_eq_some step]
        rcases next_append_or step endsNumber endsWord with ⟨onward, stand⟩ | ⟨-, finished,
          content, line', rfl, onward⟩
        · rw [tokens_of_next_eq_some (onward [])]
          intro same
          rw [endsInQuotes, ← stand] at unclosed
          exact ih _ (length_next_lt step) unclosed rfl (List.cons.inj same).2
        · rw [tokens_of_next_eq_some onward]
          intro same
          have texts := Token.quoted.inj (List.cons.inj same).1
          have contents : content ++ ['\n'] = content := by simpa using congrArg String.toList texts
          simpa using congrArg List.length contents

end Cursor

/-- The tokens of a text that does not end in quotes, and of what stands on the
    next lines, are those of both parts. -/
theorem tokens_append_newline {text : String} (closed : endsInQuotes text.toList = false)
    (others : String) : tokens (text ++ "\n" ++ others) = tokens text ++ tokens others := by
  have characters : (text ++ "\n" ++ others).toList = text.toList ++ '\n' :: others.toList := by
    simp
  rw [tokens, Cursor.start, characters]
  exact Cursor.tokens_append closed others.toList

end VrmlWorld.Document
