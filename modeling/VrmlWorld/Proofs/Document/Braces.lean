/-
  VrmlWorld/Proofs/Document/Braces.lean
  =====================================
  **A closing brace cuts a text in two.**

  A text that ends neither in a comment nor in quotes has its tokens apart from what
  stands behind it, if that begins with a character that goes on with no token
  (`tokens_append_of_plain`). A brace is such a character, and a token of its own
  (`tokens_append_brace`). Conversely each closing brace among the tokens of a text is
  such a character (`exists_brace`).
-/
import VrmlWorld.Proofs.Document.Passages

namespace VrmlWorld.Document

/-! ### Texts cut between tokens -/

/-- A search that ends with the text, outside of comments, goes on behind it. -/
theorem seekToken_append_of_plain {text : List Char} {inComment : Bool} {line : Nat}
    (finished : (seekToken inComment text line).rest = [])
    (plain : (standBetween inComment).behind text = .plain) (others : List Char) :
    ∃ line', seekToken inComment (text ++ others) line = seekToken false others line' := by
  fun_induction seekToken inComment text line with
  | case1 inComment line =>
    cases inComment with
    | true => cases plain
    | false => exact ⟨line, rfl⟩
  | case2 text line ih =>
    simpa [seekToken] using ih finished (by simpa [standBetween, Stand.after] using plain)
  | case3 c text line noNewline ih =>
    simpa [seekToken, noNewline] using
      ih finished (by simpa [standBetween, Stand.after, noNewline] using plain)
  | case4 text line ih =>
    simpa [seekToken] using ih finished (by simpa [standBetween, Stand.after] using plain)
  | case5 text line noNewline ih =>
    simpa [seekToken] using ih finished (by simpa [standBetween, Stand.after] using plain)
  | case6 c text line noNewline noComment starts => cases finished
  | case7 c text line noNewline noComment noToken ih =>
    have noQuote : c ≠ '"' := by
      rintro rfl
      exact noToken (by decide)
    simpa [seekToken, noNewline, noComment, noToken] using
      ih finished (by simpa [standBetween, Stand.after_plain noQuote noComment] using plain)

namespace Cursor

/-- A text that ends outside of quotes and comments has its tokens apart from those
    behind it, which begin with a character that continues neither a number nor a word. -/
theorem tokens_append_of_plain {text : List Char} {line : Nat} {d : Char}
    (plain : Stand.plain.behind text = .plain) (endsNumber : isNumberChar d = false)
    (endsWord : isWordChar d = false) (others : List Char) :
    tokens ⟨text ++ d :: others, line⟩ = tokens ⟨text, line⟩ ++ tokens ⟨d :: others, line⟩ := by
  induction length : text.length using Nat.strong_induction_on generalizing text line with
  | _ length' ih =>
    subst length
    cases step : next ⟨text, line⟩ with
    | mk answer after =>
      cases answer with
      | none =>
        have last : (next ⟨text, line⟩).1 = none := by rw [step]
        have finished : (seekToken false text line).rest = [] := by
          simp only [next] at last
          split at last
          · assumption
          · cases last
        obtain ⟨line', passed⟩ := seekToken_append_of_plain finished plain (d :: others)
        have onward : next ⟨text ++ d :: others, line⟩ = next ⟨d :: others, line'⟩ := by
          simp only [next, passed]
        rw [tokens_congr_next onward, tokens_of_next_eq_none last, List.nil_append]
        exact tokens_congr _ line' line
      | some token =>
        have closed : endsInQuotes text = false := by rw [endsInQuotes, plain]; rfl
        obtain ⟨onward, stand⟩ := next_append_of_some step closed endsNumber endsWord others
        rw [tokens_of_next_eq_some onward, tokens_of_next_eq_some step,
          ih _ (length_next_lt step) (stand.trans plain) rfl, List.cons_append,
          tokens_congr (d :: others) after.line line]

theorem tokens_append_brace {text : List Char} {line : Nat}
    (plain : Stand.plain.behind text = .plain) (others : List Char) :
    tokens ⟨text ++ '}' :: others, line⟩ =
      tokens ⟨text, line⟩ ++ .closeBrace :: tokens ⟨others, line⟩ := by
  have brace : next ⟨'}' :: others, line⟩ = (some .closeBrace, ⟨others, line⟩) := by
    have found := seekToken_token (c := '}') (by decide) (by decide) (by decide) others line
    simp only [next, found]
    rfl
  rw [tokens_append_of_plain plain (by decide) (by decide), tokens_of_next_eq_some brace]

end Cursor

/-! ### Where the closing braces are -/

theorem eq_brace_of_punctuation? {c : Char} (isBrace : punctuation? c = some .closeBrace) :
    c = '}' := by
  unfold punctuation? at isBrace
  split at isBrace <;> first | rfl | cases isBrace

theorem eq_brace_of_readToken {c : Char} {rest : List Char} {line : Nat}
    (isBrace : (readToken c rest line).1 = .closeBrace) :
    c = '}' ∧ (readToken c rest line).2.rest = rest := by
  cases single : punctuation? c with
  | some token =>
    simp only [readToken, single] at isBrace ⊢
    subst isBrace
    exact ⟨eq_brace_of_punctuation? single, trivial⟩
  | none =>
    rw [readToken, single] at isBrace
    dsimp only at isBrace
    split at isBrace
    · cases isBrace
    · split at isBrace
      · unfold Token.ofNumberChars at isBrace
        split at isBrace <;> cases isBrace
      · unfold Token.ofWordChars at isBrace
        dsimp only at isBrace
        split at isBrace
        · cases isBrace
        · split at isBrace <;> cases isBrace

namespace Cursor

/-- A closing brace is read of the character, outside of quotes and comments. -/
theorem exists_gap_of_brace {cursor after : Cursor}
    (step : cursor.next = (some .closeBrace, after)) :
    ∃ gap, cursor.rest = gap ++ '}' :: after.rest ∧ Stand.plain.behind gap = .plain := by
  obtain ⟨gap, passes⟩ := seekToken_passes false cursor.rest cursor.line
  simp only [next] at step
  split at step
  · cases step
  · rename_i c rest found
    obtain ⟨isBrace, rfl⟩ := Prod.mk.inj step
    obtain ⟨rfl, whole⟩ := eq_brace_of_readToken (Option.some.inj isBrace)
    refine ⟨gap, ?_, passes.plain (by simp [found])⟩
    rw [whole, ← found]
    exact passes.split

theorem exists_next_of_tokens {text : List Char} {line : Nat} {first : Token}
    {left : List Token} (split : tokens ⟨text, line⟩ = first :: left) :
    ∃ after, next ⟨text, line⟩ = (some first, after) ∧ tokens after = left := by
  cases step : next ⟨text, line⟩ with
  | mk answer after =>
    cases answer with
    | none =>
      rw [tokens_of_next_eq_none (by rw [step])] at split
      cases split
    | some token =>
      rw [tokens_of_next_eq_some step] at split
      obtain ⟨rfl, behind⟩ := List.cons.inj split
      exact ⟨after, rfl, behind⟩

/-- Each closing brace among the tokens is a character outside of quotes and comments,
    and what is behind it among the tokens is behind it in the text. -/
theorem exists_brace {text : List Char} {line : Nat} {before left : List Token}
    (split : tokens ⟨text, line⟩ = before ++ .closeBrace :: left) :
    ∃ front back, text = front ++ '}' :: back ∧ Stand.plain.behind front = .plain ∧
      tokens ⟨back, line⟩ = left := by
  induction before generalizing text line with
  | nil =>
    obtain ⟨after, step, behind⟩ := exists_next_of_tokens split
    obtain ⟨gap, isText, stand⟩ := exists_gap_of_brace step
    exact ⟨gap, after.rest, isText, stand, (tokens_congr after.rest line after.line).trans behind⟩
  | cons first before ih =>
    obtain ⟨after, step, splitBehind⟩ := exists_next_of_tokens split
    obtain ⟨front, back, rest, stand, behind⟩ := ih splitBehind
    obtain ⟨taken, passes⟩ := next_passes ⟨text, line⟩
    rw [step] at passes
    have plain : Stand.plain.behind taken = .plain := passes.plain (by simp [rest])
    refine ⟨taken ++ front, back, ?_, ?_, ?_⟩
    · rw [List.append_assoc, ← rest]
      exact passes.split
    · rw [Stand.behind_append, plain, stand]
    · exact (tokens_congr back line after.line).trans behind

end Cursor

/-- A text has its tokens before and behind each closing brace among them, and keeps
    those before it whatever stands behind the brace. -/
theorem exists_brace_of_tokens {text : String} {before left : List Token}
    (split : tokens text = before ++ .closeBrace :: left) :
    ∃ front back : String, text = front ++ "\x7d" ++ back ∧ tokens front = before ∧
      tokens back = left ∧
      ∀ other : String, tokens (front ++ "\x7d" ++ other) = before ++ .closeBrace :: tokens other := by
  obtain ⟨front, back, isText, stand, behind⟩ := Cursor.exists_brace split
  have cut (other : String) : tokens (String.ofList front ++ "\x7d" ++ other) =
      tokens (String.ofList front) ++ .closeBrace :: tokens other := by
    have characters : (String.ofList front ++ "\x7d" ++ other).toList = front ++ '}' :: other.toList := by
      simp
    rw [tokens, Cursor.start, characters, tokens, Cursor.start, String.toList_ofList]
    exact Cursor.tokens_append_brace stand other.toList
  have whole : text = String.ofList front ++ "\x7d" ++ String.ofList back := by
    apply String.toList_injective
    simpa using isText
  have isBehind : tokens (String.ofList back) = left := by
    rw [tokens, Cursor.start, String.toList_ofList]
    exact behind
  have isBefore : tokens (String.ofList front) = before := by
    have both := cut (String.ofList back)
    rw [← whole, split, isBehind] at both
    exact (List.append_cancel_right both).symm
  exact ⟨_, _, whole, isBefore, isBehind, fun other => isBefore ▸ cut other⟩

end VrmlWorld.Document
