/-
  VrmlWorld/Proofs/Document/Passages.lean
  =======================================
  **What a cursor passes over, and which lines it counts there.**

  A cursor takes its characters from the front of what is unread. A token takes at
  least one of them, and at the end of the file the cursor stays where it is
  (`lines_read_apart`). The number of its line goes up with every newline that it
  passes, except in one place: a newline behind a backslash in quotes is taken as it
  stands and counts no line (`Cursor.line_of_calls`).
-/
import VrmlWorld.Proofs.Document.LineBreaks

namespace VrmlWorld.Document

/-! ### Passages -/

namespace Stand

theorem behind_append (stand : Stand) (text others : List Char) :
    stand.behind (text ++ others) = (stand.behind text).behind others :=
  List.foldl_append

theorem behind_takeWhile {p : Char → Bool} (noQuote : p '"' = false) (noComment : p '#' = false)
    (text : List Char) : plain.behind (text.takeWhile p) = plain := by
  induction text with
  | nil => rfl
  | cons c rest ih =>
    cases inside : p c with
    | false => simp [inside]
    | true =>
      have same : after plain c = plain := by
        apply after_plain
        · rintro rfl
          rw [noQuote] at inside
          cases inside
        · rintro rfl
          rw [noComment] at inside
          cases inside
      simpa [inside, same] using ih

/-- The newlines of a text that stand in quotes right behind a backslash which
    escapes them. -/
def escapedBreaks : Stand → List Char → Nat
  | _, [] => 0
  | stand, c :: text =>
      (if c = '\n' ∧ stand = escaped then 1 else 0) + (stand.after c).escapedBreaks text

theorem escapedBreaks_append (stand : Stand) (text others : List Char) :
    stand.escapedBreaks (text ++ others) =
      stand.escapedBreaks text + (stand.behind text).escapedBreaks others := by
  induction text generalizing stand with
  | nil => simp [escapedBreaks]
  | cons c text ih => simp [escapedBreaks, ih, Nat.add_assoc]

/-- A run of a class without newlines has none that is escaped. -/
theorem escapedBreaks_of_notMem {text : List Char} (noBreak : '\n' ∉ text) (stand : Stand) :
    stand.escapedBreaks text = 0 := by
  induction text generalizing stand with
  | nil => rfl
  | cons c text ih =>
    have noneHere : c ≠ '\n' := Ne.symm (List.ne_of_not_mem_cons noBreak)
    simp [escapedBreaks, noneHere, ih (List.not_mem_of_not_mem_cons noBreak)]

end Stand

/-- From a place of some kind, a cursor gets to a position behind the characters that
    it takes. Each newline among them counts, unless it is escaped in quotes; and only
    the end of the file breaks off a comment or a quoted text. -/
structure Passes (stand : Stand) (start : Cursor) (taken : List Char) (reached : Cursor) :
    Prop where
  split : start.rest = taken ++ reached.rest
  counted : reached.line + stand.escapedBreaks taken = start.line + taken.count '\n'
  plain : reached.rest ≠ [] → stand.behind taken = .plain

namespace Passes

variable {stand : Stand} {start middle reached : Cursor} {taken more rest : List Char} {c : Char}
  {line line' : Nat}

/-- One character more in front. -/
theorem cons (counted : line' + (if c = '\n' ∧ stand = .escaped then 1 else 0) =
      line + if c = '\n' then 1 else 0)
    (passes : Passes (stand.after c) ⟨rest, line'⟩ taken reached) :
    Passes stand ⟨c :: rest, line⟩ (c :: taken) reached where
  split := congrArg (c :: ·) passes.split
  counted := by
    have behind := passes.counted
    simp only [Stand.escapedBreaks, List.count_cons, beq_iff_eq] at behind ⊢
    omega
  plain := passes.plain

/-- Two passages in a row. The second one has nothing to take if the first one ends
    with the file. -/
theorem trans (first : Passes .plain start taken middle)
    (second : Passes .plain middle more reached) : Passes .plain start (taken ++ more) reached := by
  have split : start.rest = taken ++ more ++ reached.rest := by
    rw [first.split, second.split, List.append_assoc]
  have counted := first.counted
  have counted' := second.counted
  by_cases finished : middle.rest = []
  · have nothing : more = [] ∧ reached.rest = [] := by
      rw [← List.append_eq_nil_iff, ← second.split]
      exact finished
    obtain ⟨rfl, last⟩ := nothing
    refine ⟨split, ?_, fun onward => absurd last onward⟩
    simp only [Stand.escapedBreaks, List.count_nil, List.append_nil] at counted' ⊢
    omega
  · have plain := first.plain finished
    refine ⟨split, ?_, fun onward => ?_⟩
    · rw [Stand.escapedBreaks_append, plain, List.count_append]
      omega
    · rw [Stand.behind_append, plain]
      exact second.plain onward

end Passes

/-! ### One token -/

theorem standBetween_ne_escaped (inComment : Bool) : standBetween inComment ≠ .escaped := by
  cases inComment <;> decide

theorem seekToken_passes (inComment : Bool) (text : List Char) (line : Nat) :
    ∃ gap, Passes (standBetween inComment) ⟨text, line⟩ gap (seekToken inComment text line) := by
  have counts (inComment : Bool) (line : Nat) :
      line + 1 + (if '\n' = '\n' ∧ standBetween inComment = .escaped then 1 else 0) =
        line + if '\n' = '\n' then 1 else 0 := by
    simp [standBetween_ne_escaped]
  have countsNot (stand : Stand) (line : Nat) {c : Char} (noNewline : c ≠ '\n') :
      line + (if c = '\n' ∧ stand = .escaped then 1 else 0) =
        line + if c = '\n' then 1 else 0 := by
    simp [noNewline]
  fun_induction seekToken inComment text line with
  | case1 inComment line => exact ⟨[], rfl, rfl, fun more => absurd rfl more⟩
  | case2 text line ih =>
    obtain ⟨gap, passes⟩ := ih
    exact ⟨'\n' :: gap, .cons (counts true line) passes⟩
  | case3 d text line noNewline ih =>
    obtain ⟨gap, passes⟩ := ih
    have stays : (standBetween true).after d = standBetween true := by
      simp [standBetween, Stand.after, noNewline]
    exact ⟨d :: gap, .cons (countsNot _ line noNewline) (by rwa [stays])⟩
  | case4 text line ih =>
    obtain ⟨gap, passes⟩ := ih
    exact ⟨'\n' :: gap, .cons (counts false line) passes⟩
  | case5 text line noNewline ih =>
    obtain ⟨gap, passes⟩ := ih
    exact ⟨'#' :: gap, .cons (countsNot _ line noNewline) passes⟩
  | case6 d text line noNewline noComment starts => exact ⟨[], rfl, rfl, fun _ => rfl⟩
  | case7 d text line noNewline noComment noToken ih =>
    obtain ⟨gap, passes⟩ := ih
    have noQuote : d ≠ '"' := by
      rintro rfl
      exact noToken (by decide)
    have stays : (standBetween false).after d = standBetween false :=
      Stand.after_plain noQuote noComment
    exact ⟨d :: gap, .cons (countsNot _ line noNewline) (by rwa [stays])⟩

theorem startsToken_of_seekToken {inComment : Bool} {text rest : List Char} {c : Char} {line : Nat}
    (found : (seekToken inComment text line).rest = c :: rest) : startsToken c = true := by
  fun_induction seekToken inComment text line with
  | case1 => cases found
  | case2 text line ih => exact ih found
  | case3 d text line noNewline ih => exact ih found
  | case4 text line ih => exact ih found
  | case5 text line noNewline ih => exact ih found
  | case6 d text line noNewline noComment starts =>
    obtain ⟨rfl, -⟩ := List.cons.inj found
    exact starts
  | case7 d text line noNewline noComment noToken ih => exact ih found

theorem readQuoted_passes (found text : List Char) (line : Nat) :
    ∃ run, Passes .quoted ⟨text, line⟩ run (readQuoted found text line).2 := by
  fun_induction readQuoted found text line with
  | case1 => exact ⟨[], rfl, rfl, fun more => absurd rfl more⟩
  | case2 => exact ⟨['\\'], rfl, rfl, fun more => absurd rfl more⟩
  | case3 found c rest line ih =>
    -- Both sides count the escaped character, or neither does.
    obtain ⟨run, passes⟩ := ih
    have escapes : Passes (Stand.quoted.after '\\') ⟨c :: rest, line⟩ (c :: run)
        (readQuoted (c :: found) rest line).2 :=
      .cons (by simp [Stand.after]) passes
    exact ⟨'\\' :: c :: run, .cons rfl escapes⟩
  | case4 found rest line => exact ⟨['"'], rfl, rfl, fun _ => rfl⟩
  | case5 found c rest line noEnd noMore noQuote ih =>
    have noEscape : c ≠ '\\' := by
      rintro rfl
      rcases rest with _ | ⟨d, rest⟩
      · exact noEnd rfl rfl
      · exact noMore d rest rfl rfl
    have stays : Stand.quoted.after c = .quoted := by simp [Stand.after, noEscape, noQuote]
    obtain ⟨run, passes⟩ := ih
    refine ⟨c :: run, .cons ?_ (by rwa [stays])⟩
    by_cases newline : c = '\n' <;> simp [newline]

/-- A run of a class without quotes, comments and newlines. -/
theorem passes_takeWhile {p : Char → Bool} (noQuote : p '"' = false) (noComment : p '#' = false)
    (noNewline : p '\n' = false) (text : List Char) (line : Nat) :
    Passes .plain ⟨text, line⟩ (text.takeWhile p) ⟨text.dropWhile p, line⟩ := by
  have noBreak : '\n' ∉ text.takeWhile p := by
    intro member
    rw [List.mem_takeWhile_imp member] at noNewline
    cases noNewline
  refine ⟨List.takeWhile_append_dropWhile.symm, ?_, fun _ => ?_⟩
  · rw [Stand.escapedBreaks_of_notMem noBreak, List.count_eq_zero_of_not_mem noBreak]
  · exact Stand.behind_takeWhile noQuote noComment text

theorem readToken_passes {c : Char} (starts : startsToken c = true) (rest : List Char)
    (line : Nat) :
    ∃ run, Passes .plain ⟨c :: rest, line⟩ (c :: run) (readToken c rest line).2 := by
  have noComment : c ≠ '#' := by
    rintro rfl
    revert starts
    decide
  have noNewline : c ≠ '\n' := by
    rintro rfl
    revert starts
    decide
  have counted : line + (if c = '\n' ∧ Stand.plain = .escaped then 1 else 0) =
      line + if c = '\n' then 1 else 0 := by
    simp [noNewline]
  by_cases quote : c = '"'
  · subst quote
    obtain ⟨run, passes⟩ := readQuoted_passes [] rest line
    exact ⟨run, .cons counted passes⟩
  · have stays : Stand.plain.after c = .plain := Stand.after_plain quote noComment
    have onward {run : List Char} {reached : Cursor}
        (passes : Passes .plain ⟨rest, line⟩ run reached) :
        Passes .plain ⟨c :: rest, line⟩ (c :: run) reached :=
      .cons counted (by rwa [stays])
    cases single : punctuation? c with
    | some token =>
      simp only [readToken, single]
      exact ⟨[], onward ⟨rfl, rfl, fun _ => rfl⟩⟩
    | none =>
      by_cases number : startsNumber c
      · simp only [readToken, single, if_neg quote, if_pos number]
        exact ⟨_, onward (passes_takeWhile (by decide) (by decide) (by decide) rest line)⟩
      · simp only [readToken, single, if_neg quote, if_neg number]
        exact ⟨_, onward (passes_takeWhile (by decide) (by decide) (by decide) rest line)⟩

namespace Cursor

/-- The next token, or the end of the file, is reached by taking characters from the
    front of what is unread. -/
theorem next_passes (cursor : Cursor) : ∃ taken, Passes .plain cursor taken cursor.next.2 := by
  obtain ⟨gap, passes⟩ := seekToken_passes false cursor.rest cursor.line
  simp only [next]
  split
  · exact ⟨gap, passes⟩
  · rename_i c rest found
    obtain ⟨run, read⟩ := readToken_passes (startsToken_of_seekToken found) rest
      (seekToken false cursor.rest cursor.line).line
    rw [← found] at read
    exact ⟨gap ++ c :: run, passes.trans read⟩

/-! ### Any number of tokens -/

/-- The position behind the next token. -/
def advance (cursor : Cursor) : Cursor := cursor.next.2

theorem advance_passes (calls : Nat) (cursor : Cursor) :
    ∃ taken, Passes .plain cursor taken (advance^[calls] cursor) := by
  induction calls generalizing cursor with
  | zero => exact ⟨[], rfl, rfl, fun _ => rfl⟩
  | succ calls ih =>
    obtain ⟨taken, first⟩ := cursor.next_passes
    obtain ⟨more, others⟩ := ih cursor.advance
    exact ⟨taken ++ more, first.trans others⟩

/-- Whatever has been read, the line of the cursor is one more than the newlines among
    the characters taken, those left out that are escaped in quotes. -/
theorem line_of_calls (text : String) (calls : Nat) :
    ∃ taken, text.toList = taken ++ (advance^[calls] (start text)).rest ∧
      (advance^[calls] (start text)).line + Stand.plain.escapedBreaks taken =
        1 + taken.count '\n' := by
  obtain ⟨taken, passes⟩ := advance_passes calls (start text)
  exact ⟨taken, passes.split, passes.counted⟩

/-- Behind a quoted text with an escaped newline in it, the cursor is still on the first
    line. -/
theorem line_behind_escaped_break :
    advance^[1] (start "\"a\\\nb\"") = ⟨[], 1⟩ ∧ 1 + "\"a\\\nb\"".toList.count '\n' = 2 := by
  decide

/-! ### Where reading ends -/

theorem exists_cons_of_next {cursor after : Cursor} {token : Token}
    (step : cursor.next = (some token, after)) :
    ∃ c taken, cursor.rest = c :: (taken ++ after.rest) := by
  obtain ⟨taken, passes⟩ := cursor.next_passes
  rw [step] at passes
  rcases taken with _ | ⟨c, taken⟩
  · have shorter := length_next_lt step
    have same : cursor.rest = after.rest := passes.split
    rw [same] at shorter
    exact absurd shorter (Nat.lt_irrefl _)
  · exact ⟨c, taken, passes.split⟩

/-- At the end of the file the cursor stays. -/
theorem next_of_finished {cursor finish : Cursor} (last : cursor.next = (none, finish)) :
    finish.next = (none, finish) := by
  simp only [next] at last
  split at last
  · rename_i finished
    obtain ⟨-, rfl⟩ := Prod.mk.inj last
    simp only [next, finished, seekToken]
    rw [← finished]
  · cases last

end Cursor

open Cursor

/-- Tokens are read line by line. The tokens of a text and of what stands on the next
    lines are those of both, whatever these are, exactly if the text does not end in
    quotes. Every token takes a character at least; and once there is none, there is none
    ever after, and the line stays the same. -/
theorem lines_read_apart :
    (∀ text : String, endsInQuotes text.toList = false ↔
      ∀ others, tokens (text ++ "\n" ++ others) = tokens text ++ tokens others) ∧
    (∀ (cursor after : Cursor) (token : Token), cursor.next = (some token, after) →
      ∃ c taken, cursor.rest = c :: (taken ++ after.rest)) ∧
    ∀ cursor finish : Cursor, cursor.next = (none, finish) →
      ∀ calls, (advance^[calls] finish).next = (none, finish) := by
  refine ⟨fun text => ?_, fun _ _ _ => exists_cons_of_next, fun cursor finish last calls => ?_⟩
  · constructor
    · exact tokens_append_newline
    · intro apart
      rw [← Bool.not_eq_true]
      intro unclosed
      refine @tokens_newline_ne _ 1 unclosed ?_
      have alone := apart ""
      have nothing : tokens "" = [] := tokens_of_next_eq_none rfl
      rw [nothing, List.append_nil] at alone
      simpa [tokens, Cursor.tokens, start] using alone
  · have stays : finish.advance = finish := congrArg Prod.snd (next_of_finished last)
    rw [Function.iterate_fixed stays]
    exact next_of_finished last

/-- A line break ends a comment, and so does it end what is no number. -/
theorem lines_read_apart_in_comment :
    endsInQuotes "1-2 # \"a".toList = false ∧
      tokens ("1-2 # \"a" ++ "\n" ++ "b\" -") = tokens "1-2 # \"a" ++ tokens "b\" -" := by
  have outside : endsInQuotes "1-2 # \"a".toList = false := by decide
  exact ⟨outside, (lines_read_apart.1 _).1 outside _⟩

end VrmlWorld.Document
