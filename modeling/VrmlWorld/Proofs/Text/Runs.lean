/-
  VrmlWorld/Proofs/Text/Runs.lean
  ===============================
  **Runs of characters of a class.**

  Readers take characters as long as they are of one class. A run is taken as a
  whole if what follows it is of another class (`takeWhile_run`,
  `dropWhile_run`), and what stands behind a character of another class changes
  nothing (`takeWhile_append_stop`, `dropWhile_append_stop`). Trimming takes the
  runs of white space at both ends and leaves a text alone that has none there
  (`trim_eq_self_iff`).
-/
import Mathlib.Data.List.DropRight
import Mathlib.Data.List.TakeWhile
import VrmlWorld.Text.Blank

namespace VrmlWorld.Text

section Classes

variable {p : Char → Bool}

theorem takeWhile_run {run rest : List Char} (inside : ∀ c ∈ run, p c = true)
    (apart : ∀ c, rest.head? = some c → p c = false) : (run ++ rest).takeWhile p = run := by
  rw [List.takeWhile_append_of_pos inside]
  cases rest with
  | nil => simp
  | cons c others => simp [apart c rfl]

theorem dropWhile_run {run rest : List Char} (inside : ∀ c ∈ run, p c = true)
    (apart : ∀ c, rest.head? = some c → p c = false) : (run ++ rest).dropWhile p = rest := by
  rw [List.dropWhile_append_of_pos inside]
  cases rest with
  | nil => rfl
  | cons c others => simp [apart c rfl]

theorem takeWhile_append_stop {d : Char} (stops : p d = false) (text others : List Char) :
    (text ++ d :: others).takeWhile p = text.takeWhile p := by
  induction text with
  | nil => simp [stops]
  | cons c rest ih =>
    cases inside : p c with
    | false => simp [inside]
    | true => simp [inside, ih]

theorem dropWhile_append_stop {d : Char} (stops : p d = false) (text others : List Char) :
    (text ++ d :: others).dropWhile p = text.dropWhile p ++ d :: others := by
  induction text with
  | nil => simp [stops]
  | cons c rest ih =>
    cases inside : p c with
    | false => simp [inside]
    | true => simp [inside, ih]

end Classes

theorem trim_eq_self_iff {text : List Char} :
    trim text = text ↔
      (∀ c, text.head? = some c → isBlank c = false) ∧
        ∀ c, text.getLast? = some c → isBlank c = false := by
  have front : text.dropWhile isBlank = text ↔
      ∀ c, text.head? = some c → isBlank c = false := by
    rw [List.dropWhile_eq_self_iff]
    cases text <;> simp
  have back : text.rdropWhile isBlank = text ↔
      ∀ c, text.getLast? = some c → isBlank c = false := by
    rw [List.rdropWhile_eq_self_iff]
    rcases text.eq_nil_or_concat with rfl | ⟨others, c, rfl⟩ <;> simp
  rw [← front, ← back]
  constructor
  · intro trimmed
    -- What is dropped at the front could not come back at the end.
    have kept : text.dropWhile isBlank = text := by
      have shorter : trim text <+: text.dropWhile isBlank := List.rdropWhile_prefix isBlank _
      rw [trimmed] at shorter
      exact (List.dropWhile_suffix _).eq_of_length_le shorter.length_le
    refine ⟨kept, ?_⟩
    rw [trim, kept] at trimmed
    exact trimmed
  · rintro ⟨kept, kept'⟩
    rw [trim, kept]
    exact kept'

end VrmlWorld.Text
