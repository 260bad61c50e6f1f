/-
  VrmlWorld/Proofs/Location/Schemes.lean
  ======================================
  **What makes a reference a URL.**

  A scheme is made of characters that are neither colons nor slashes, so a text
  has one exactly if it begins with such characters and `://` behind them
  (`hasScheme_iff`), and the first slash of the text tells
  (`hasScheme_iff_of_first_slash`). What is put behind another slash makes no
  scheme unless it begins with a slash itself (`hasScheme_append_behind_slash`).

  A URL is an origin, which is its scheme and its authority, and a route, which
  is empty or begins with a slash. A reference beside it changes the route alone
  (`besideUrl?_append`).
-/
import VrmlWorld.Location
import VrmlWorld.Proofs.Text.Runs

namespace VrmlWorld

theorem Path.isAbsolute_iff {text : List Char} :
    Path.isAbsolute text = true ↔ text.head? = some '/' := by
  fun_cases Path.isAbsolute text with
  | case1 rest => exact iff_of_true rfl rfl
  | case2 text other =>
    refine iff_of_false Bool.false_ne_true fun first => ?_
    obtain ⟨rest, whole⟩ := List.head?_eq_some_iff.1 first
    exact other rest whole

namespace Location

/-- What stands between the scheme of a URL and its authority. -/
abbrev schemeEnd : List Char := [':', '/', '/']

/-! ### The first slash -/

/-- What stands behind the authority of a URL: nothing, or a text that begins with a slash. -/
def IsRoute (route : List Char) : Prop := ∀ c, route.head? = some c → c = '/'

theorem isRoute_slash (rest : List Char) : IsRoute ('/' :: rest) := by
  rintro c ⟨⟩
  rfl

theorem takeWhile_append_route {authority route : List Char} (noSlash : '/' ∉ authority)
    (isRoute : IsRoute route) : (authority ++ route).takeWhile (· ≠ '/') = authority := by
  apply Text.takeWhile_run
  · intro c inside
    rw [decide_eq_true_iff]
    rintro rfl
    exact noSlash inside
  · intro c first
    rw [isRoute c first]
    rfl

theorem dropWhile_append_route {authority route : List Char} (noSlash : '/' ∉ authority)
    (isRoute : IsRoute route) : (authority ++ route).dropWhile (· ≠ '/') = route := by
  have whole := List.takeWhile_append_dropWhile (p := (· ≠ '/')) (l := authority ++ route)
  rw [takeWhile_append_route noSlash isRoute] at whole
  exact List.append_cancel_left whole

/-! ### Schemes -/

/-- The scheme of a URL, without what stands behind it. -/
structure IsScheme (scheme : List Char) : Prop where
  ne_nil : scheme ≠ []
  chars : ∀ c ∈ scheme, isSchemeChar c = true

namespace IsScheme

variable {scheme : List Char}

theorem colon_notMem (isScheme : IsScheme scheme) : ':' ∉ scheme := by
  intro inside
  have wrong : isSchemeChar ':' = true := isScheme.chars ':' inside
  exact absurd wrong (by decide)

theorem slash_notMem (isScheme : IsScheme scheme) : '/' ∉ scheme := by
  intro inside
  have wrong : isSchemeChar '/' = true := isScheme.chars '/' inside
  exact absurd wrong (by decide)

end IsScheme

theorem splitScheme?_append {scheme : List Char} (noColon : ':' ∉ scheme) (tail : List Char) :
    splitScheme? (scheme ++ schemeEnd ++ tail) = some (scheme, tail) := by
  induction scheme with
  | nil => rfl
  | cons c rest ih =>
    rw [List.mem_cons, not_or] at noColon
    obtain ⟨notFirst, notBehind⟩ := noColon
    rw [List.cons_append, List.cons_append, splitScheme?, ih notBehind]
    · rfl
    · intro _ isColon
      exact absurd isColon.symm notFirst

theorem eq_of_splitScheme? {text scheme tail : List Char}
    (split : splitScheme? text = some (scheme, tail)) : text = scheme ++ schemeEnd ++ tail := by
  fun_induction splitScheme? text generalizing scheme with
  | case1 rest =>
    cases split
    rfl
  | case2 c rest _ ih =>
    obtain ⟨⟨front, behind⟩, found, same⟩ := Option.map_eq_some_iff.1 split
    cases same
    rw [ih found]
    rfl
  | case3 => cases split

theorem hasScheme_iff {text : List Char} :
    hasScheme text = true ↔
      ∃ scheme tail, IsScheme scheme ∧ text = scheme ++ schemeEnd ++ tail := by
  constructor
  · intro has
    rw [hasScheme] at has
    split at has
    · rename_i scheme tail split
      rw [Bool.and_eq_true, Bool.not_eq_true', List.isEmpty_eq_false_iff] at has
      exact ⟨scheme, tail, ⟨has.1, List.all_eq_true.1 has.2⟩, eq_of_splitScheme? split⟩
    · cases has
  · rintro ⟨scheme, tail, isScheme, rfl⟩
    rw [hasScheme, splitScheme?_append isScheme.colon_notMem]
    dsimp only
    rw [Bool.and_eq_true, Bool.not_eq_true', List.isEmpty_eq_false_iff, List.all_eq_true]
    exact ⟨isScheme.ne_nil, isScheme.chars⟩

theorem hasScheme_of_isPrefix {front text : List Char} (front_text : front <+: text)
    (has : hasScheme front = true) : hasScheme text = true := by
  obtain ⟨back, rfl⟩ := front_text
  obtain ⟨scheme, tail, isScheme, rfl⟩ := hasScheme_iff.1 has
  exact hasScheme_iff.2 ⟨scheme, tail ++ back, isScheme, List.append_assoc ..⟩

/-- A scheme and its colon are all that stands before the first slash, and the second slash
    follows at once. -/
theorem hasScheme_iff_of_first_slash {front : List Char} (noSlash : '/' ∉ front)
    (back : List Char) :
    hasScheme (front ++ '/' :: back) = true ↔
      (∃ scheme, IsScheme scheme ∧ front = scheme ++ [':']) ∧ back.head? = some '/' := by
  constructor
  · intro has
    obtain ⟨scheme, tail, isScheme, same⟩ := hasScheme_iff.1 has
    have noSlash' : '/' ∉ scheme ++ [':'] := by
      rw [List.mem_append, List.mem_singleton, not_or]
      exact ⟨isScheme.slash_notMem, by decide⟩
    have same : front ++ '/' :: back = (scheme ++ [':']) ++ '/' :: '/' :: tail := by
      rw [same, List.append_assoc, List.append_assoc]
      rfl
    have fronts := congrArg (List.takeWhile (· ≠ '/')) same
    have backs := congrArg (List.dropWhile (· ≠ '/')) same
    rw [takeWhile_append_route noSlash (isRoute_slash back),
      takeWhile_append_route noSlash' (isRoute_slash _)] at fronts
    rw [dropWhile_append_route noSlash (isRoute_slash back),
      dropWhile_append_route noSlash' (isRoute_slash _)] at backs
    refine ⟨⟨scheme, isScheme, fronts⟩, ?_⟩
    rw [(List.cons.inj backs).2]
    rfl
  · rintro ⟨⟨scheme, isScheme, rfl⟩, follows⟩
    obtain ⟨tail, rfl⟩ := List.head?_eq_some_iff.1 follows
    refine hasScheme_iff.2 ⟨scheme, tail, isScheme, ?_⟩
    rw [List.append_assoc, List.append_assoc]
    rfl

theorem hasScheme_of_no_slash {text : List Char} (noSlash : '/' ∉ text) :
    hasScheme text = false := by
  rw [← Bool.not_eq_true, hasScheme_iff]
  rintro ⟨scheme, tail, -, rfl⟩
  simp at noSlash

/-- Behind a slash, what does not begin with another one makes no scheme. -/
theorem hasScheme_append_behind_slash {back : List Char} (front : List Char)
    (relative : Path.isAbsolute back = false) :
    hasScheme (front ++ '/' :: back) = hasScheme (front ++ ['/']) := by
  rw [← Bool.not_eq_true, Path.isAbsolute_iff] at relative
  rw [Bool.eq_iff_iff]
  by_cases inside : '/' ∈ front
  · obtain ⟨start, rest, rfl, noSlash⟩ := List.eq_append_cons_of_mem inside
    rw [List.append_assoc, List.append_assoc, List.cons_append, List.cons_append,
      hasScheme_iff_of_first_slash noSlash, hasScheme_iff_of_first_slash noSlash]
    cases rest <;> exact Iff.rfl
  · rw [hasScheme_iff_of_first_slash inside, hasScheme_iff_of_first_slash inside]
    exact and_congr_right fun _ => iff_of_false relative (Option.some_ne_none _).symm

/-- A slash behind a text that does not end with one makes no scheme. -/
theorem hasScheme_append_slash {front : List Char} (ends : front.getLast? ≠ some '/') :
    hasScheme (front ++ ['/']) = hasScheme front := by
  rw [Bool.eq_iff_iff]
  by_cases inside : '/' ∈ front
  · obtain ⟨start, rest, rfl, noSlash⟩ := List.eq_append_cons_of_mem inside
    rw [List.append_assoc, List.cons_append, hasScheme_iff_of_first_slash noSlash,
      hasScheme_iff_of_first_slash noSlash]
    rcases rest with _ | ⟨c, rest⟩
    · simp at ends
    · exact Iff.rfl
  · rw [hasScheme_iff_of_first_slash inside, hasScheme_of_no_slash inside]
    exact iff_of_false (fun has => nomatch has.2) Bool.false_ne_true

/-! ### Locations of either kind -/

/-- A location of the kind that its own text tells. -/
def Classified (location : Location) : Prop := parse location.text = location

theorem classified_url_iff {text : String} :
    (url text).Classified ↔ hasScheme text.toList = true := by
  rw [Classified, parse, Location.text]
  cases hasScheme text.toList <;> simp

theorem classified_path_iff {text : String} :
    (path text).Classified ↔ hasScheme text.toList = false := by
  rw [Classified, parse, Location.text]
  cases hasScheme text.toList <;> simp

theorem classified_parse (text : String) : (parse text).Classified := by
  rw [parse]
  split
  · rename_i has
    exact classified_url_iff.2 has
  · rename_i plain
    exact classified_path_iff.2 (Bool.not_eq_true _ ▸ plain)

/-! ### Origins and routes -/

/-- The scheme of a URL and its authority, in which there is no slash. -/
def IsOrigin (origin : List Char) : Prop :=
  ∃ scheme authority, IsScheme scheme ∧ '/' ∉ authority ∧ origin = scheme ++ schemeEnd ++ authority

/-- The part of a URL up to the first slash behind `://`, or the whole of it if there is none. -/
def origin (url : List Char) : List Char :=
  match splitScheme? url with
  | some (scheme, tail) => scheme ++ schemeEnd ++ tail.takeWhile (· ≠ '/')
  | none => url

/-- The route that a reference leads to. -/
def reroute (route reference : List Char) : List Char :=
  if Path.isAbsolute reference then reference else beforeLastSlash route ++ '/' :: reference

theorem IsOrigin.hasScheme_append {start : List Char} (isOrigin : IsOrigin start)
    (route : List Char) : hasScheme (start ++ route) = true := by
  obtain ⟨scheme, authority, isScheme, -, rfl⟩ := isOrigin
  exact hasScheme_iff.2 ⟨scheme, authority ++ route, isScheme, List.append_assoc ..⟩

theorem IsOrigin.origin_append {start route : List Char} (isOrigin : IsOrigin start)
    (isRoute : IsRoute route) : origin (start ++ route) = start := by
  obtain ⟨scheme, authority, isScheme, noSlash, rfl⟩ := isOrigin
  rw [origin, List.append_assoc, splitScheme?_append isScheme.colon_notMem]
  dsimp only
  rw [takeWhile_append_route noSlash isRoute]

/-- Every URL is an origin with a route. -/
theorem exists_origin_of_hasScheme {url : List Char} (has : hasScheme url = true) :
    ∃ start route, IsOrigin start ∧ IsRoute route ∧ url = start ++ route := by
  obtain ⟨scheme, tail, isScheme, rfl⟩ := hasScheme_iff.1 has
  refine ⟨scheme ++ schemeEnd ++ tail.takeWhile (· ≠ '/'), tail.dropWhile (· ≠ '/'),
    ⟨scheme, _, isScheme, ?_, rfl⟩, ?_, ?_⟩
  · intro inside
    have := List.all_eq_true.1 List.all_takeWhile '/' inside
    simp at this
  · intro c first
    have := List.head?_dropWhile_not (· ≠ '/') tail
    rw [first] at this
    simpa using this
  · rw [List.append_assoc _ (List.takeWhile ..), List.takeWhile_append_dropWhile]

/-- A reference beside a URL changes its route alone. -/
theorem besideUrl?_append {start route : List Char} (isOrigin : IsOrigin start)
    (isRoute : IsRoute route) (reference : List Char) :
    besideUrl? (start ++ route) reference = some (start ++ reroute route reference) := by
  obtain ⟨scheme, authority, isScheme, noSlash, rfl⟩ := isOrigin
  rw [besideUrl?, List.append_assoc, splitScheme?_append isScheme.colon_notMem]
  simp only [Option.bind_eq_bind, Option.bind_some, takeWhile_append_route noSlash isRoute,
    dropWhile_append_route noSlash isRoute, reroute]
  split
  · rfl
  · simp

theorem beforeLastSlash_isPrefix (text : List Char) : beforeLastSlash text <+: text := by
  rw [beforeLastSlash, ← List.dropLast_reverse]
  exact (List.dropLast_prefix _).trans (List.rdropWhile_prefix _ text)

theorem isRoute_reroute {route : List Char} (isRoute : IsRoute route) (reference : List Char) :
    IsRoute (reroute route reference) := by
  intro c first
  rw [reroute] at first
  split at first
  · rename_i absolute
    rw [Path.isAbsolute_iff, first] at absolute
    exact Option.some.inj absolute
  · obtain ⟨behind, whole⟩ := beforeLastSlash_isPrefix route
    rcases kept : beforeLastSlash route with _ | ⟨d, others⟩
    · rw [kept] at first
      exact (Option.some.inj first).symm
    · rw [kept] at first whole
      apply isRoute c
      rw [← whole]
      exact first

end Location

end VrmlWorld
