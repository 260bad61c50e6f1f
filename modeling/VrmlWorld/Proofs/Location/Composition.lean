/-
  VrmlWorld/Proofs/Location/Composition.lean
  ==========================================
  **Two references in a row are one.**

  A document at a URL refers to another one beside it, and that one to a third. A single reference
  of the first document leads there too: the directory of the first reference with the second one
  behind it (`resolve_resolve`). Where the two are joined there is a slash in front and none behind,
  so the joint one has no scheme if both have none.
-/
import VrmlWorld.Proofs.Location.Schemes

namespace VrmlWorld

namespace Location

/-! ### The directory of a reference -/

/-- All of a reference up to its last slash, and that slash. -/
def directory (reference : List Char) : List Char :=
  reference.rdropWhile (· ≠ '/')

theorem directory_isPrefix (reference : List Char) : directory reference <+: reference :=
  List.rdropWhile_prefix _ reference

theorem directory_cases (reference : List Char) :
    directory reference = [] ∨ ∃ front, directory reference = front ++ ['/'] := by
  induction reference using List.reverseRecOn with
  | nil => exact .inl rfl
  | append_singleton front c ih =>
    rw [directory, List.rdropWhile_concat]
    split
    · exact ih
    · rename_i stops
      have isSlash : c = '/' := by simpa using stops
      exact .inr ⟨front, by rw [isSlash]⟩

theorem directory_append (front back : List Char) :
    directory (front ++ '/' :: back) = front ++ '/' :: directory back := by
  induction back using List.reverseRecOn with
  | nil => exact List.rdropWhile_concat_neg _ front '/' (by decide)
  | append_singleton back c ih =>
    rw [← List.cons_append, ← List.append_assoc, directory, directory, List.rdropWhile_concat,
      List.rdropWhile_concat]
    split
    · exact ih
    · rw [List.append_assoc, List.cons_append]

theorem beforeLastSlash_eq (text : List Char) :
    beforeLastSlash text = (directory text).dropLast := by
  rw [beforeLastSlash, directory, List.rdropWhile, List.dropLast_reverse]

theorem beforeLastSlash_append (front back : List Char) :
    beforeLastSlash (front ++ '/' :: back) ++ ['/'] = front ++ '/' :: directory back := by
  rw [beforeLastSlash_eq, ← directory_append]
  rcases directory_cases (front ++ '/' :: back) with nothing | ⟨others, whole⟩
  · rw [directory_append] at nothing
    simp at nothing
  · rw [whole, List.dropLast_concat]

/-! ### Relative references -/

/-- A reference to another document of the same place: neither empty nor rooted, without a scheme
    and without white space around it. -/
structure Relative (reference : List Char) : Prop where
  ne_nil : reference ≠ []
  trimmed : Text.trim reference = reference
  plain : hasScheme reference = false
  unrooted : Path.isAbsolute reference = false

namespace Relative

variable {first second : List Char}

theorem directory_append (relative : Relative first) (relative' : Relative second) :
    Relative (directory first ++ second) := by
  obtain ⟨behind, whole⟩ := directory_isPrefix first
  rcases directory_cases first with nothing | ⟨front, ends⟩
  · rw [nothing]
    exact relative'
  · -- The directory is not empty, so the joint reference begins as the first one does.
    have head_eq : (directory first ++ second).head? = first.head? := by
      rw [← congrArg List.head? whole, List.head?_append, List.head?_append, ends]
      cases front <;> rfl
    constructor
    · exact List.append_ne_nil_of_right_ne_nil _ relative'.ne_nil
    · have last_eq : (directory first ++ second).getLast? = second.getLast? := by
        rw [List.getLast?_append]
        rcases second.eq_nil_or_concat with rfl | ⟨others, c, rfl⟩
        · exact absurd rfl relative'.ne_nil
        · simp
      rw [Text.trim_eq_self_iff, head_eq, last_eq]
      exact ⟨(Text.trim_eq_self_iff.1 relative.trimmed).1,
        (Text.trim_eq_self_iff.1 relative'.trimmed).2⟩
    · rw [ends, List.append_assoc, List.singleton_append,
        hasScheme_append_behind_slash front relative'.unrooted, ← ends, ← Bool.not_eq_true]
      intro has
      exact absurd (hasScheme_of_isPrefix (directory_isPrefix first) has) (by simp [relative.plain])
    · rw [← Bool.not_eq_true, Path.isAbsolute_iff, head_eq, ← Path.isAbsolute_iff]
      simp [relative.unrooted]

theorem reroute_eq (relative : Relative first) (route : List Char) :
    reroute route first = beforeLastSlash route ++ '/' :: first := by
  rw [reroute, relative.unrooted]
  rfl

/-- Beside a URL a relative reference changes the last segment of the route. -/
theorem resolve_eq {start route : List Char} (isOrigin : IsOrigin start) (isRoute : IsRoute route)
    {reference : String} (relative : Relative reference.toList) :
    resolve (some (url (String.ofList (start ++ route)))) reference =
      .ok (url (String.ofList (start ++ (beforeLastSlash route ++ '/' :: reference.toList)))) := by
  rw [resolve.eq_def]
  dsimp only
  rw [relative.trimmed, List.isEmpty_eq_false_iff.2 relative.ne_nil, relative.plain,
    String.toList_ofList, besideUrl?_append isOrigin isRoute, relative.reroute_eq]
  rfl

end Relative

/-! ### Two references -/

/-- A relative reference beside a URL, and another one beside what it leads to, lead where one
    reference beside the URL does: the second one behind the directory of the first. -/
theorem resolve_resolve {base first second : String} (isUrl : parse base = url base)
    (relative : Relative first.toList) (relative' : Relative second.toList) :
    ∃ middle target,
      resolve (some (url base)) first = .ok middle ∧
      resolve (some middle) second = .ok target ∧
      resolve (some (url base)) (String.ofList (directory first.toList ++ second.toList)) =
        .ok target := by
  obtain ⟨start, route, isOrigin, isRoute, whole⟩ :=
    exists_origin_of_hasScheme (classified_url_iff.1 isUrl)
  have joint : Relative (String.ofList (directory first.toList ++ second.toList)).toList := by
    rw [String.toList_ofList]
    exact relative.directory_append relative'
  have isRoute' : IsRoute (beforeLastSlash route ++ '/' :: first.toList) := by
    rw [← relative.reroute_eq]
    exact isRoute_reroute isRoute first.toList
  have same :
      beforeLastSlash (beforeLastSlash route ++ '/' :: first.toList) ++ '/' :: second.toList =
        beforeLastSlash route ++ '/' :: (directory first.toList ++ second.toList) := by
    rw [List.append_cons, beforeLastSlash_append, List.append_assoc, List.cons_append]
  have base_eq : base = String.ofList (start ++ route) := by rw [← whole, String.ofList_toList]
  refine ⟨_, _, base_eq ▸ relative.resolve_eq isOrigin isRoute,
    relative'.resolve_eq isOrigin isRoute', ?_⟩
  rw [base_eq, joint.resolve_eq isOrigin isRoute, String.toList_ofList, same]

/-- The base may have no route, and the first reference may hold a `://` behind a slash. -/
theorem resolve_resolve_without_route :
    let base := "http://a.org"
    let first := "b/c://d.wrl"
    let second := "e/f.wrl"
    (parse base = url base ∧ Relative first.toList ∧ Relative second.toList) ∧
      ∃ middle target,
        resolve (some (url base)) first = .ok middle ∧
        resolve (some middle) second = .ok target ∧
        resolve (some (url base)) (String.ofList (directory first.toList ++ second.toList)) =
          .ok target := by
  intro base first second
  have isUrl : parse base = url base := by decide +kernel
  have relative : Relative first.toList := by
    constructor <;> decide +kernel
  have relative' : Relative second.toList := by
    constructor <;> decide +kernel
  exact ⟨⟨isUrl, relative, relative'⟩, resolve_resolve isUrl relative relative'⟩

end Location

end VrmlWorld
