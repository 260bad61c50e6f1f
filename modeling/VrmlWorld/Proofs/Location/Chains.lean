/-
  VrmlWorld/Proofs/Location/Chains.lean
  =====================================
  **Where a chain of references leads.**

  A document refers to another one, which refers to a third, and so on. Resolving fails for an
  empty reference and for no other, and as long as no reference has a scheme of its own, a chain
  that begins at a URL stays at the origin of that URL, and one that begins at a path stays among
  the paths (`follow_stays_at_origin`). No place on the way is mistaken for one of the other kind
  when its text is read again: the directory of a path is a beginning of it, and what is put behind
  that makes no `://` together with it.
-/
import VrmlWorld.Proofs.Location.Schemes

namespace VrmlWorld

/-! ### Directories -/

namespace Path

theorem joined_cons {pieces : List (List Char)} (piece : List Char) (more : pieces ≠ []) :
    joined (piece :: pieces) = piece ++ '/' :: joined pieces := by
  rcases pieces with _ | ⟨next, others⟩
  · exact absurd rfl more
  · rfl

theorem segments_ne_nil (text : List Char) : segments text ≠ [] := by
  fun_cases segments text <;> simp

theorem joined_segments (text : List Char) : joined (segments text) = text := by
  fun_induction segments text with
  | case1 => rfl
  | case2 c rest none_there => exact absurd none_there (segments_ne_nil rest)
  | case3 rest first others split ih =>
    rw [joined_cons _ (List.cons_ne_nil _ _), ← split, ih]
    rfl
  | case4 c rest first others split _ ih =>
    rw [split] at ih
    rcases others with _ | ⟨next, others⟩
    · exact congrArg (c :: ·) ih
    · rw [joined_cons _ (List.cons_ne_nil _ _)] at ih ⊢
      exact congrArg (c :: ·) ih

theorem joined_isPrefix {front pieces : List (List Char)} (front_pieces : front <+: pieces) :
    joined front <+: joined pieces := by
  induction front generalizing pieces with
  | nil => exact List.nil_prefix
  | cons piece front ih =>
    obtain ⟨back, rfl⟩ := front_pieces
    rcases front with _ | ⟨next, front⟩
    · rcases back with _ | ⟨other, back⟩
      · exact List.prefix_rfl
      · exact List.prefix_append ..
    · rw [List.cons_append, List.cons_append, joined_cons piece (List.cons_ne_nil next front),
        joined_cons piece (List.cons_ne_nil next (front ++ back)), List.prefix_append_right_inj,
        List.prefix_cons_inj]
      exact ih (List.prefix_append (next :: front) back)

theorem settled_isPrefix (pieces : List (List Char)) : settled pieces <+: pieces :=
  List.rdropWhile_prefix _ pieces

theorem splitHead_append (path : List Char) : (splitHead path).1 ++ (splitHead path).2 = path := by
  fun_cases splitHead path <;> rfl

/-- The directory of a path is a beginning of it. -/
theorem parent?_isPrefix {path directory : List Char} (parent : parent? path = some directory) :
    directory <+: path := by
  rw [parent?] at parent
  dsimp only at parent
  have whole := splitHead_append path
  generalize (splitHead path).1 = head at parent whole
  generalize (splitHead path).2 = body at parent whole
  split at parent
  · split at parent
    · cases parent
      exact List.nil_prefix
    · cases parent
  · cases parent
    rw [← whole, List.prefix_append_right_inj, ← joined_segments body]
    apply joined_isPrefix
    rw [joined_segments]
    exact (settled_isPrefix _).trans ((List.dropLast_prefix _).trans (settled_isPrefix _))

end Path

namespace Location

theorem hasScheme_join {directory other : List Char} (plain : hasScheme directory = false)
    (plain_other : hasScheme other = false) : hasScheme (Path.join directory other) = false := by
  rw [Path.join]
  split
  · exact plain_other
  · rename_i relative
    rw [Bool.not_eq_true] at relative
    split
    · exact plain_other
    · rename_i ends
      obtain ⟨front, rfl⟩ := List.getLast?_eq_some_iff.1 ends
      rw [List.append_assoc, List.singleton_append, hasScheme_append_behind_slash front relative]
      exact plain
    · rename_i no_slash ends
      rw [hasScheme_append_behind_slash directory relative, hasScheme_append_slash]
      · exact plain
      · intro isSlash
        exact no_slash (Option.some.inj (ends.symm.trans isSlash))

theorem hasScheme_besidePath {base reference : List Char} (plain : hasScheme base = false)
    (plain_reference : hasScheme reference = false) :
    hasScheme (besidePath base reference) = false := by
  refine hasScheme_join ?_ plain_reference
  rcases parent : Path.parent? base with _ | directory
  · rfl
  · rw [Option.getD_some, ← Bool.not_eq_true]
    intro has
    rw [hasScheme_of_isPrefix (Path.parent?_isPrefix parent) has] at plain
    cases plain

/-! ### One reference -/

/-- The origin of a URL. A path has none. -/
def origin? : Location → Option (List Char)
  | .url text => some (origin text.toList)
  | .path _ => none

variable {base : Location} {reference : String}

/-- A reference that is not empty leads somewhere, to a place of the kind that its text tells. One
    without a scheme does not leave the origin. -/
theorem exists_resolve (classified : base.Classified) (present : Text.trim reference.toList ≠ []) :
    ∃ target, resolve (some base) reference = .ok target ∧ target.Classified ∧
      (hasScheme (Text.trim reference.toList) = false → target.origin? = base.origin?) := by
  rw [resolve.eq_def]
  dsimp only
  generalize Text.trim reference.toList = trimmed at present ⊢
  rw [List.isEmpty_eq_false_iff.2 present]
  cases has : hasScheme trimmed with
  | true =>
    refine ⟨url (String.ofList trimmed), rfl, ?_, ?_⟩
    · rw [classified_url_iff, String.toList_ofList]
      exact has
    · intro plain
      cases plain
  | false =>
    cases base with
    | path base =>
      refine ⟨path (String.ofList (besidePath base.toList trimmed)), rfl, ?_, fun _ => rfl⟩
      rw [classified_path_iff, String.toList_ofList]
      exact hasScheme_besidePath (classified_path_iff.1 classified) has
    | url base =>
      obtain ⟨start, route, isOrigin, isRoute, whole⟩ :=
        exists_origin_of_hasScheme (classified_url_iff.1 classified)
      refine ⟨url (String.ofList (start ++ reroute route trimmed)), ?_, ?_, fun _ => ?_⟩
      · simp only [whole, besideUrl?_append isOrigin isRoute]
        rfl
      · rw [classified_url_iff, String.toList_ofList]
        exact isOrigin.hasScheme_append _
      · rw [origin?, origin?, String.toList_ofList, whole, isOrigin.origin_append isRoute,
          isOrigin.origin_append (isRoute_reroute isRoute trimmed)]

theorem resolve_of_empty (base : Option Location) (empty : Text.trim reference.toList = []) :
    resolve base reference = .error (.invalidLocation "empty reference") := by
  rw [resolve.eq_def, empty]
  rfl

theorem resolve_eq_error_iff (classified : base.Classified) {error : AssetError} :
    resolve (some base) reference = .error error ↔
      Text.trim reference.toList = [] ∧ error = .invalidLocation "empty reference" := by
  constructor
  · intro failed
    by_cases empty : Text.trim reference.toList = []
    · rw [resolve_of_empty (some base) empty] at failed
      exact ⟨empty, (Except.error.inj failed).symm⟩
    · obtain ⟨target, found, -⟩ := exists_resolve classified empty
      rw [found] at failed
      cases failed
  · rintro ⟨empty, rfl⟩
    exact resolve_of_empty (some base) empty

/-! ### Chains -/

/-- Where some references lead to, each of them resolved against the place before it. -/
def follow (start : Location) (references : List String) : Except AssetError Location :=
  references.foldlM (fun place reference => resolve (some place) reference) start

theorem follow_of_classified {start target : Location} {references : List String}
    (classified : start.Classified) (reached : follow start references = .ok target) :
    target.Classified ∧
      ((∀ reference ∈ references, hasScheme (Text.trim reference.toList) = false) →
        target.origin? = start.origin?) := by
  induction references generalizing start with
  | nil =>
    cases reached
    exact ⟨classified, fun _ => rfl⟩
  | cons reference references ih =>
    rw [follow, List.foldlM_cons] at reached
    by_cases empty : Text.trim reference.toList = []
    · rw [resolve_of_empty (some start) empty] at reached
      cases reached
    · obtain ⟨next, found, classified', near⟩ := exists_resolve classified empty
      rw [found] at reached
      obtain ⟨behind, stays⟩ := ih classified' reached
      refine ⟨behind, fun plain => ?_⟩
      have first := near (plain reference List.mem_cons_self)
      have others := stays fun other inside => plain other (List.mem_cons_of_mem _ inside)
      exact others.trans first

/-- Wherever references lead from the place that a text tells, the text of the place reached tells
    that place, and it is of the first one's origin unless a reference had a scheme of its own.
    What fails there is an empty reference. -/
theorem follow_stays_at_origin {text : String} {references : List String} {target : Location}
    (reached : follow (parse text) references = .ok target) :
    parse target.text = target ∧
      ((∀ reference ∈ references, hasScheme (Text.trim reference.toList) = false) →
        target.origin? = (parse text).origin?) ∧
      ∀ reference error, resolve (some target) reference = .error error ↔
        Text.trim reference.toList = [] ∧ error = .invalidLocation "empty reference" := by
  obtain ⟨classified, stays⟩ := follow_of_classified (classified_parse text) reached
  exact ⟨classified, stays, fun _ _ => resolve_eq_error_iff classified⟩

/-- The first slash behind `://` may be one of a query. It ends the origin all the same, and a
    reference that begins with slashes takes the place of all from there on. -/
theorem follow_from_query :
    let start := parse "http://a.org?x=http://b.org/c.wrl"
    let references := [" d.wrl ", "//e.org/f.wrl", "g.wrl"]
    let target := url "http://a.org?x=http://e.org/g.wrl"
    follow start references = .ok target ∧
      (∀ reference ∈ references, hasScheme (Text.trim reference.toList) = false) ∧
      target.origin? = start.origin? := by
  intro start references target
  have reached : follow start references = .ok target := by with_unfolding_all rfl
  have plain : ∀ reference ∈ references, hasScheme (Text.trim reference.toList) = false := by
    decide +kernel
  exact ⟨reached, plain, (follow_stays_at_origin reached).2.1 plain⟩

end Location

end VrmlWorld
