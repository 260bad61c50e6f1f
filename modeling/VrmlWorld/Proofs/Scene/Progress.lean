/-
  VrmlWorld/Proofs/Scene/Progress.lean
  ====================================
  **How far the inlines of a scene have come.**

  A pending inline is asked for, and then filled or given up; one that cannot be
  asked for is given up at once. `Advances` is one such change, seen through the
  statuses and handles of all nodes. `Continues` relates two stages of the same
  scene with any number of changes between them.
-/
import VrmlWorld.Proofs.Document.AsRead

namespace VrmlWorld

/-! ### Statuses -/

namespace InlineStatus

inductive Moves : InlineStatus → InlineStatus → Prop where
  | ask : Moves .pending .loading
  | fill : Moves .loading .loaded
  | fail : Moves .loading .failed
  | giveUp : Moves .pending .failed

abbrev Reaches : InlineStatus → InlineStatus → Prop := Relation.ReflTransGen Moves

/-- Whether an inline stays as it is. -/
def isSettled : InlineStatus → Bool
  | .loaded | .failed => true
  | .pending | .loading => false

theorem Moves.isSettled_eq_false {status later : InlineStatus} (move : status.Moves later) :
    status.isSettled = false := by
  cases move <;> rfl

end InlineStatus

namespace SceneGraph

variable {graph result loaded : SceneGraph} {id other : NodeId} {handle : Handle}
  {status old : InlineStatus} {location : Location}

/-- How far the inline of an identity has come, if its node is one. -/
def status? (graph : SceneGraph) (id : NodeId) : Option InlineStatus :=
  (graph.inline? id).map (·.status)

/-- How far the inline that a host means has come. -/
def statusOf? (graph : SceneGraph) (handle : Handle) : Option InlineStatus :=
  (graph.nodeOf? handle).bind graph.status?

theorem status?_eq_some_iff : graph.status? id = some status ↔
    ∃ node inline, graph.get? id = some node ∧ node.kind = .inline inline ∧
      inline.status = status := by
  rw [status?, Option.map_eq_some_iff]
  constructor
  · rintro ⟨inline, isInline, same⟩
    obtain ⟨node, found, kind⟩ := inline?_eq_some_iff.1 isInline
    exact ⟨node, inline, found, kind, same⟩
  · rintro ⟨node, inline, found, kind, same⟩
    exact ⟨inline, inline?_eq_some_iff.2 ⟨node, found, kind⟩, same⟩

theorem stored_of_status? (h : graph.status? id = some status) : graph.Stored id := by
  obtain ⟨node, -, found, -⟩ := status?_eq_some_iff.1 h
  exact stored_of_get? found

theorem status?_congr (h : result.get? id = graph.get? id) :
    result.status? id = graph.status? id := by
  simp [status?, inline?, kind?, h]

theorem status?_setInlineStatus?_of_ne (graph : SceneGraph) (different : other ≠ id)
    (status : InlineStatus) :
    ((graph.setInlineStatus? id status).getD graph).status? other = graph.status? other := by
  cases set : graph.setInlineStatus? id status with
  | none => rfl
  | some result =>
    obtain ⟨inline, -, rfl⟩ := setInlineStatus?_eq_some set
    exact status?_congr (by simp [different])

theorem AsRead.pending (asRead : graph.AsRead) (h : graph.status? id = some status) :
    status = .pending := by
  obtain ⟨node, inline, found, kind, rfl⟩ := status?_eq_some_iff.1 h
  exact (asRead.unasked id node found inline kind).1

/-! ### One change -/

/-- A change of a scene at one inline, which has a new status then. Stored nodes
    stay what they are, under the same handles, and what comes in is pending. -/
structure Advances (graph : SceneGraph) (id : NodeId) (status : InlineStatus)
    (result : SceneGraph) : Prop where
  regular : result.Regular
  self : result.status? id = some status
  others : ∀ {other}, other ≠ id → graph.Stored other → result.status? other = graph.status? other
  new : ∀ {other later}, ¬ graph.Stored other → result.status? other = some later →
    later = .pending
  stay : graph.HandlesStay result

theorem setInlineStatus?_of_status? (h : graph.status? id = some old) (status : InlineStatus) :
    ∃ result, graph.setInlineStatus? id status = some result := by
  obtain ⟨inline, isInline, -⟩ := Option.map_eq_some_iff.1 h
  exact ⟨_, by rw [setInlineStatus?, isInline]; rfl⟩

theorem Regular.advances_setInlineStatus? (regular : graph.Regular)
    (h : graph.setInlineStatus? id status = some result) : graph.Advances id status result := by
  have same : ∀ other, other ≠ id → result.get? other = graph.get? other := by
    obtain ⟨inline, -, rfl⟩ := setInlineStatus?_eq_some h
    intro other different
    simp [different]
  refine ⟨regular.setInlineStatus? h, ?_, ?_, ?_, (regular.kept.setInlineStatus? h).2⟩
  · obtain ⟨inline, isInline, rfl⟩ := setInlineStatus?_eq_some h
    obtain ⟨node, found, -⟩ := inline?_eq_some_iff.1 isInline
    exact status?_eq_some_iff.2 ⟨_, { inline with status }, by simp [found]; rfl, rfl, rfl⟩
  · intro other different stored
    exact status?_congr (same other different)
  · intro other later new pending
    exact absurd ((stored_setInlineStatus? h other).1 (stored_of_status? pending)) new

theorem Regular.advances_splice? (regular : graph.Regular) (document : loaded.AsRead)
    (h : graph.splice? id loaded location = some result) : graph.Advances id .loaded result := by
  obtain ⟨inline, isInline, spliced⟩ := splice?_eq_some h
  obtain ⟨node, found, -⟩ := inline?_eq_some_iff.1 isInline
  refine ⟨regular.splice? document.toRegular h, ?_, ?_, ?_,
    (regular.kept.splice? document.kept h).2⟩
  · have filled := spliced.get?_inline
    rw [found] at filled
    exact status?_eq_some_iff.2
      ⟨_, { inline with status := .loaded, location := some location }, filled, rfl, rfl⟩
  · intro other different stored
    exact status?_congr (spliced.get?_other other stored.lt_size different)
  · intro other later new status
    obtain lower | ⟨own, rfl⟩ := lt_size_or_eq_shift graph.nodes.size other
    · have different : other ≠ id := by
        rintro rfl
        exact new ⟨node, found⟩
      rw [status?_congr (spliced.get?_other other lower different)] at status
      exact absurd (stored_of_status? status) new
    · obtain ⟨node', inline', found', kind, rfl⟩ := status?_eq_some_iff.1 status
      rw [spliced.get?_shift] at found'
      split at found'
      · cases found'
      · obtain ⟨own', foundOwn, rfl⟩ := Option.map_eq_some_iff.1 found'
        exact (document.unasked own own' foundOwn inline' kind).1

theorem Advances.statusOf?_self (advances : graph.Advances id status result)
    (regular : graph.Regular) (stored : graph.Stored id) :
    result.statusOf? (graph.handle id) = some status := by
  rw [statusOf?, advances.stay _ id (regular.kept.nodeOf?_handle stored)]
  exact advances.self

/-- What a host knows as settled stays so; nothing else is settled but the
    inline that the change is about. -/
theorem Advances.settled_of_ne (advances : graph.Advances id status result)
    (regular : graph.Regular) (different : handle ≠ graph.handle id) :
    (result.statusOf? handle).filter (·.isSettled) =
      (graph.statusOf? handle).filter (·.isSettled) := by
  cases before : graph.nodeOf? handle with
  | some other =>
    have apart : other ≠ id := by
      rintro rfl
      exact different (regular.kept.handle_eq before).symm
    rw [statusOf?, statusOf?, advances.stay handle other before, before, Option.bind_some,
      Option.bind_some, advances.others apart (regular.kept.stored_of_nodeOf? before)]
  | none =>
    rw [statusOf?, statusOf?, before]
    cases after : result.nodeOf? handle with
    | none => rfl
    | some other =>
      have new : ¬ graph.Stored other := by
        intro stored
        have old := regular.kept.nodeOf?_handle stored
        have same := advances.regular.kept.unique (advances.stay _ other old) after
        rw [same, before] at old
        cases old
      rw [Option.bind_some, Option.bind_none, Option.filter_none]
      cases later : result.status? other with
      | none => rfl
      | some later' =>
        rw [advances.new new later]
        rfl

/-! ### Any number of changes -/

/-- A later stage of the same scene: every inline has moved along, those that
    have come in did so pending, and handles still stand for their nodes. -/
structure Continues (graph result : SceneGraph) : Prop where
  moved : ∀ id status, graph.status? id = some status →
    ∃ later, result.status? id = some later ∧ status.Reaches later
  begun : ∀ id later, graph.status? id = none → result.status? id = some later →
    InlineStatus.pending.Reaches later
  stay : graph.HandlesStay result

theorem Continues.refl (graph : SceneGraph) : graph.Continues graph where
  moved id status h := ⟨status, h, .refl⟩
  begun id later before after := by rw [before] at after; cases after
  stay handle id h := h

theorem Continues.trans {further : SceneGraph} (first : graph.Continues result)
    (second : result.Continues further) : graph.Continues further := by
  refine ⟨?_, ?_, ?_⟩
  · intro id status h
    obtain ⟨middle, between, reaches⟩ := first.moved id status h
    obtain ⟨later, after, reaches'⟩ := second.moved id middle between
    exact ⟨later, after, reaches.trans reaches'⟩
  · intro id later before after
    cases between : result.status? id with
    | none => exact second.begun id later between after
    | some middle =>
      obtain ⟨later', after', reaches⟩ := second.moved id middle between
      rw [after] at after'
      cases after'
      exact (first.begun id middle before between).trans reaches
  · intro handle id h
    exact second.stay handle id (first.stay handle id h)

theorem Advances.continues (advances : graph.Advances id status result)
    (before : graph.status? id = some old) (move : old.Moves status) : graph.Continues result := by
  refine ⟨?_, ?_, advances.stay⟩
  · intro other status' h
    by_cases same : other = id
    · subst same
      rw [before] at h
      cases h
      exact ⟨status, advances.self, .single move⟩
    · exact ⟨status', by rw [advances.others same (stored_of_status? h), h], .refl⟩
  · intro other later none after
    have apart : other ≠ id := by
      rintro rfl
      rw [before] at none
      cases none
    by_cases stored : graph.Stored other
    · rw [advances.others apart stored, none] at after
      cases after
    · rw [advances.new stored after]

end SceneGraph

end VrmlWorld
