/-
  VrmlWorld/Proofs/Viewer/Accounts.lean
  =====================================
  **What is known about the inlines of a scene, and that it fits together.**

  The statuses of the nodes say how far each inline has come; requests have been
  handed out, fetches are outstanding, and events have been sent.
  `SceneGraph.Accounts` is the invariant that ties these together. Inlines are
  asked for, filled or given up one at a time, and each such change keeps the
  accounts (`Accounts.ask`, `Accounts.settle`).
-/
import VrmlWorld.Proofs.Scene.Progress
import VrmlWorld.Viewer.Event

namespace VrmlWorld

/-! ### What hosts hear -/

/-- What an event says about the inline of a handle. -/
def Event.newsOf? (event : Event) (handle : Handle) : Option InlineStatus :=
  if event.node = some handle then
    match event.type with
    | .inlineLoaded => some .loaded
    | .inlineFailed => some .failed
    | _ => none
  else none

/-- All that some events say about the inline of a handle. -/
def newsOf (events : List Event) (handle : Handle) : List InlineStatus :=
  events.filterMap (·.newsOf? handle)

theorem newsOf_append (events more : List Event) (handle : Handle) :
    newsOf (events ++ more) handle = newsOf events handle ++ newsOf more handle :=
  List.filterMap_append

/-- An event that is about no inline. -/
def Event.Quiet (event : Event) : Prop := ∀ handle, event.newsOf? handle = none

/-- An event that tells of a handle how the inline behind it has settled. -/
def Event.Tells (event : Event) (handle : Handle) (status : InlineStatus) : Prop :=
  ∀ other, event.newsOf? other = if other = handle then some status else none

theorem Event.quiet_viewpointsChanged (count : Nat) : (viewpointsChanged count).Quiet := by
  intro handle
  simp [newsOf?, viewpointsChanged]

theorem Event.quiet_activeViewpointChanged (index : Nat) :
    (activeViewpointChanged index).Quiet := by
  intro handle
  simp [newsOf?, activeViewpointChanged]

theorem Event.tells_inlineLoaded (handle : Handle) : (inlineLoaded handle).Tells handle .loaded := by
  intro other
  simp [newsOf?, inlineLoaded, eq_comm]

theorem Event.tells_inlineFailed (handle : Handle) (reason : String) :
    (inlineFailed handle reason).Tells handle .failed := by
  intro other
  simp [newsOf?, inlineFailed, eq_comm]

/-! ### The accounts of a scene -/

namespace SceneGraph

variable {graph result : SceneGraph} {id : NodeId} {status old : InlineStatus}
  {asked outstanding : List NodeId} {sent : List Event} {event : Event}

/-- Asked for are only inlines that are not pending any more, each once;
    outstanding are exactly the loading ones; and the host has heard of exactly
    the settled ones, of each once and how it has settled. -/
structure Accounts (graph : SceneGraph) (asked outstanding : List NodeId) (sent : List Event) :
    Prop where
  regular : graph.Regular
  asked_nodup : asked.Nodup
  asked_left : ∀ id ∈ asked, ∃ status, graph.status? id = some status ∧ status ≠ .pending
  outstanding_nodup : outstanding.Nodup
  mem_outstanding : ∀ id, id ∈ outstanding ↔ graph.status? id = some .loading
  news : ∀ handle, newsOf sent handle = ((graph.statusOf? handle).filter (·.isSettled)).toList

namespace Accounts

theorem congr_outstanding (accounts : graph.Accounts asked outstanding sent)
    {others : List NodeId} (perm : others.Perm outstanding) : graph.Accounts asked others sent where
  regular := accounts.regular
  asked_nodup := accounts.asked_nodup
  asked_left := accounts.asked_left
  outstanding_nodup := perm.nodup_iff.2 accounts.outstanding_nodup
  mem_outstanding id := perm.mem_iff.trans (accounts.mem_outstanding id)
  news := accounts.news

theorem quiet (accounts : graph.Accounts asked outstanding sent) (quiet : event.Quiet) :
    graph.Accounts asked outstanding (sent ++ [event]) where
  regular := accounts.regular
  asked_nodup := accounts.asked_nodup
  asked_left := accounts.asked_left
  outstanding_nodup := accounts.outstanding_nodup
  mem_outstanding := accounts.mem_outstanding
  news handle := by simpa [newsOf, quiet handle] using accounts.news handle

/-- A scene that has just been read owes nothing. -/
theorem start (asRead : graph.AsRead) : graph.Accounts [] [] [] where
  regular := asRead.toRegular
  asked_nodup := List.nodup_nil
  asked_left _ member := nomatch member
  outstanding_nodup := List.nodup_nil
  mem_outstanding id := by
    constructor
    · intro member
      cases member
    · intro loading
      cases asRead.pending loading
  news handle := by
    cases h : graph.statusOf? handle with
    | none => rfl
    | some status =>
      obtain ⟨id, -, h⟩ := Option.bind_eq_some_iff.1 h
      rw [asRead.pending h]
      rfl

/-- There are as many outstanding fetches as loading inlines. -/
theorem length_outstanding (accounts : graph.Accounts asked outstanding sent) :
    outstanding.length =
      graph.stored.countP fun (id, _) => graph.status? id = some .loading := by
  have nodup := accounts.regular.kept.nodup_stored
  have same : outstanding.Perm
      ((graph.stored.map (·.1)).filter fun id => graph.status? id = some .loading) := by
    refine (List.perm_ext_iff_of_nodup accounts.outstanding_nodup (nodup.filter _)).2 ?_
    intro id
    rw [accounts.mem_outstanding, List.mem_filter, decide_eq_true_eq, List.mem_map]
    constructor
    · intro loading
      obtain ⟨node, found⟩ := stored_of_status? loading
      exact ⟨⟨(id, node), accounts.regular.kept.mem_stored.2 found, rfl⟩, loading⟩
    · exact fun ⟨_, loading⟩ => loading
  rw [same.length_eq, ← List.countP_eq_length_filter, List.countP_map]
  rfl

/-- The others of a change keep their places in the accounts. -/
theorem asked_left_of_advances (accounts : graph.Accounts asked outstanding sent)
    (advances : graph.Advances id status result) (left : status ≠ .pending) :
    ∀ other ∈ asked, ∃ status, result.status? other = some status ∧ status ≠ .pending := by
  intro other member
  obtain ⟨before, h, left'⟩ := accounts.asked_left other member
  by_cases same : other = id
  · subst same
    exact ⟨status, advances.self, left⟩
  · exact ⟨before, by rw [advances.others same (stored_of_status? h), h], left'⟩

theorem loading_iff_of_advances (advances : graph.Advances id status result) {other : NodeId}
    (different : other ≠ id) :
    result.status? other = some .loading ↔ graph.status? other = some .loading := by
  by_cases stored : graph.Stored other
  · rw [advances.others different stored]
  · constructor
    · intro loading
      cases advances.new stored loading
    · intro loading
      exact absurd (stored_of_status? loading) stored

/-- A pending inline is asked for. It was never asked for before. -/
theorem ask (accounts : graph.Accounts asked outstanding sent)
    (advances : graph.Advances id .loading result) (pending : graph.status? id = some .pending) :
    result.Accounts (asked ++ [id]) (outstanding ++ [id]) sent := by
  have fresh : id ∉ asked := by
    intro member
    obtain ⟨status, h, left⟩ := accounts.asked_left id member
    rw [pending] at h
    exact left (Option.some.inj h).symm
  have apart : id ∉ outstanding := by
    rw [accounts.mem_outstanding, pending]
    simp
  refine ⟨advances.regular, ?_, ?_, ?_, ?_, ?_⟩
  · exact List.nodup_append.2 ⟨accounts.asked_nodup, List.nodup_singleton id, by
      rintro other member _ (_ | ⟨_, ⟨⟩⟩) rfl
      exact fresh member⟩
  · intro other member
    obtain before | now := List.mem_append.1 member
    · exact accounts.asked_left_of_advances advances (by simp) other before
    · obtain rfl := List.mem_singleton.1 now
      exact ⟨.loading, advances.self, by simp⟩
  · exact List.nodup_append.2 ⟨accounts.outstanding_nodup, List.nodup_singleton id, by
      rintro other member _ (_ | ⟨_, ⟨⟩⟩) rfl
      exact apart member⟩
  · intro other
    by_cases same : other = id
    · subst same
      simp [advances.self]
    · rw [loading_iff_of_advances advances same, ← accounts.mem_outstanding]
      simp [same]
  · intro handle
    by_cases same : handle = graph.handle id
    · subst same
      have stored := stored_of_status? pending
      rw [accounts.news, advances.statusOf?_self accounts.regular stored, statusOf?,
        accounts.regular.kept.nodeOf?_handle stored, Option.bind_some, pending]
      rfl
    · rw [accounts.news, advances.settled_of_ne accounts.regular same]

/-- An inline is settled, and the host hears of it for the first time. -/
theorem settle (accounts : graph.Accounts asked outstanding sent)
    (advances : graph.Advances id status result) (before : graph.status? id = some old)
    (move : old.Moves status) (settled : status.isSettled = true)
    (tells : event.Tells (graph.handle id) status) :
    result.Accounts asked (outstanding.erase id) (sent ++ [event]) := by
  have left : status ≠ .pending := by
    rintro rfl
    cases settled
  refine ⟨advances.regular, accounts.asked_nodup,
    accounts.asked_left_of_advances advances left, accounts.outstanding_nodup.erase id, ?_, ?_⟩
  · intro other
    rw [accounts.outstanding_nodup.mem_erase_iff]
    by_cases same : other = id
    · subst same
      rw [advances.self]
      constructor
      · rintro ⟨different, -⟩
        exact absurd rfl different
      · rintro ⟨⟩
        cases settled
    · rw [loading_iff_of_advances advances same, ← accounts.mem_outstanding]
      simp [same]
  · intro handle
    rw [newsOf_append, accounts.news]
    by_cases same : handle = graph.handle id
    · subst same
      have stored := stored_of_status? before
      have unheard : (graph.statusOf? (graph.handle id)).filter (·.isSettled) = none := by
        rw [statusOf?, accounts.regular.kept.nodeOf?_handle stored, Option.bind_some, before]
        simp [move.isSettled_eq_false]
      have heard : (some status).filter (·.isSettled) = some status :=
        Option.filter_eq_some_iff.2 ⟨rfl, settled⟩
      rw [unheard, advances.statusOf?_self accounts.regular stored, heard]
      simp [newsOf, tells (graph.handle id)]
    · rw [advances.settled_of_ne accounts.regular same]
      simp [newsOf, tells handle, same]

end Accounts

end SceneGraph

end VrmlWorld
