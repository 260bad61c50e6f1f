/-
  VrmlWorld/Proofs/Viewer/Activation.lean
  =======================================
  **A viewpoint is active whenever there is one.**

  The list of viewpoints and the active position are set at different times.
  Another scene begins with no active viewpoint, and its list is collected behind
  that. When documents have come in, the list is collected anew from where the
  camera stands now; levels of detail may then leave out what they showed before,
  and a position beyond the end of the list is given up. Each time the first
  viewpoint is gone to before the operation ends, so that between operations a
  viewpoint is active exactly if there is one (`Run.active_iff_viewpoints`).
-/
import VrmlWorld.Proofs.Viewer.Viewpoints

namespace VrmlWorld

open VrmlWorld.Geometry

namespace Session

variable {σ : Type}

/-- Where a session points to. -/
inductive Pointed (session : Session σ) : Prop where
  | nowhere (inactive : session.active = none) (none_there : session.viewpoints = [])
  | toward (position : Nat) (active : session.active = some position)
      (inside : position < session.viewpoints.length)

namespace Pointed

variable {session next : Session σ}

theorem inactive_iff (pointed : session.Pointed) :
    session.active = none ↔ session.viewpoints = [] := by
  cases pointed with
  | nowhere inactive none_there => exact iff_of_true inactive none_there
  | toward position active inside =>
    rw [active]
    exact iff_of_false (Option.some_ne_none _)
      (List.ne_nil_of_length_pos (Nat.zero_lt_of_lt inside))

theorem lt_length (pointed : session.Pointed) {position : Nat}
    (active : session.active = some position) : position < session.viewpoints.length := by
  cases pointed with
  | nowhere inactive _ => cases inactive.symm.trans active
  | toward other active' inside =>
    cases active.symm.trans active'
    exact inside

theorem congr (pointed : session.Pointed) (same : next.SameViewing session) : next.Pointed := by
  cases pointed with
  | nowhere inactive none_there =>
    exact .nowhere (same.active.trans inactive) (same.viewpoints.trans none_there)
  | toward position active inside =>
    exact .toward position (same.active.trans active) (same.viewpoints ▸ inside)

/-- Whatever was active before, a session is pointed that has kept a position of its list, or else
    has gone to the first viewpoint. -/
theorem of_kept_or_first (before : Option Nat)
    (active : session.active =
      (before.filter (· < session.viewpoints.length) <|>
        (session.viewpoints[0]?).map fun _ => 0)) : session.Pointed := by
  rcases kept : before.filter (· < session.viewpoints.length) with _ | position
  · rw [kept] at active
    rcases list : session.viewpoints with _ | ⟨first, others⟩
    · rw [list] at active
      exact .nowhere active list
    · rw [list] at active
      refine .toward 0 active ?_
      rw [list]
      exact Nat.succ_pos _
  · rw [kept] at active
    have inside : decide (position < session.viewpoints.length) = true :=
      (Option.filter_eq_some_iff.1 kept).2
    exact .toward position active (of_decide_eq_true inside)

theorem replaceScene (session : Session σ) (graph : SceneGraph) :
    (session.replaceScene graph).Pointed :=
  of_kept_or_first none (session.viewpoints_replaceScene graph).2

theorem publishAll (pointed : session.Pointed) : session.publishAll.Pointed := by
  cases published : session.published.1 with
  | false => exact pointed.congr (publishAll_sameViewing published)
  | true => exact of_kept_or_first _ (active_publishAll published)

theorem setViewpoint (pointed : session.Pointed) (position : Nat) :
    (session.setViewpoint position).2.Pointed := by
  have list := session.viewpoints_setViewpoint position
  have active := session.active_setViewpoint position
  rcases found : session.viewpoints[position]? with _ | viewpoint
  · rw [found] at active
    exact pointed.congr ⟨list, active⟩
  · rw [found] at active
    refine .toward position active ?_
    rw [list]
    exact (List.getElem?_eq_some_iff.1 found).1

/-- No operation leaves a session in between. -/
theorem perform (pointed : session.Pointed) (operation : Operation σ) :
    (operation.perform session).Pointed := by
  have load (loads : operation.perform session = (operation.load? session).getD session) :
      (operation.perform session).Pointed := by
    rw [loads]
    rcases loaded : operation.load? session with _ | next
    · exact pointed
    · obtain ⟨text, graph, stats, base, -, rfl⟩ := Operation.exists_of_load? loaded
      exact replaceScene session _
  cases operation with
  | loadScene | loadLocation => exact load rfl
  | frame viewport refusal =>
    exact pointed.publishAll.congr (SameViewing.frame session viewport refusal)
  | setViewpoint position => exact pointed.setViewpoint position
  | mouseMoved position =>
    apply pointed.congr
    rw [Operation.perform, Session.mouseMoved]
    split <;> exact ⟨rfl, rfl⟩
  | _ => exact pointed.congr ⟨rfl, rfl⟩

end Pointed

end Session

namespace Run

variable {σ : Type}

/-- Behind any operations a viewpoint is active unless there is none, and it is one of the list. -/
theorem active_iff_viewpoints (settings : Settings) (host : Host σ) (state : σ)
    (operations : List (Operation σ)) :
    let session := (of settings host state operations).session
    (session.active = none ↔ session.viewpoints = []) ∧
      ∀ position, session.active = some position → position < session.viewpoints.length := by
  intro session
  have pointed : session.Pointed := by
    apply of_induction (P := fun run => run.session.Pointed)
    · exact .nowhere rfl rfl
    · intro run operation pointed
      exact pointed.perform operation
  exact ⟨pointed.inactive_iff, fun _ active => pointed.lt_length active⟩

end Run

end VrmlWorld
