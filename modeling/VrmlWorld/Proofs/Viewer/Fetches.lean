/-
  VrmlWorld/Proofs/Viewer/Fetches.lean
  ====================================
  **The counter of fetches counts fetches.**

  A fetch is outstanding from its request until its answer is polled, unless
  another scene begins in between. The counter of an inline loader goes up with
  every request, down with every answer of the current scene, and back to zero
  with every scene; `InlineLoader.Sound` says that it is the number of
  outstanding fetches all the same, so the subtraction never stops at zero.
-/
import VrmlWorld.Proofs.Document.AsRead
import VrmlWorld.Viewer.InlineLoader

namespace VrmlWorld.InlineLoader

variable {loader : InlineLoader}

/-- All fetches that have not been polled, those of earlier scenes among them. -/
def fetches (loader : InlineLoader) : List Fetch :=
  loader.finished.map (·.fetch) ++ loader.waiting

/-- The inlines whose documents have been asked for in the current scene, and
    whose answers have not been polled. -/
def outstanding (loader : InlineLoader) : List NodeId :=
  (loader.fetches.filter (·.generation = loader.generation)).map (·.request.node)

structure Sound (loader : InlineLoader) : Prop where
  stamps : ∀ fetch ∈ loader.fetches, fetch.generation ≤ loader.generation
  count : loader.inFlight = loader.outstanding.length
  read : ∀ result ∈ loader.finished, ∀ loaded, result.outcome = .ok loaded → loaded.AsRead

theorem sound_start : ({} : InlineLoader).Sound where
  stamps _ member := nomatch member
  count := rfl
  read _ member := nomatch member

/-! ### Requests -/

theorem outstanding_request (loader : InlineLoader) (request : InlineRequest) :
    (loader.request request).outstanding = loader.outstanding ++ [request.node] := by
  simp [outstanding, fetches, InlineLoader.request]
  rfl

theorem Sound.request (sound : loader.Sound) (request : InlineRequest) :
    (loader.request request).Sound := by
  refine ⟨?_, ?_, sound.read⟩
  · intro fetch member
    obtain old | rfl : fetch ∈ loader.fetches ∨ fetch = ⟨request, loader.generation⟩ := by
      simpa [fetches, InlineLoader.request, or_assoc] using member
    · exact sound.stamps fetch old
    · exact Nat.le_refl _
  · rw [outstanding_request, List.length_append, ← sound.count]
    rfl

/-! ### Answers -/

/-- A document is read before its answer is kept. -/
theorem asRead_of_read {location : Location} {answer : Except AssetError String}
    {loaded : SceneGraph} (h : read location answer = .ok loaded) : loaded.AsRead := by
  cases answer with
  | error error => cases h
  | ok text =>
    cases parsed : Document.parse? text with
    | none => simp [read, parsed, bind, Except.bind] at h
    | some result =>
      obtain ⟨graph, stats⟩ := result
      simp only [read, parsed, bind, Except.bind, Except.ok.injEq] at h
      subst h
      exact (Document.asRead_of_parse? parsed).setBase _

/-- An answer moves a fetch from those that wait to those that are finished. -/
theorem fetches_complete (loader : InlineLoader) (position : Nat)
    (answer : Except AssetError String) :
    (loader.complete position answer).fetches.Perm loader.fetches := by
  rw [complete]
  split
  · exact .refl _
  · rename_i fetch found
    obtain ⟨inside, rfl⟩ := List.getElem?_eq_some_iff.1 found
    have moved := List.getElem_cons_eraseIdx_perm inside
    simp only [fetches, List.map_append, List.map_cons, List.map_nil, List.append_assoc,
      List.singleton_append]
    exact moved.append_left _

theorem generation_complete (loader : InlineLoader) (position : Nat)
    (answer : Except AssetError String) :
    (loader.complete position answer).generation = loader.generation := by
  rw [complete]
  split <;> rfl

theorem outstanding_complete (loader : InlineLoader) (position : Nat)
    (answer : Except AssetError String) :
    (loader.complete position answer).outstanding.Perm loader.outstanding := by
  rw [outstanding, outstanding, generation_complete]
  exact ((loader.fetches_complete position answer).filter _).map _

theorem Sound.complete (sound : loader.Sound) (position : Nat)
    (answer : Except AssetError String) : (loader.complete position answer).Sound := by
  refine ⟨?_, ?_, ?_⟩
  · intro fetch member
    rw [generation_complete]
    exact sound.stamps fetch ((loader.fetches_complete position answer).mem_iff.1 member)
  · rw [(loader.outstanding_complete position answer).length_eq, ← sound.count,
      InlineLoader.complete]
    split <;> rfl
  · intro result member loaded outcome
    rw [InlineLoader.complete] at member
    split at member
    · exact sound.read result member loaded outcome
    · obtain old | new := List.mem_append.1 member
      · exact sound.read result old loaded outcome
      · obtain rfl := List.mem_singleton.1 new
        exact asRead_of_read outcome

/-! ### Polls and resets -/

/-- What is polled is outstanding no more; all else is. -/
theorem outstanding_eq_poll (loader : InlineLoader) :
    loader.outstanding = loader.poll.1.map (·.fetch.request.node) ++ loader.poll.2.outstanding := by
  simp only [outstanding, fetches, poll, List.filter_append, List.map_append, List.filter_map,
    List.map_map, List.map_nil, List.nil_append]
  rfl

theorem Sound.poll (sound : loader.Sound) : loader.poll.2.Sound := by
  refine ⟨?_, ?_, fun _ member => nomatch member⟩
  · intro fetch member
    exact sound.stamps fetch (List.mem_append_right _ member)
  · have count := sound.count
    rw [outstanding_eq_poll, List.length_append, List.length_map] at count
    change loader.inFlight - loader.poll.1.length = _
    omega

theorem Sound.asRead_of_mem_poll (sound : loader.Sound) {result : FetchResult}
    (member : result ∈ loader.poll.1) {loaded : SceneGraph} (outcome : result.outcome = .ok loaded) :
    loaded.AsRead :=
  sound.read result (List.mem_filter.1 member).1 loaded outcome

/-- No stamp is that of a scene still to come. -/
theorem Sound.outstanding_reset (sound : loader.Sound) : loader.reset.outstanding = [] := by
  rw [outstanding, List.map_eq_nil_iff, List.filter_eq_nil_iff]
  intro fetch member current
  have stamp := sound.stamps fetch member
  have later : fetch.generation = loader.generation + 1 := of_decide_eq_true current
  omega

theorem Sound.reset (sound : loader.Sound) : loader.reset.Sound := by
  refine ⟨?_, ?_, sound.read⟩
  · intro fetch member
    exact (sound.stamps fetch member).trans (Nat.le_succ _)
  · rw [sound.outstanding_reset]
    rfl

end VrmlWorld.InlineLoader
