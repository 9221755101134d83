import RmwMicroxrcedds.Refinement.Topic

/-! # Releasing entities refines the registry

The shared parts of the creation and destroy functions: the checks, the clean-up behind
the label `fail`, and the deletion from the agent.
-/

namespace RmwMicroxrcedds

open Outcome

variable {cfg : Config} {admits : Admission} {s s' : Rmw}
variable {pool : Pool} {handle slot node nodeHandle session topic : Nat}

/-- Forgetting the handle of an entity writes to its slot only. -/
theorem clearRmwHandle_spec (s : Rmw) (slot : Nat) (handles : pool.hasHandle = true) :
    ∃ entity, (s.clearRmwHandle pool slot).registry = s.registry.fill pool slot entity ∧
      (s.clearRmwHandle pool slot).memory = s.memory ∧
      (s.clearRmwHandle pool slot).handles = s.handles ∧
      (s.clearRmwHandle pool slot).customStaticBuffers = s.customStaticBuffers ∧
      (s.clearRmwHandle pool slot).contexts = s.contexts ∧
      (s.clearRmwHandle pool slot).customSessions = s.customSessions := by
  cases pool with
  | node =>
      exact ⟨_, registry_modifyNode fun old => { old with rmwHandle := none },
        rfl, rfl, rfl, rfl, rfl⟩
  | publisher =>
      exact ⟨_, registry_modifyPublisher fun old => { old with rmwHandle := none },
        rfl, rfl, rfl, rfl, rfl⟩
  | subscription =>
      exact ⟨_, registry_modifySubscription fun old => { old with rmwHandle := none },
        rfl, rfl, rfl, rfl, rfl⟩
  | service =>
      exact ⟨_, registry_modifyEndpoint (fun old => { old with rmwHandle := none }) .service,
        rfl, rfl, rfl, rfl, rfl⟩
  | client =>
      exact ⟨_, registry_modifyEndpoint (fun old => { old with rmwHandle := none }) .client,
        rfl, rfl, rfl, rfl, rfl⟩
  | session | topic | staticBuffer => cases handles

/-- Without a slot in the handle, the clean-up frees the handle and nothing else. -/
theorem finiMemory_of_null (healthy : s.Healthy cfg admits)
    (null : s.registry.data pool handle = some none) :
    Yields (finiMemory pool handle s) fun s' =>
      s'.Healthy cfg admits ∧ s'.customSessions = s.customSessions ∧
        s'.registry = s.registry.setData pool handle none := by
  obtain ⟨contents, _, isData, isRead, named⟩ := healthy.block_of_data null
  simp only [finiMemory, isRead, ok_bind, named, ↓reduceIte, isData]
  exact yields_ok.mpr ⟨healthy.storeHandle_none, rfl, registry_storeHandle none⟩

/-- With an allocated slot in the handle, the clean-up frees the handle and releases the
slot. -/
theorem finiMemory_of_bound (healthy : s.Healthy cfg admits) (handles : pool.hasHandle = true)
    (bound : s.registry.Bound pool handle slot) (inside : slot ∈ s.registry.allocated pool) :
    Yields (finiMemory pool handle s) fun s' =>
      s'.Healthy cfg admits ∧ s'.customSessions = s.customSessions ∧
        ((s.registry.setData pool handle none).release pool slot).Agrees s'.registry := by
  have entities : pool ≠ .staticBuffer := by
    rintro rfl
    cases handles
  obtain ⟨contents, _, isData, isRead, named⟩ := healthy.block_of_data bound
  simp only [finiMemory, isRead, ok_bind, named, ↓reduceIte, isData]
  obtain ⟨entity, cleared, memory, isHandles, buffers, contexts, sessions⟩ :=
    clearRmwHandle_spec s slot handles
  have clearedHealthy : (s.clearRmwHandle pool slot).Healthy cfg admits := by
    simp only [Rmw.Healthy, memory, isHandles, buffers, contexts]
    exact healthy
  have held : slot ∈ (s.clearRmwHandle pool slot).registry.allocated pool := by
    rw [cleared]
    exact inside
  obtain ⟨putHealthy, putRegistry⟩ := clearedHealthy.putMemory entities held
  refine yields_ok.mpr ⟨putHealthy.storeHandle_none, sessions, ?_⟩
  rw [registry_storeHandle, putRegistry, cleared]
  exact .fill_released healthy.nodup

/-- Between live handles the checks of the destroy functions pass. -/
theorem checkDestroyed_of_bound (healthy : s.Healthy cfg admits)
    (nodeBound : s.registry.Bound .node nodeHandle node)
    (bound : s.registry.Bound pool handle slot) :
    checkDestroyed pool (some nodeHandle) (some handle) s = .ok (some (node, slot)) := by
  obtain ⟨nodeContents, _, nodeData, nodeRead, nodeNamed⟩ := healthy.block_of_data nodeBound
  obtain ⟨contents, _, isData, isRead, named⟩ := healthy.block_of_data bound
  simp only [checkDestroyed, nodeRead, ok_bind, nodeNamed, nodeData, isRead, named, isData]

/-- What the caller of a destroy function learns about its exchanges. -/
def reportOf (confirmed : Bool) : RmwRet := if confirmed then .ok else .timeout

/-- Deleting two objects from the agent reports both exchanges, and disturbs nothing. -/
theorem deletePair_spec (healthy : s.Healthy cfg admits) {teardown : EntityTeardown}
    {first second : ObjectId}
    (acceptableFirst : teardown.endpoint.Acceptable cfg admits s.registry session)
    (acceptableSecond : teardown.entity.Acceptable cfg admits s.registry session) :
    Yields (deletePair cfg session first second teardown s) fun result =>
      result.1 = (teardown.endpoint.succeeds cfg && teardown.entity.succeeds cfg) ∧
      result.2.Healthy cfg admits ∧ Advance s result.2 ∧ result.2.registry = s.registry := by
  simp only [deletePair]
  generalize isFirst : (s.uxrBuffer session (.deleteEntity first) teardown.endpoint.room).2 = sent
  have sentRegistry : sent.registry = s.registry := by rw [← isFirst, registry_uxrBuffer]
  have sentAdvance : Advance s sent := isFirst ▸ advance_uxrBuffer _ _
  have sentHealthy : sent.Healthy cfg admits := isFirst ▸ (healthy_uxrBuffer _ _).mpr healthy
  refine (runXrceSession_spec ((healthy_uxrBuffer _ _).mpr sentHealthy)
    (acceptableFirst.congr (by rw [registry_uxrBuffer, sentRegistry]))).bind ?_
  rintro ⟨confirmed, middle⟩ ⟨isConfirmed, middleHealthy, undisturbed⟩
  have middleRegistry : middle.registry = s.registry := by
    rw [undisturbed.registry, registry_uxrBuffer, sentRegistry]
  refine (runXrceSession_spec middleHealthy
    (acceptableSecond.congr (by rw [middleRegistry]))).bind ?_
  rintro ⟨confirmed', last⟩ ⟨isConfirmed', lastHealthy, undisturbed'⟩
  refine yields_ok.mpr ⟨congrArg₂ and isConfirmed isConfirmed', lastHealthy, ?_,
    undisturbed'.registry.trans middleRegistry⟩
  exact ((sentAdvance.trans (advance_uxrBuffer _ _)).trans
    (.of_sessions undisturbed.sessions)).trans (.of_sessions undisturbed'.sessions)

end RmwMicroxrcedds
