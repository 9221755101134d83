import RmwMicroxrcedds.Refinement.Cascade

/-! # Finalising a context

`rmw_context_fini` destroys every live node of the context's session, each with the
cascade of `rmw_destroy_node`, and gives the session back.
-/

namespace RmwMicroxrcedds

open Outcome Registry

namespace Registry

variable {r r' : Registry} {pool : Pool} {slot node session context : Nat}
variable {gone : Pool → Nat → Prop}

/-- A live node of the session. -/
def NodeOf (r : Registry) (session node : Nat) : Prop :=
  (∃ handle, r.Bound .node handle node) ∧ (r.entity .node node).context = some session

/-- What goes with a node: its live entities, and itself. -/
def GoesWith (r : Registry) (node : Nat) (pool : Pool) (slot : Nat) : Prop :=
  r.OwnedBy node pool slot ∨ pool = .node ∧ slot = node

/-- A live node of the session, or a live entity of one. -/
def SitedIn (r : Registry) (session : Nat) (pool : Pool) (slot : Nat) : Prop :=
  ∃ node, r.NodeOf session node ∧ r.GoesWith node pool slot

/-- No slot of the session carries the handle of a creation that failed. -/
def SettledIn (r : Registry) (session : Nat) : Prop :=
  ∀ node ∈ r.allocated .node, (r.entity .node node).context = some session →
    ∀ handle, (r.entity .node node).rmwHandle = some handle →
      r.Bound .node handle node ∧ r.Settled node

/-- Only its own node has an entity go with it. -/
theorem GoesWith.unique {node' : Nat} (goes : r.GoesWith node pool slot)
    (goes' : r.GoesWith node' pool slot) : node = node' := by
  rcases goes with owned | ⟨rfl, rfl⟩ <;> rcases goes' with owned' | ⟨isNode, rfl⟩
  · exact Option.some.inj (owned.2.2.symm.trans owned'.2.2)
  · exact absurd isNode (ne_node_of_isLeaf owned.1)
  · exact absurd rfl (ne_node_of_isLeaf owned'.1)
  · rfl

/-- A node that is left is in the session it was in. -/
theorem Removal.nodeOf_iff (removal : r.Removal r' gone) (inside : node ∈ r'.allocated .node) :
    r'.NodeOf session node ↔ r.NodeOf session node := by
  have stays := ((removal.kept (by decide)).mp inside).2
  simp only [NodeOf, removal.entity inside, removal.bound, stays, not_false_eq_true, and_true]

/-- What goes with a node is unchanged as long as none of it is gone. -/
theorem Removal.goesWith_iff (removal : r.Removal r' gone) (sound : r.Sound) (sound' : r'.Sound)
    (still : ∀ pool slot, r.GoesWith node pool slot → ¬ gone pool slot) :
    r'.GoesWith node pool slot ↔ r.GoesWith node pool slot := by
  refine or_congr_left ?_
  constructor
  · intro owned
    obtain ⟨handle, bound⟩ := owned.2.1
    exact (removal.ownedBy_iff owned.1 (sound'.placed bound).allocated).mp owned
  · intro owned
    obtain ⟨handle, bound⟩ := owned.2.1
    refine (removal.ownedBy_iff owned.1 ((removal.kept (ne_topic_of_isLeaf owned.1)).mpr
      ⟨(sound.placed bound).allocated, still _ _ (Or.inl owned)⟩)).mpr owned

/-- As long as no entity of a node is gone, destroying the node returns the same. -/
theorem Removal.kept_eq {cfg : Config} {teardown : NodeTeardown} (removal : r.Removal r' gone)
    (nodup : ∀ pool, (r.allocated pool).Nodup)
    (still : ∀ pool slot, pool.isLeaf = true → gone pool slot →
      (r.entity pool slot).ownerNode ≠ some node) :
    teardown.kept cfg r' node = teardown.kept cfg r node := by
  have same : ∀ pool outcome, pool.isLeaf = true →
      r'.nestedReports node pool outcome = r.nestedReports node pool outcome :=
    fun pool outcome leaf => removal.nestedReports (ne_topic_of_isLeaf leaf) (nodup pool)
      fun slot => still pool slot leaf
  simp only [NodeTeardown.kept, NodeTeardown.reports, same _ _ (rfl : Pool.publisher.isLeaf = true),
    same _ _ (rfl : Pool.subscription.isLeaf = true), same _ _ (rfl : Pool.service.isLeaf = true),
    same _ _ (rfl : Pool.client.isLeaf = true)]

/-- What `rmw_destroy_node` returns for a node, if it is one of the session's. -/
def nodeReport (cfg : Config) (r : Registry) (session : Nat) (teardown : ContextTeardown)
    (node : Nat) : Option RmwRet :=
  if (r.entity .node node).context = some session then
    some (if (r.entity .node node).rmwHandle.isSome then
      (teardown.node node).kept cfg r node else .error)
  else none

/-- The results of `rmw_destroy_node` for the nodes of a session, in the order of the calls. -/
def nodeReports (cfg : Config) (r : Registry) (session : Nat) (teardown : ContextTeardown) :
    List RmwRet :=
  (r.allocated .node).filterMap (nodeReport cfg r session teardown)

/-- The session of a context is given back with the context's pointer to it. -/
theorem Sound.removal_detach (sound : r.Sound) (nodup : (r.allocated .session).Nodup)
    (isImpl : r.impl context = some session) :
    r.Removal ((r.attach context none).release .session session)
      fun pool slot => pool = .session ∧ slot = session where
  inside := by
    rintro pool slot ⟨rfl, rfl⟩
    exact sound.impl isImpl
  order := fun pool => by
    by_cases same : pool = .session
    · subst same
      simpa using List.erase_sublist
    · simp [same]
  kept := fun {pool slot} _ => by
    by_cases same : pool = .session
    · subst same
      simp [nodup.mem_erase_iff, and_comm]
    · simp [same]
  topics := by
    intro topic
    have none : ¬ r.TopicOf (fun pool slot => pool = .session ∧ slot = session) topic := by
      rintro ⟨_, _, topics, ⟨rfl, rfl⟩, -⟩
      cases topics
    simp [none]
  bound := fun {pool handle slot} => by
    refine ⟨fun bound => ⟨bound, ?_⟩, And.left⟩
    rintro ⟨rfl, rfl⟩
    cases sound.hasHandle bound
  entity := fun _ => rfl
  impl := fun {other session'} => by
    by_cases same : other = context
    · subst same
      simp [isImpl, eq_comm]
    · simp only [release_impl, attach_impl, Function.update_of_ne same, true_and]
      refine ⟨fun isOther => ⟨isOther, ?_⟩, And.left⟩
      rintro rfl
      exact same (sound.implApart isOther isImpl)
  graph := rfl

/-- A session without live nodes may be given back. -/
theorem Sound.detach (sound : r.Sound) (isImpl : r.impl context = some session)
    (empty : ∀ node, ¬ r.NodeOf session node) :
    ((r.attach context none).release .session session).Sound := by
  have attached : (r.attach context none).Sound :=
    sound.attach (by simp) (by simp)
  refine attached.release (fun handle bound => ?_) (fun absurd => by cases absurd) fun _ => ⟨?_, ?_⟩
  · cases attached.hasHandle bound
  · intro other isOther
    by_cases same : other = context
    · subst same
      simp at isOther
    · rw [attach_impl, Function.update_of_ne same] at isOther
      exact same (sound.implApart isOther isImpl)
  · exact fun handle node bound isContext => empty node ⟨⟨handle, bound⟩, isContext⟩

end Registry

variable {cfg : Config} {admits : Admission} {s s' : Rmw} {context session node : Nat}

/-- The messages that arrive while a context is finalised may be stored, whichever of its
nodes are gone by then. -/
structure ContextTeardown.Acceptable (cfg : Config) (admits : Admission) (r : Registry)
    (session : Nat) (teardown : ContextTeardown) : Prop where
  node : ∀ r' node, r.Thinned (r.SitedIn session) r' →
    (teardown.node node).Acceptable cfg admits r' node session
  deletion : ∀ r', r.Thinned (r.SitedIn session) r' → ∀ delivery ∈ teardown.deliveries,
    RmwMicroxrcedds.Acceptable cfg admits r' session delivery

/-- What is acceptable stays so when more is admitted. -/
theorem ContextTeardown.Acceptable.mono {r : Registry} {teardown : ContextTeardown}
    {admits' : Admission} (acceptable : teardown.Acceptable cfg admits r session)
    (within : admits.Within admits') : teardown.Acceptable cfg admits' r session where
  node := fun r' node thinned => (acceptable.node r' node thinned).mono within
  deletion := fun r' thinned delivery inside =>
    (acceptable.deletion r' thinned delivery inside).mono within

/-- Without arrivals there is nothing to store. -/
theorem ContextTeardown.acceptable_of_quiet {r : Registry} {teardown : ContextTeardown}
    (nodes : ∀ node, (teardown.node node).Quiet) (deletion : teardown.deliveries = []) :
    teardown.Acceptable cfg admits r session where
  node := fun _ node _ => (nodes node).acceptable
  deletion := fun _ _ delivery inside => by
    rw [deletion] at inside
    cases inside

/-- The end of `rmw_context_fini`, and all results of the calls of `rmw_destroy_node` before it. -/
def contextFiniTrace (cfg : Config) (context : Nat) (teardown : ContextTeardown) (s : Rmw) :
    Exec (List RmwRet × Rmw) := do
  let impl := (s.contexts context).impl
  let (results, s) ← s.traceAllocated .node (destroyOwnedNode cfg impl teardown)
  let contextImpl ← deref impl
  let s ← deliverAll cfg contextImpl teardown.deliveries s
  let s := rmwUxrceFiniSessionMemory contextImpl s
  let s := s.modifySession contextImpl fun old => { old with transportOpen := false }
  .ok (results, s.modifyContext context fun old => { old with impl := none })

/-- `rmw_context_fini` returns the last of its results. -/
theorem rmwContextFini_eq_trace {teardown : ContextTeardown} :
    rmwContextFini cfg context teardown s =
      contextFiniTrace cfg context teardown s >>= fun traced =>
        .ok (traced.1.getLastD .ok, traced.2) := by
  simp only [rmwContextFini, contextFiniTrace, forEachAllocated_eq_trace, bind_assoc, ok_bind]

/-- The body of the loop destroys the node it is at when it is a live one of the session. -/
theorem destroyOwnedNode_spec {teardown : ContextTeardown}
    (healthy : s.Healthy cfg admits) (sound : s.registry.Sound)
    (settled : ∀ handle, (s.customNodes node).context = some session →
      (s.customNodes node).rmwHandle = some handle →
      s.registry.Bound .node handle node ∧ s.registry.Settled node)
    (acceptable : (teardown.node node).Acceptable cfg admits s.registry node session) :
    Yields (destroyOwnedNode cfg (some session) teardown node s) fun result =>
      result.1 = nodeReport cfg s.registry session teardown node ∧
        Removes cfg admits s result.2 fun pool slot =>
          s.registry.NodeOf session node ∧ s.registry.GoesWith node pool slot := by
  have nothing : ¬ s.registry.NodeOf session node → Removes cfg admits s s fun pool slot =>
      s.registry.NodeOf session node ∧ s.registry.GoesWith node pool slot := fun free =>
    ⟨healthy, sound, .refl s, (Removal.refl _).congr fun _ _ =>
      ⟨fun absurd => free absurd.1, False.elim⟩⟩
  have context : (s.registry.entity .node node).context = (s.customNodes node).context := rfl
  have handle : (s.registry.entity .node node).rmwHandle = (s.customNodes node).rmwHandle := rfl
  simp only [destroyOwnedNode, nodeReport, context, handle]
  split
  · rename_i isContext
    cases isHandle : (s.customNodes node).rmwHandle with
    | none =>
        simp only [rmwDestroyNode, ok_bind, yields_ok]
        refine ⟨rfl, nothing ?_⟩
        rintro ⟨⟨handle, bound⟩, -⟩
        have back : (s.customNodes node).rmwHandle = some handle := (sound.placed bound).handle
        rw [isHandle] at back
        cases back
    | some handle =>
        obtain ⟨bound, settledNode⟩ := settled handle isContext isHandle
        refine (rmwDestroyNode_spec healthy sound bound settledNode isContext acceptable).bind
          fun result post => yields_ok.mpr ?_
        obtain ⟨isKept, removes⟩ := post
        refine ⟨congrArg some isKept, removes.healthy, removes.sound, removes.advance,
            removes.removal.congr fun pool slot => ?_⟩
        exact and_iff_right ⟨⟨handle, bound⟩, isContext⟩
  · rename_i other
    exact yields_ok.mpr ⟨rfl, nothing fun isNode => other isNode.2⟩

/-- The loop of `rmw_context_fini` removes the live nodes of the session with all they
own. -/
private theorem finiNodes_spec {teardown : ContextTeardown}
    (healthy : s.Healthy cfg admits) (sound : s.registry.Sound)
    (settled : s.registry.SettledIn session)
    (acceptable : teardown.Acceptable cfg admits s.registry session) :
    Yields (s.traceAllocated .node (destroyOwnedNode cfg (some session) teardown)) fun result =>
      result.1 = nodeReports cfg s.registry session teardown ∧
        Removes cfg admits s result.2 (s.registry.SitedIn session) := by
  refine (sweep_spec (fun node pool slot =>
      s.registry.NodeOf session node ∧ s.registry.GoesWith node pool slot)
    (nodeReport cfg s.registry session teardown) (by decide) (by decide) healthy sound ?_ ?_).mono
    ?_
  · rintro node slot ⟨-, owned | ⟨-, same⟩⟩
    · cases owned.1
    · exact same
  · intro node rest s' _ sweep
    have inside : node ∈ s'.registry.allocated .node := by
      rw [Rmw.registry_allocated (by decide)]
      exact sweep.suffix.subset List.mem_cons_self
    have same := sweep.removal.entity inside
    have held := (sweep.removal.kept (by decide)).mp inside
    -- the nodes before this one took nothing of it along
    have apart : ∀ pool slot, s.registry.GoesWith node pool slot → ¬ ∃ other ∈ s.allocated .node,
        other ∉ node :: rest ∧ s.registry.NodeOf session other ∧
          s.registry.GoesWith other pool slot := by
      rintro pool slot goes ⟨other, -, outside, -, goes'⟩
      rw [← goes.unique goes'] at outside
      exact outside List.mem_cons_self
    refine (destroyOwnedNode_spec sweep.healthy sweep.sound ?_ ?_).mono fun result post => ?_
    · intro handle isContext isHandle
      obtain ⟨bound, settledNode⟩ := settled node held.1
        (same ▸ (isContext : (s'.registry.entity .node node).context = some session)) handle
        (same ▸ (isHandle : (s'.registry.entity .node node).rmwHandle = some handle))
      exact ⟨sweep.removal.bound.mpr ⟨bound, held.2⟩, sweep.removal.settled settledNode⟩
    · refine acceptable.node _ node ⟨_, sweep.removal, ?_⟩
      rintro pool slot ⟨other, -, -, isNode, goes⟩
      exact ⟨other, isNode, goes⟩
    · obtain ⟨isReport, removes⟩ := post
      refine ⟨?_, removes.healthy, removes.sound, removes.advance,
        removes.removal.congr fun pool slot => ?_⟩
      · rw [isReport, nodeReport, nodeReport, same]
        rw [sweep.removal.kept_eq (fun _ => healthy.nodup)]
        rintro pool slot leaf ⟨other, inside', outside, isNode, owned | ⟨rfl, -⟩⟩ isOwner
        · obtain rfl : other = node := Option.some.inj (owned.2.2.symm.trans isOwner)
          exact outside List.mem_cons_self
        · cases leaf
      · rw [sweep.removal.nodeOf_iff inside, sweep.removal.goesWith_iff sound sweep.sound apart]
  · rintro result ⟨isReports, healthy', sound', advance, removal⟩
    refine ⟨isReports, healthy', sound', advance, removal.congr fun pool slot => ?_⟩
    constructor
    · rintro ⟨node, isNode, goes⟩
      obtain ⟨handle, bound⟩ := isNode.1
      exact ⟨node, (sound.placed bound).allocated, isNode, goes⟩
    · rintro ⟨node, -, isNode, goes⟩
      exact ⟨node, isNode, goes⟩

/-- Finalising a context with a session removes the live nodes of the session with all they
own, and the session, and nothing else. -/
theorem contextFiniTrace_spec (healthy : s.Healthy cfg admits) (sound : s.registry.Sound)
    {teardown : ContextTeardown} (isImpl : s.registry.impl context = some session)
    (settled : s.registry.SettledIn session)
    (acceptable : teardown.Acceptable cfg admits s.registry session) :
    Yields (contextFiniTrace cfg context teardown s) fun traced =>
      traced.1 = nodeReports cfg s.registry session teardown ∧
        Removes cfg admits s traced.2 fun pool slot =>
          s.registry.SitedIn session pool slot ∨ pool = .session ∧ slot = session := by
  have isContext : (s.contexts context).impl = some session := isImpl
  simp only [contextFiniTrace, isContext]
  refine (finiNodes_spec healthy sound settled acceptable).bind ?_
  rintro ⟨results, emptied⟩ ⟨isResults, removes⟩
  simp only [deref, ok_bind]
  have thinned : s.registry.Thinned (s.registry.SitedIn session) emptied.registry :=
    ⟨_, removes.removal, fun _ _ => id⟩
  refine (deliverAll_spec removes.healthy (acceptable.deletion _ thinned)).bind ?_
  rintro ran ⟨ranHealthy, undisturbed⟩
  have sited : ∀ pool, pool = .session → ∀ slot, ¬ s.registry.SitedIn session pool slot := by
    rintro _ rfl slot ⟨node, -, owned | ⟨isNode, -⟩⟩
    · cases owned.1
    · cases isNode
  have stays : ran.registry.impl context = some session := by
    rw [undisturbed.registry]
    exact removes.removal.impl.mpr ⟨isImpl, sited _ rfl _⟩
  have ranSound : ran.registry.Sound := undisturbed.registry ▸ removes.sound
  obtain ⟨putHealthy, putRegistry⟩ := ranHealthy.putMemory (by decide) (ranSound.impl stays)
  have empty : ∀ node, ¬ ran.registry.NodeOf session node := by
    rw [undisturbed.registry]
    rintro node ⟨⟨handle, bound⟩, isSession⟩
    have old := removes.removal.bound.mp bound
    have same := removes.removal.entity (removes.sound.placed bound).allocated
    exact old.2 ⟨node, ⟨⟨handle, old.1⟩, same ▸ isSession⟩, Or.inr ⟨rfl, rfl⟩⟩
  have detached := ranSound.removal_detach ranHealthy.nodup stays
  have lastRegistry : ∀ change : Session → Session,
      (((rmwUxrceFiniSessionMemory session ran).modifySession session change).modifyContext context
        fun old => { old with impl := none }).registry =
      (ran.registry.attach context none).release .session session := by
    intro change
    rw [registry_modifyContext, registry_modifySession, rmwUxrceFiniSessionMemory, putRegistry]
    rfl
  have lastHealthy : ∀ change : Session → Session,
      (((rmwUxrceFiniSessionMemory session ran).modifySession session change).modifyContext context
        fun old => { old with impl := none }).Healthy cfg admits := by
    intro change
    apply Rmw.Healthy.modifyContext
    · exact putHealthy
    · rcases putHealthy.identified context with named | ⟨unnamed, -⟩
      · exact Or.inl named
      · exact Or.inr ⟨unnamed, rfl⟩
  refine yields_ok.mpr ⟨isResults, lastHealthy _, ?_, ?_, ?_⟩
  · rw [lastRegistry]
    exact ranSound.detach stays empty
  · refine (removes.advance.trans (.of_sessions undisturbed.sessions)).trans ?_
    constructor
    · intro other type
      by_cases same : other = session <;>
        simp [same, Rmw.modifyContext, Rmw.modifySession, rmwUxrceFiniSessionMemory, Rmw.putMemory]
    · intro other
      by_cases same : other = session <;>
        simp [same, Rmw.modifyContext, Rmw.modifySession, rmwUxrceFiniSessionMemory, Rmw.putMemory]
  · rw [lastRegistry]
    rw [undisturbed.registry] at detached ⊢
    exact removes.removal.trans detached

/-- What `rmw_context_fini` returns and removes. -/
theorem rmwContextFini_spec (healthy : s.Healthy cfg admits) (sound : s.registry.Sound)
    {teardown : ContextTeardown} (isImpl : s.registry.impl context = some session)
    (settled : s.registry.SettledIn session)
    (acceptable : teardown.Acceptable cfg admits s.registry session) :
    Yields (rmwContextFini cfg context teardown s) fun result =>
      result.1 = (nodeReports cfg s.registry session teardown).getLastD .ok ∧
        Removes cfg admits s result.2 fun pool slot =>
          s.registry.SitedIn session pool slot ∨ pool = .session ∧ slot = session := by
  rw [rmwContextFini_eq_trace]
  apply (contextFiniTrace_spec healthy sound isImpl settled acceptable).bind
  intro traced post
  obtain ⟨isTraced, removes⟩ := post
  refine yields_ok.mpr ⟨?_, removes⟩
  rw [isTraced]

/-- `rmw_context_fini` on a context with a session removes the live nodes of the session
with all they own, and the session, and nothing else. -/
theorem rmwContextFini_removes (healthy : s.Healthy cfg admits) (sound : s.registry.Sound)
    {teardown : ContextTeardown} (isImpl : s.registry.impl context = some session)
    (settled : s.registry.SettledIn session)
    (acceptable : teardown.Acceptable cfg admits s.registry session) :
    Yields (rmwContextFini cfg context teardown s) fun result =>
      Removes cfg admits s result.2 fun pool slot =>
        s.registry.SitedIn session pool slot ∨ pool = .session ∧ slot = session :=
  (rmwContextFini_spec healthy sound isImpl settled acceptable).mono fun _ post => post.2

/-- `rmw_shutdown` on a context with a session finalises it, and zeroes it if that succeeds. -/
theorem rmwShutdown_returns (healthy : s.Healthy cfg admits) {teardown : ContextTeardown}
    {ret : RmwRet} {s' : Rmw} (isImpl : s.registry.impl context = some session)
    (returned : rmwShutdown cfg (some context) teardown s = .ok (ret, s')) :
    ∃ last, rmwContextFini cfg context teardown s = .ok (ret, last) ∧
      s' = if ret = .ok then last.modifyContext context fun _ => {} else last := by
  have isContext : (s.contexts context).impl = some session := isImpl
  have identified := (healthy.identified context).of_impl (isContext ▸ rfl)
  simp only [rmwShutdown, identified, checkTypeIdentifiersMatch, beq_self_eq_true, ok_bind,
    ↓reduceIte] at returned
  obtain ⟨⟨ret', last⟩, finalises, isResult⟩ := bind_eq_ok.mp returned
  cases isResult
  exact ⟨last, finalises, rfl⟩

end RmwMicroxrcedds
