import RmwMicroxrcedds.Machine.Run

/-! # What a teardown gives back

After a run in which every creation succeeded, `rmw_destroy_node` gives back exactly the
node and what it owns, and `rmw_context_fini` exactly the nodes of the context with what
they own, and the session. The outcome of the exchanges with the agent plays no part.
-/

namespace RmwMicroxrcedds

open Outcome Registry

variable {cfg : Config} {s s' : Rmw} {w : World} {pool : Pool} {gone gone' : Pool → Nat → Prop}
variable {node nodeHandle slot context session : Nat}

/-- What a node owns: itself, the allocated entities whose `owner_node` it is, and the
topics of the publishers and subscriptions among them. -/
inductive Rmw.Owns (s : Rmw) (node : Nat) : Pool → Nat → Prop
  | node : s.Owns node .node node
  | leaf (pool : Pool) (slot : Nat) (isLeaf : pool.isLeaf = true) (inside : slot ∈ s.allocated pool)
      (owner : (s.entity pool slot).ownerNode = some node) : s.Owns node pool slot
  | topic (pool : Pool) (slot topic : Nat) (topics : pool.hasTopic = true)
      (inside : slot ∈ s.allocated pool) (owner : (s.entity pool slot).ownerNode = some node)
      (isTopic : (s.entity pool slot).topicOf = some topic) : s.Owns node .topic topic

/-- What a session carries: itself, and the allocated nodes whose `context` it is, with
what they own. -/
inductive Rmw.Carries (s : Rmw) (session : Nat) : Pool → Nat → Prop
  | session : s.Carries session .session session
  | node (node : Nat) (pool : Pool) (slot : Nat) (inside : node ∈ s.allocated .node)
      (context : (s.customNodes node).context = some session) (owns : s.Owns node pool slot) :
      s.Carries session pool slot

/-- Between the two states exactly the slots in `gone` have moved from the allocated to the
free list of their pool, each of them once, and what stays allocated is unchanged. -/
structure GivesBack (s s' : Rmw) (gone : Pool → Nat → Prop) : Prop where
  allocated : ∀ pool slot, pool ≠ .staticBuffer →
    (slot ∈ s'.allocated pool ↔ slot ∈ s.allocated pool ∧ ¬ gone pool slot)
  free : ∀ pool slot, pool ≠ .staticBuffer → gone pool slot →
    slot ∈ s.allocated pool ∧ slot ∈ s'.free pool
  once : ∀ pool, (s'.free pool ++ s'.allocated pool).Nodup
  kept : ∀ pool slot, pool ≠ .staticBuffer → slot ∈ s'.allocated pool →
    s'.entity pool slot = s.entity pool slot

/-- The admission of a call after which the pools initialised before still are. -/
def Rmw.keeping (s : Rmw) : Admission :=
  { everyone with ready := fun pool => (s.memory pool).isInitialized = true }

/-- A healthy layer keeps what is pending. -/
theorem Rmw.Healthy.keeping (healthy : s.Healthy cfg everyone) : s.Healthy cfg s.keeping :=
  healthy.readmit (fun _ _ _ _ => id) fun _ => id

/-- A slot that was allocated and no longer is, is free. -/
theorem Rmw.Healthy.mem_free (healthy : s.Healthy cfg everyone)
    (healthy' : s'.Healthy cfg s.keeping)
    (inside : slot ∈ s.allocated pool) (outside : slot ∉ s'.allocated pool) :
    slot ∈ s'.free pool := by
  have below : slot < (s.memory pool).size := (healthy.wf pool).lt_of_mem inside
  have size : (s'.memory pool).size = (s.memory pool).size := by
    rcases healthy.sized pool with zeroed | ⟨initialised, size⟩
    · rw [zeroed] at below
      cases below
    · rcases healthy'.sized pool with zeroed | ⟨-, size'⟩
      · have kept := healthy'.ready pool initialised
        rw [zeroed] at kept
        cases kept
      · rw [size', size]
  have either := ((healthy'.wf pool).cover slot).mpr (size ▸ below)
  exact (List.mem_append.mp either).resolve_right outside

/-- What a removal takes out of the registry is given back to the pools. -/
theorem Removes.givesBack (removes : Removes cfg s.keeping s s' gone)
    (healthy : s.Healthy cfg everyone) (sound : s.registry.Sound)
    (noTopic : ∀ slot, ¬ gone .topic slot)
    (same : ∀ pool slot, gone' pool slot ↔
      gone pool slot ∨ pool = .topic ∧ s.registry.TopicOf gone slot)
    (live : ∀ pool slot, pool.hasTopic = true → gone pool slot →
      ∃ handle, s.registry.Bound pool handle slot) :
    GivesBack s s' gone' := by
  have removal := removes.removal
  have allocated : ∀ pool slot, pool ≠ .staticBuffer →
      (slot ∈ s'.allocated pool ↔ slot ∈ s.allocated pool ∧ ¬ gone' pool slot) := by
    intro pool slot entities
    rw [← Rmw.registry_allocated entities, ← Rmw.registry_allocated entities, same]
    by_cases isTopic : pool = .topic
    · subst isTopic
      simp only [removal.topics, noTopic, false_or, true_and]
    · simp only [removal.kept isTopic, isTopic, false_and, or_false]
  have inside : ∀ pool slot, pool ≠ .staticBuffer → gone' pool slot → slot ∈ s.allocated pool := by
    intro pool slot entities isGone
    rw [← Rmw.registry_allocated entities]
    rcases (same pool slot).mp isGone with here | ⟨rfl, owner, entity, topics, here, isTopic⟩
    · exact removal.inside here
    · obtain ⟨handle, bound⟩ := live owner entity topics here
      obtain ⟨topic, isTopic', topicInside, -⟩ := (sound.placed bound).topic topics
      rw [isTopic] at isTopic'
      exact Option.some.inj isTopic' ▸ topicInside
  refine ⟨allocated, fun pool slot entities isGone => ?_, fun pool =>
    (removes.healthy.wf pool).nodup, fun pool slot entities stays => ?_⟩
  · have was := inside pool slot entities isGone
    exact ⟨was, healthy.mem_free removes.healthy was fun still =>
      ((allocated pool slot entities).mp still).2 isGone⟩
  · rw [← Rmw.registry_allocated entities] at stays
    exact removal.entity stays

/-- In a tight registry the live entities of a node are the allocated ones it owns. -/
theorem ownedBy_iff (sound : s.registry.Sound) (tight : s.registry.Tight fun _ => True) :
    s.registry.OwnedBy node pool slot ↔ pool.isLeaf = true ∧ slot ∈ s.allocated pool ∧
      (s.entity pool slot).ownerNode = some node := by
  constructor
  · rintro ⟨leaf, ⟨handle, bound⟩, owner⟩
    refine ⟨leaf, ?_, owner⟩
    rw [← Rmw.registry_allocated (ne_staticBuffer_of_isLeaf leaf)]
    exact (sound.placed bound).allocated
  · rintro ⟨leaf, inside, owner⟩
    rw [← Rmw.registry_allocated (ne_staticBuffer_of_isLeaf leaf)] at inside
    exact ⟨leaf, tight pool slot trivial (Pool.hasHandle_of_isLeaf leaf) inside, owner⟩

/-- What a node owns is what goes with it, and the topics of that. -/
theorem owns_iff (sound : s.registry.Sound) (tight : s.registry.Tight fun _ => True) :
    s.Owns node pool slot ↔ s.registry.GoesWith node pool slot ∨
      pool = .topic ∧ s.registry.TopicOf (s.registry.GoesWith node) slot := by
  constructor
  · rintro (_ | ⟨pool, slot, leaf, inside, owner⟩ |
      ⟨pool, slot, topic, topics, inside, owner, isTopic⟩)
    · exact Or.inl (Or.inr ⟨rfl, rfl⟩)
    · exact Or.inl (Or.inl ((ownedBy_iff sound tight).mpr ⟨leaf, inside, owner⟩))
    · have owned := (ownedBy_iff sound tight).mpr ⟨Pool.isLeaf_of_hasTopic topics, inside, owner⟩
      exact Or.inr ⟨rfl, pool, slot, topics, Or.inl owned, isTopic⟩
  · rintro ((owned | ⟨rfl, rfl⟩) | ⟨rfl, owner, entity, topics, owned | ⟨rfl, -⟩, isTopic⟩)
    · obtain ⟨leaf, inside, owner⟩ := (ownedBy_iff sound tight).mp owned
      exact .leaf _ _ leaf inside owner
    · exact .node
    · obtain ⟨-, inside, isOwner⟩ := (ownedBy_iff sound tight).mp owned
      exact .topic _ _ _ topics inside isOwner isTopic
    · cases topics

/-- The allocated nodes of a session are live. -/
theorem nodeOf_iff (sound : s.registry.Sound) (tight : s.registry.Tight fun _ => True) :
    s.registry.NodeOf session node ↔
      node ∈ s.allocated .node ∧ (s.customNodes node).context = some session := by
  rw [← Rmw.registry_allocated (by decide)]
  constructor
  · rintro ⟨⟨handle, bound⟩, isContext⟩
    exact ⟨(sound.placed bound).allocated, isContext⟩
  · rintro ⟨inside, isContext⟩
    exact ⟨tight .node node trivial rfl inside, isContext⟩

/-- What a session carries is what lies in it, the session itself, and the topics of that. -/
theorem carries_iff (sound : s.registry.Sound) (tight : s.registry.Tight fun _ => True) :
    s.Carries session pool slot ↔
      (s.registry.SitedIn session pool slot ∨ pool = .session ∧ slot = session) ∨
        pool = .topic ∧ s.registry.TopicOf (fun pool slot =>
          s.registry.SitedIn session pool slot ∨ pool = .session ∧ slot = session) slot := by
  constructor
  · rintro (_ | ⟨node, pool, slot, inside, isContext, owns⟩)
    · exact Or.inl (Or.inr ⟨rfl, rfl⟩)
    · have isNode := (nodeOf_iff sound tight).mpr ⟨inside, isContext⟩
      rcases (owns_iff sound tight).mp owns with goes | ⟨rfl, owner, entity, topics, goes, isTopic⟩
      · exact Or.inl (Or.inl ⟨node, isNode, goes⟩)
      · exact Or.inr ⟨rfl, owner, entity, topics, Or.inl ⟨node, isNode, goes⟩, isTopic⟩
  · rintro ((⟨node, isNode, goes⟩ | ⟨rfl, rfl⟩) |
      ⟨rfl, owner, entity, topics, ⟨node, isNode, goes⟩ | ⟨rfl, -⟩, isTopic⟩)
    · obtain ⟨inside, isContext⟩ := (nodeOf_iff sound tight).mp isNode
      exact .node node _ _ inside isContext ((owns_iff sound tight).mpr (Or.inl goes))
    · exact .session
    · obtain ⟨inside, isContext⟩ := (nodeOf_iff sound tight).mp isNode
      exact .node node _ _ inside isContext
        ((owns_iff sound tight).mpr (Or.inr ⟨rfl, owner, entity, topics, goes, isTopic⟩))
    · cases topics

/-- What goes with a node is live, if it has a topic, and no topic itself. -/
theorem Registry.GoesWith.live {r : Registry} (goes : r.GoesWith node pool slot) :
    pool ≠ .topic ∧ (pool.hasTopic = true → ∃ handle, r.Bound pool handle slot) := by
  rcases goes with owned | ⟨rfl, -⟩
  · exact ⟨ne_topic_of_isLeaf owned.1, fun _ => owned.2.1⟩
  · exact ⟨by decide, fun topics => by cases topics⟩

/-- Every creation of the operation, if it is one, succeeds. -/
def Creates (cfg : Config) (w : World) (op : Op) : Prop :=
  ∀ exit, op.exit cfg w.rmw = some exit → exit = .created

/-- After any run in which every creation succeeded, and for any outcome of the exchanges:
destroying a node gives back what it owns, and finalising a context what its session
carries. -/
theorem teardown_givesBack (reachable : Reachable (layer cfg) (Creates cfg) w) :
    (∀ nodeHandle node teardown, Enabled cfg w (.destroyNode nodeHandle teardown) →
      w.rmw.registry.Bound .node nodeHandle node →
      ∃ ret s', rmwDestroyNode cfg (some nodeHandle) teardown w.rmw = .ok (ret, s') ∧
        GivesBack w.rmw s' (w.rmw.Owns node)) ∧
    ∀ context session teardown, Enabled cfg w (.contextFini context teardown) →
      (w.rmw.contexts context).impl = some session →
      ∃ ret s', rmwContextFini cfg context teardown w.rmw = .ok (ret, s') ∧
        GivesBack w.rmw s' (w.rmw.Carries session) := by
  obtain ⟨healthy, sound, tight⟩ := reachable_tight
    (reachable.mono fun w op creates exit isExit => Or.inl (creates exit isExit))
  constructor
  · intro nodeHandle node teardown enabled bound
    obtain ⟨session, isContext, -⟩ := (sound.placed bound).sited rfl
    have acceptable := enabled.2 node session bound isContext
    obtain ⟨⟨ret, s'⟩, returns, removes⟩ := rmwDestroyNode_removes
      healthy.keeping sound bound
      (tight.settled sound (.destroyNode nodeHandle teardown) node bound)
      isContext (acceptable.mono fun _ _ => id)
    exact ⟨ret, s', returns, removes.givesBack healthy sound
      (fun slot goes => GoesWith.live goes |>.1 rfl) (fun pool slot => owns_iff sound tight)
      fun pool slot topics goes => GoesWith.live goes |>.2 topics⟩
  · intro context session teardown enabled isImpl
    obtain ⟨⟨ret, s'⟩, returns, removes⟩ := rmwContextFini_removes
      healthy.keeping sound isImpl
      (tight.settled sound (.contextFini context teardown) session isImpl)
      ((enabled.2 session isImpl).mono fun _ _ => id)
    refine ⟨ret, s', returns, removes.givesBack healthy sound ?_
      (fun pool slot => carries_iff sound tight) ?_⟩
    · rintro slot (⟨node, -, goes⟩ | ⟨absurd, -⟩)
      · exact goes.live.1 rfl
      · cases absurd
    · rintro pool slot topics (⟨node, -, goes⟩ | ⟨rfl, -⟩)
      · exact goes.live.2 topics
      · cases topics

/-- The node of the small run goes with its publisher. -/
theorem teardown_givesBack_small : ∃ ret s',
    rmwDestroyNode Small.config (some 0) {} Small.withPublisher.rmw = .ok (ret, s') ∧
      GivesBack Small.withPublisher.rmw s' (Small.withPublisher.rmw.Owns 0) := by
  refine (teardown_givesBack (Small.withPublisher_reachable ?_ ?_ ?_)).1 0 0 {} ⟨?_, ?_⟩ rfl
  · intro exit absurd
    cases absurd
  · intro exit isExit
    exact (Option.some.inj isExit).symm
  · intro exit isExit
    exact (Option.some.inj isExit).symm
  · exact ⟨by decide, rfl⟩
  · exact fun _ _ _ _ => NodeTeardown.Quiet.acceptable {}

end RmwMicroxrcedds
