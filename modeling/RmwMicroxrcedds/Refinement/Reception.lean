import RmwMicroxrcedds.Model.Take
import RmwMicroxrcedds.Refinement.Basic

/-! # Reception leaves the registry alone

A callback stores a message for the first allocated entity that carries the routing
number of the message: its addressee, which the registry determines. It changes the pool
of input buffers, or the graph snapshot, and nothing else; so does a session that runs.
-/

namespace RmwMicroxrcedds

open Outcome Mempool

/-- The owner and the origin a callback writes to the buffer of a message, if some entity
matches: the entity found, its handle and its routing number. -/
def Registry.addressee (cfg : Config) (r : Registry) (session : Nat) :
    Delivery → Option (EntityPtr × Provenance)
  | .topic objectId _ _ =>
      if cfg.graph && objectId.same (r.graph session).datareaderId then none
      else ((r.allocated .subscription).find? fun slot =>
          match r.entity .subscription slot with
          | .subscription entity => entity.datareaderId.same objectId
          | _ => false).map fun slot =>
        (⟨.subscription, slot⟩, ⟨(r.entity .subscription slot).rmwHandle,
          match r.entity .subscription slot with
          | .subscription entity => entity.datareaderId.id
          | _ => 0⟩)
  | .request requestId _ _ _ => endpoint .service requestId
  | .reply requestId _ _ _ => endpoint .client requestId
where
  endpoint (kind : EndpointKind) (requestId : Nat) : Option (EntityPtr × Provenance) :=
    ((r.allocated kind.pool).find? fun slot =>
      match (r.entity kind.pool slot).dataRequest with
      | some dataRequest => wire dataRequest == wire requestId
      | none => false).map fun slot =>
    (⟨kind.pool, slot⟩,
      ⟨(r.entity kind.pool slot).rmwHandle, (r.entity kind.pool slot).dataRequest.getD 0⟩)

/-- The message is for the graph data reader of its session. -/
def Delivery.toGraph (cfg : Config) (r : Registry) (session : Nat) : Delivery → Bool
  | .topic objectId _ _ => cfg.graph && objectId.same (r.graph session).datareaderId
  | .request _ _ _ _ | .reply _ _ _ _ => false

/-- Everything but the input buffers and the graph snapshot is unchanged. -/
structure Undisturbed (s s' : Rmw) : Prop where
  registry : s'.registry = s.registry
  sessions : s'.customSessions = s.customSessions
  memory : ∀ pool, pool ≠ .staticBuffer → s'.memory pool = s.memory pool
  handles : s'.handles = s.handles

theorem Undisturbed.refl (s : Rmw) : Undisturbed s s := ⟨rfl, rfl, fun _ _ => rfl, rfl⟩

/-- What is undisturbed twice is undisturbed. -/
theorem Undisturbed.trans {s s' s'' : Rmw} (first : Undisturbed s s')
    (second : Undisturbed s' s'') :
    Undisturbed s s'' where
  registry := second.registry.trans first.registry
  sessions := second.sessions.trans first.sessions
  memory := fun pool entities => (second.memory pool entities).trans (first.memory pool entities)
  handles := second.handles.trans first.handles

/-- What a callback writes to the union of the buffer: a request brings the identity of its
sample, a reply the id of the request it answers. -/
def Delivery.related : Delivery → Related → Related
  | .topic _ _ _ => id
  | .request _ sampleId _ _ => fun _ => .sampleId sampleId
  | .reply _ replyId _ _ => fun _ => .replyId replyId

variable {cfg : Config} {admits : Admission} {s s' : Rmw} {session item : Nat} {rest : List Nat}
variable {owner : EntityPtr} {provenance : Provenance} {related : Related → Related}
variable {delivery : Delivery}

/-- The contents of an input buffer after a message was stored in it. -/
def stored (owner : EntityPtr) (provenance : Provenance) (related : Related → Related)
    (delivery : Delivery) (old : StaticInputBuffer) : StaticInputBuffer where
  buffer := overwrite old.buffer delivery.written
  length := delivery.length
  owner := some owner
  related := related old.related
  provenance := provenance

/-- What storing a message does to the input buffers. -/
inductive Enqueued (message : StaticInputBuffer → StaticInputBuffer) (copied : Bool)
    (s s' : Rmw) : Prop where
  | full (empty : s.free .staticBuffer = []) (same : s' = s)
  | stored (item : Nat) (rest : List Nat) (first : s.free .staticBuffer = item :: rest)
      (wasCopied : copied = true)
      (allocated : s'.allocated .staticBuffer = item :: s.allocated .staticBuffer)
      (buffers : s'.customStaticBuffers = Function.update s.customStaticBuffers item
        (message (s.customStaticBuffers item)))
  | dropped (item : Nat) (rest : List Nat) (first : s.free .staticBuffer = item :: rest)
      (notCopied : copied = false)
      (allocated : s'.allocated .staticBuffer = s.allocated .staticBuffer)
      (buffers : ∀ other, other ≠ item →
        s'.customStaticBuffers other = s.customStaticBuffers other)

/-- The state with other input buffers. -/
def Rmw.withInput (s : Rmw) (mem : Mempool) (buffers : Nat → StaticInputBuffer) : Rmw :=
  { s with
    memory := Function.update s.memory .staticBuffer mem
    customStaticBuffers := buffers }

/-- The input buffers disturb no entity. -/
theorem Undisturbed.withInput (mem : Mempool) (buffers : Nat → StaticInputBuffer) :
    Undisturbed s (s.withInput mem buffers) where
  registry := by
    ext1 <;> try rfl
    funext pool
    by_cases same : pool = .staticBuffer
    · simp [Rmw.registry, same]
    · simp [Rmw.registry, Rmw.withInput, Rmw.allocated, same]
  sessions := rfl
  memory := fun pool entities => by simp [Rmw.withInput, entities]
  handles := rfl

/-- Giving a buffer back leaves the contents of the buffers. -/
theorem putMemory_withInput (s : Rmw) (mem : Mempool) (buffers : Nat → StaticInputBuffer)
    (item : Nat) : (s.withInput mem buffers).putMemory .staticBuffer item =
      s.withInput (mem.putMemory item) buffers := by
  simp only [Rmw.putMemory, Rmw.withInput, Function.update_self, Function.update_idem]

/-- The storing half of a callback changes nothing but the input buffers, and not their
number. -/
theorem storeInput_returned
    (returned : storeInput cfg owner provenance related delivery s = .ok s') :
    ∃ mem buffers, s' = s.withInput mem buffers ∧ mem.size = (s.memory .staticBuffer).size := by
  have taken : ((s.memory .staticBuffer).getMemory.2).size = (s.memory .staticBuffer).size := by
    unfold Mempool.getMemory
    split <;> rfl
  unfold storeInput at returned
  split at returned
  · rename_i next first
    obtain rfl : (s.getMemory .staticBuffer).2 = next := congrArg Prod.snd first
    cases returned
    exact ⟨_, s.customStaticBuffers, rfl, taken⟩
  · rename_i item next first
    obtain rfl : (s.getMemory .staticBuffer).2 = next := congrArg Prod.snd first
    obtain ⟨slot, -, returned⟩ := bind_eq_ok.mp returned
    dsimp only at returned
    split at returned
    · cases returned
    · split at returned
      · cases returned
        exact ⟨_, _, rfl, taken⟩
      · cases returned
        exact ⟨_, _, putMemory_withInput s (s.memory .staticBuffer).getMemory.2 _ item, taken⟩

/-- A callback changes the graph snapshot, for a message to the graph, or input buffers. -/
theorem deliver_returned (returned : deliver cfg session delivery s = .ok s') :
    delivery.toGraph cfg s.registry session = true ∧ storeGraph cfg session delivery s = .ok s' ∨
      delivery.toGraph cfg s.registry session = false ∧
        ∃ mem buffers, s' = s.withInput mem buffers ∧
          mem.size = (s.memory .staticBuffer).size := by
  have unchanged : s = s.withInput (s.memory .staticBuffer) s.customStaticBuffers := by
    simp only [Rmw.withInput, Function.update_eq_self]
  cases delivery with
  | topic objectId stream length =>
      have reader : (s.registry.graph session).datareaderId = (s.graphInfo session).datareaderId :=
        rfl
      simp only [Delivery.toGraph, reader]
      simp only [deliver, onTopic] at returned
      split at returned
      · rename_i isGraph
        exact Or.inl ⟨isGraph, returned⟩
      · rename_i notGraph
        refine Or.inr ⟨(Bool.not_eq_true _).mp notGraph, ?_⟩
        obtain ⟨found, -, returned⟩ := bind_eq_ok.mp returned
        cases found with
        | none =>
            cases returned
            exact ⟨_, _, unchanged, rfl⟩
        | some item =>
            obtain ⟨slot, -, returned⟩ := bind_eq_ok.mp returned
            exact storeInput_returned returned
  | request requestId sampleId stream length | reply requestId replyId stream length =>
      refine Or.inr ⟨rfl, ?_⟩
      obtain ⟨found, -, returned⟩ := bind_eq_ok.mp returned
      cases found with
      | none =>
          cases returned
          exact ⟨_, _, unchanged, rfl⟩
      | some item =>
          obtain ⟨slot, -, returned⟩ := bind_eq_ok.mp returned
          exact storeInput_returned returned

/-- The input buffers may be replaced when the pending messages are as they should be. -/
theorem Rmw.Healthy.withInput (healthy : s.Healthy cfg admits) {mem : Mempool}
    {buffers : Nat → StaticInputBuffer} {free allocated : List Nat}
    (moves : (s.memory .staticBuffer).Moves mem free allocated)
    (positive : 0 < (s.memory .staticBuffer).size)
    (pending : ∀ item ∈ allocated, ∃ owner, (buffers item).owner = some owner ∧
      Tagged owner.pool (buffers item).related ∧
        admits.message owner (buffers item).provenance) :
    (s.withInput mem buffers).Healthy cfg admits where
  wf := fun pool => by
    by_cases same : pool = .staticBuffer
    · subst same
      simpa [Rmw.withInput] using moves.wf
    · simpa [Rmw.withInput, same] using healthy.wf pool
  sized := fun pool => by
    by_cases same : pool = .staticBuffer
    · subst same
      simp only [Rmw.withInput, Function.update_self]
      rcases healthy.sized .staticBuffer with zeroed | sized
      · rw [zeroed] at positive
        exact absurd positive (Nat.lt_irrefl _)
      · exact Or.inr ⟨moves.isInitialized.trans sized.1, moves.size.trans sized.2⟩
    · simpa [Rmw.withInput, same] using healthy.sized pool
  together := fun first second isEntity isEntity' => by
    have same : ∀ pool, pool.isEntity = true →
        (s.withInput mem buffers).memory pool = s.memory pool := by
      intro pool isEntity
      refine Function.update_of_ne ?_ _ _
      rintro rfl
      cases isEntity
    rw [same _ isEntity, same _ isEntity']
    exact healthy.together first second isEntity isEntity'
  named := healthy.named
  fresh := healthy.fresh
  spaced := healthy.spaced
  pending := by
    simp only [Rmw.withInput, Function.update_self, moves.allocated_eq]
    exact pending
  ready := fun pool isReady => by
    by_cases same : pool = .staticBuffer
    · subst same
      simpa [Rmw.withInput, moves.isInitialized] using healthy.ready _ isReady
    · simpa [Rmw.withInput, same] using healthy.ready pool isReady
  identified := healthy.identified

/-- What is copied out of the stream, be it all of the announced payload or not, is no longer
than an input buffer. -/
def Delivery.WrittenFits (cfg : Config) (delivery : Delivery) : Prop :=
  delivery.written.length ≤ cfg.maxInputBufferSize

/-- A delivery that fits can be written. -/
theorem Delivery.Fits.writtenFits (fits : delivery.Fits cfg) : delivery.WrittenFits cfg := by
  have short : delivery.written.length ≤ delivery.length := by
    rw [Delivery.written, List.length_take]
    exact Nat.min_le_left _ _
  exact Nat.le_trans short fits

/-- The storing half of a callback: the message is stored, or nothing is pending that was
not before. -/
theorem storeInput_spec (healthy : s.Healthy cfg admits) (fits : delivery.WrittenFits cfg)
    (admitted : admits.message owner provenance) (tagged : ∀ old, Tagged owner.pool (related old)) :
    Yields (storeInput cfg owner provenance related delivery s) fun s' =>
      s'.Healthy cfg admits ∧ Undisturbed s s' ∧ s'.graphInfo = s.graphInfo ∧
        Enqueued (stored owner provenance related delivery) delivery.copied s s' := by
  cases isFree : s.free .staticBuffer with
  | nil =>
      have none := healthy.getMemory_of_free_nil isFree
      simp only [storeInput, none]
      exact yields_ok.mpr ⟨healthy, .refl s, rfl, .full isFree rfl⟩
  | cons item rest =>
      obtain ⟨mem, taken, moves⟩ :=
        Mempool.getMemory_of_free_cons (healthy.wf .staticBuffer) isFree
      have first : s.getMemory .staticBuffer =
          (some item, { s with memory := Function.update s.memory .staticBuffer mem }) := by
        simp only [Rmw.getMemory, taken]
      have positive : 0 < (s.memory .staticBuffer).size := by
        have below := (moves.represents.cover item).mp (by simp)
        rw [moves.size] at below
        omega
      have memWf := moves.wf
      have allocatedEq := moves.allocated_eq
      have isAllocated : item ∈ mem.allocated := by simp [allocatedEq]
      have isData := memWf.data_eq isAllocated
      have room : ¬ cfg.maxInputBufferSize < delivery.written.length := Nat.not_lt.mpr fits
      have apart : ∀ other ∈ s.allocated .staticBuffer, other ≠ item := by
        rintro other inside rfl
        have inFree : other ∈ s.free .staticBuffer := by simp [isFree]
        exact (healthy.wf .staticBuffer).disjoint inFree inside
      have pendingKept : ∀ (message : StaticInputBuffer), ∀ other ∈ s.allocated .staticBuffer,
          ∃ owner, (Function.update s.customStaticBuffers item message other).owner = some owner ∧
            Tagged owner.pool (Function.update s.customStaticBuffers item message other).related ∧
            admits.message owner
              (Function.update s.customStaticBuffers item message other).provenance := by
        intro message other inside
        rw [Function.update_of_ne (apart other inside)]
        exact healthy.pending other inside
      have filled : storeInput cfg owner provenance related delivery s =
          .ok (if delivery.copied then
              s.withInput mem (Function.update s.customStaticBuffers item
                (stored owner provenance related delivery (s.customStaticBuffers item)))
            else s.withInput (mem.putMemory item) (Function.update s.customStaticBuffers item
                (stored owner provenance related delivery (s.customStaticBuffers item)))) := by
        simp only [storeInput, first, Rmw.dataOf, Function.update_self, isData, deref, ok_bind,
          room, ↓reduceIte, Rmw.modifyStaticBuffer, Function.update_idem, Rmw.putMemory]
        cases delivery.copied <;> rfl
      rw [filled, yields_ok]
      cases copied : delivery.copied with
      | true =>
          refine ⟨?_, .withInput _ _, rfl, .stored item rest isFree rfl ?_ rfl⟩
          · refine healthy.withInput moves positive fun other inside => ?_
            rcases List.mem_cons.mp inside with rfl | inside
            · simp only [Function.update_self]
              exact ⟨owner, rfl, tagged _, admitted⟩
            · exact pendingKept _ other inside
          · simp [Rmw.allocated, Rmw.withInput, allocatedEq]
      | false =>
          have back := Mempool.putMemory_of_allocated memWf isAllocated
          have erased : mem.allocated.erase item = s.allocated .staticBuffer := by
            simp [allocatedEq, Rmw.allocated]
          rw [erased] at back
          refine ⟨?_, .withInput _ _, rfl,
            .dropped item rest isFree rfl ?_ fun other different => ?_⟩
          · have whole : (s.memory .staticBuffer).Moves (mem.putMemory item) (item :: mem.free)
                (s.allocated .staticBuffer) :=
              ⟨back.represents, back.size.trans moves.size,
                back.isInitialized.trans moves.isInitialized⟩
            exact healthy.withInput whole positive fun other inside =>
              pendingKept _ other inside
          · simpa [Rmw.allocated, Rmw.withInput] using back.allocated_eq
          · exact Function.update_of_ne different _ _

/-- The graph branch of `on_topic`. -/
theorem storeGraph_spec (healthy : s.Healthy cfg admits) (fits : delivery.WrittenFits cfg) :
    Yields (storeGraph cfg session delivery s) fun s' =>
      s'.Healthy cfg admits ∧ Undisturbed s s' ∧
        s'.allocated .staticBuffer = s.allocated .staticBuffer ∧
        s'.customStaticBuffers = s.customStaticBuffers := by
  have room : ¬ cfg.maxInputBufferSize < delivery.written.length := Nat.not_lt.mpr fits
  simp only [storeGraph, room, ↓reduceIte, yields_ok]
  refine ⟨healthy, ⟨?_, rfl, fun _ _ => rfl, rfl⟩, rfl, rfl⟩
  rw [registry_modifyGraphInfo]
  ext1 <;> try rfl
  funext other
  by_cases same : other = session <;> simp [same, Rmw.registry, GraphInfo.objects]

/-- What the callback for a message does: the graph snapshot is overwritten, nobody is
addressed, or the message is stored for the addressee. -/
inductive Received (cfg : Config) (session : Nat) (delivery : Delivery) (s s' : Rmw) : Prop where
  | unaddressed (nobody : s.registry.addressee cfg session delivery = none)
      (allocated : s'.allocated .staticBuffer = s.allocated .staticBuffer)
      (buffers : s'.customStaticBuffers = s.customStaticBuffers)
  | addressed (owner : EntityPtr) (provenance : Provenance) (related : Related → Related)
      (isAddressee : s.registry.addressee cfg session delivery = some (owner, provenance))
      (enqueued : Enqueued (stored owner provenance related delivery) delivery.copied s s')
      (isRelated : related = delivery.related)

/-- The condition on a message that arrives: it fits an input buffer, and the entity it is
for, if any, is one the admission allows. -/
structure Acceptable (cfg : Config) (admits : Admission) (r : Registry) (session : Nat)
    (delivery : Delivery) : Prop where
  fits : delivery.Fits cfg
  admitted : ∀ owner provenance, r.addressee cfg session delivery = some (owner, provenance) →
    admits.message owner provenance

/-- What is acceptable stays so when more is admitted. -/
theorem Acceptable.mono {r : Registry} {admits' : Admission}
    (acceptable : Acceptable cfg admits r session delivery) (within : admits.Within admits') :
    Acceptable cfg admits' r session delivery :=
  ⟨acceptable.fits, fun _ _ isAddressee => within _ _ (acceptable.admitted _ _ isAddressee)⟩

private theorem storeInput_received (healthy : s.Healthy cfg admits)
    (fits : delivery.WrittenFits cfg)
    (admitted : ∀ owner provenance,
      s.registry.addressee cfg session delivery = some (owner, provenance) →
        admits.message owner provenance)
    (isAddressee : s.registry.addressee cfg session delivery = some (owner, provenance))
    (tagged : ∀ old, Tagged owner.pool (related old)) (isRelated : related = delivery.related) :
    Yields (storeInput cfg owner provenance related delivery s) fun s' =>
      s'.Healthy cfg admits ∧ Undisturbed s s' ∧ Received cfg session delivery s s' :=
  (storeInput_spec healthy fits (admitted _ _ isAddressee) tagged).mono
    fun _ spec =>
      ⟨spec.1, spec.2.1, .addressed owner provenance related isAddressee spec.2.2.2 isRelated⟩

/-- A callback whose copy stays inside the buffer never faults, and does to the buffers what the
registry says. -/
theorem deliver_received (healthy : s.Healthy cfg admits) (fits : delivery.WrittenFits cfg)
    (admitted : ∀ owner provenance,
      s.registry.addressee cfg session delivery = some (owner, provenance) →
        admits.message owner provenance) :
    Yields (deliver cfg session delivery s) fun s' =>
      s'.Healthy cfg admits ∧ Undisturbed s s' ∧ Received cfg session delivery s s' := by
  cases delivery with
  | topic objectId stream length =>
      simp only [deliver, onTopic]
      split
      · rename_i isGraph
        refine (storeGraph_spec healthy fits).mono fun s' spec =>
          ⟨spec.1, spec.2.1, .unaddressed ?_ spec.2.2.1 spec.2.2.2⟩
        simp only [Registry.addressee]
        exact if_pos isGraph
      · rename_i notGraph
        have addressee : s.registry.addressee cfg session (.topic objectId stream length) =
            ((s.allocated .subscription).find? fun slot =>
              (s.customSubscriptions slot).datareaderId.same objectId).map fun slot =>
              (⟨.subscription, slot⟩, ⟨(s.customSubscriptions slot).rmwHandle,
                (s.customSubscriptions slot).datareaderId.id⟩) := if_neg notGraph
        rw [healthy.findAllocated, ok_bind]
        cases found : (s.allocated .subscription).find? fun slot =>
            (s.customSubscriptions slot).datareaderId.same objectId with
        | none =>
            simp only [yields_ok]
            exact ⟨healthy, .refl s, .unaddressed (by rw [addressee, found]; rfl) rfl rfl⟩
        | some slot =>
            simp only [healthy.dataOf (List.mem_of_find?_eq_some found), ok_bind]
            exact storeInput_received healthy fits admitted (by rw [addressee, found]; rfl)
              (fun _ => trivial) rfl
  | request requestId sampleId stream length =>
      have addressee : s.registry.addressee cfg session
        (.request requestId sampleId stream length) =
          ((s.allocated .service).find? fun slot =>
            wire (s.customServices slot).dataRequest == wire requestId).map fun slot =>
            (⟨.service, slot⟩, ⟨(s.customServices slot).rmwHandle,
              (s.customServices slot).dataRequest⟩) := rfl
      simp only [deliver, onRequest]
      rw [healthy.findAllocated, ok_bind]
      cases found : (s.allocated .service).find? fun slot =>
          wire (s.customServices slot).dataRequest == wire requestId with
      | none =>
          simp only [yields_ok]
          exact ⟨healthy, .refl s, .unaddressed (by rw [addressee, found]; rfl) rfl rfl⟩
      | some slot =>
          simp only [healthy.dataOf (List.mem_of_find?_eq_some found), ok_bind]
          exact storeInput_received healthy fits admitted (by rw [addressee, found]; rfl)
            (fun _ => trivial) rfl
  | reply requestId replyId stream length =>
      have addressee : s.registry.addressee cfg session (.reply requestId replyId stream length) =
          ((s.allocated .client).find? fun slot =>
            wire (s.customClients slot).dataRequest == wire requestId).map fun slot =>
            (⟨.client, slot⟩, ⟨(s.customClients slot).rmwHandle,
              (s.customClients slot).dataRequest⟩) := rfl
      simp only [deliver, onReply]
      rw [healthy.findAllocated, ok_bind]
      cases found : (s.allocated .client).find? fun slot =>
          wire (s.customClients slot).dataRequest == wire requestId with
      | none =>
          simp only [yields_ok]
          exact ⟨healthy, .refl s, .unaddressed (by rw [addressee, found]; rfl) rfl rfl⟩
      | some slot =>
          simp only [healthy.dataOf (List.mem_of_find?_eq_some found), ok_bind]
          exact storeInput_received healthy fits admitted (by rw [addressee, found]; rfl)
            (fun _ => trivial) rfl

/-- A callback for an acceptable message. -/
theorem deliver_spec (healthy : s.Healthy cfg admits)
    (acceptable : Acceptable cfg admits s.registry session delivery) :
    Yields (deliver cfg session delivery s) fun s' =>
      s'.Healthy cfg admits ∧ Undisturbed s s' ∧ Received cfg session delivery s s' :=
  deliver_received healthy acceptable.fits.writtenFits acceptable.admitted

/-- Messages that arrive one after the other. -/
theorem deliverAll_spec (healthy : s.Healthy cfg admits) {deliveries : List Delivery}
    (acceptable : ∀ delivery ∈ deliveries, Acceptable cfg admits s.registry session delivery) :
    Yields (deliverAll cfg session deliveries s) fun s' =>
      s'.Healthy cfg admits ∧ Undisturbed s s' := by
  induction deliveries generalizing s with
  | nil => exact yields_ok.mpr ⟨healthy, .refl s⟩
  | cons delivery deliveries ih =>
      refine (deliver_spec healthy (acceptable delivery List.mem_cons_self)).bind
        fun middle spec => ?_
      refine (ih spec.1 fun delivery inside => ?_).mono fun last rest =>
        ⟨rest.1, spec.2.1.trans rest.2⟩
      rw [spec.2.1.registry]
      exact acceptable delivery (List.mem_cons_of_mem _ inside)

/-- A session that runs reports what the agent does, and disturbs nothing. -/
theorem runXrceSession_spec (healthy : s.Healthy cfg admits) {exchange : Exchange}
    (acceptable : ∀ delivery ∈ exchange.deliveries,
      Acceptable cfg admits s.registry session delivery) :
    Yields (runXrceSession cfg session exchange s) fun result =>
      result.1 = exchange.succeeds cfg ∧ result.2.Healthy cfg admits ∧
        Undisturbed s result.2 := by
  simp only [runXrceSession, Exchange.succeeds]
  split
  · rename_i bestEffort
    simp only [yields_ok, bestEffort, decide_true, Bool.true_or, true_and]
    exact ⟨healthy, .refl s⟩
  · rename_i reliable
    refine (deliverAll_spec healthy acceptable).bind fun last spec => ?_
    simp [reliable, spec.1, spec.2]

end RmwMicroxrcedds
