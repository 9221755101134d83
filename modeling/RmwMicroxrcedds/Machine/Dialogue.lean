import RmwMicroxrcedds.Machine.Station
import RmwMicroxrcedds.Machine.Traffic

/-! # A station in dialogue

Between creations and destructions a station sends, receives, takes and waits. All entities stay
as they are meanwhile, what was written stays on record, and whatever is in the input buffers was
there before, or has arrived.
-/

namespace RmwMicroxrcedds

open Outcome Registry

variable {cfg : Config} {admits : Admission} {s s' s'' : Rmw} {st st' : Station} {op : StationOp}
variable {session handle slot : Nat} {pool : Pool} {result : SendResult}
variable {heard heard' : List (Nat × Delivery)} {deliveries : List Delivery}

/-- The operation neither creates nor destroys anything. -/
def StationOp.Converses : StationOp → Prop
  | .layer (.receive _ _) | .layer (.take _ _ _) | .layer (.wait _) => True
  | .layer _ => False
  | .setContinous _ _ | .publish _ | .sendRequest _ | .sendResponse _ _ => True

/-- The messages that arrive at the session of a sender. -/
def Rmw.hearing (s : Rmw) (pool : Pool) (handle : Option Nat) (deliveries : List Delivery) :
    List (Nat × Delivery) :=
  (s.writer pool handle).elim [] fun writer => deliveries.map (writer.2, ·)

/-- The messages that may arrive during such an operation, each at its session. -/
def StationOp.arrivals (s : Rmw) : StationOp → List (Nat × Delivery)
  | .layer (.receive session delivery) => [(session, delivery)]
  | .layer (.wait call) => arrivalsOf call.arrivals (s.allocated .session)
  | .publish call => s.hearing .publisher call.publisher (call.flushed ++ call.deliveries)
  | .sendRequest call => s.hearing .client (some call.handle) call.deliveries
  | .sendResponse _ call => s.hearing .service (some call.handle) call.deliveries
  | .layer _ | .setContinous _ _ => []

/-- What is pending was pending before, or it arrived for its owner. -/
def Hears (cfg : Config) (heard : List (Nat × Delivery)) (s s' : Rmw) : Prop :=
  ∀ entry ∈ s'.mail, entry ∈ s.mail ∨ ∃ arrival ∈ heard,
    s.registry.IsFor cfg arrival.1 arrival.2 entry.1 ∧ entry.2 = arrival.2.message

namespace Hears

/-- Messages that were there before were not heard now. -/
theorem of_subset (old : s'.mail ⊆ s.mail) : Hears cfg heard s s' :=
  fun _ inside => Or.inl (old inside)

/-- What is heard first and what is heard later is heard in all. -/
theorem trans (first : Hears cfg heard s s') (second : Hears cfg heard' s' s'')
    (registry : s'.registry = s.registry) : Hears cfg (heard ++ heard') s s'' := by
  intro entry inside
  rcases second entry inside with before | ⟨arrival, arrived, isFor, isMessage⟩
  · rcases first entry before with old | ⟨arrival, arrived, isFor, isMessage⟩
    · exact Or.inl old
    · exact Or.inr ⟨arrival, List.mem_append_left _ arrived, isFor, isMessage⟩
  · exact Or.inr ⟨arrival, List.mem_append_right _ arrived, registry ▸ isFor, isMessage⟩

/-- What is heard of some deliveries is heard of more. -/
theorem mono (hears : Hears cfg heard s s') (subset : heard ⊆ heard') :
    Hears cfg heard' s s' := by
  intro entry inside
  rcases hears entry inside with old | ⟨arrival, arrived, rest⟩
  · exact Or.inl old
  · exact Or.inr ⟨arrival, subset arrived, rest⟩

end Hears

/-- One message is for the one it is stored for. -/
theorem deliver_hears {delivery : Delivery} (healthy : s.Healthy cfg admits)
    (acceptable : Acceptable cfg admits s.registry session delivery) :
    Yields (deliver cfg session delivery s) fun s' =>
      s'.Healthy cfg admits ∧ Undisturbed s s' ∧ Hears cfg [(session, delivery)] s s' := by
  refine (deliver_spec healthy acceptable).mono fun s' spec => ?_
  obtain ⟨healthy', undisturbed, received⟩ := spec
  refine ⟨healthy', undisturbed, fun entry inside => ?_⟩
  rw [received.mail healthy] at inside
  rcases List.mem_append.mp inside with isNew | isOld
  · obtain ⟨owner, isRecipient, rfl⟩ := Option.map_eq_some_iff.mp (Option.mem_toList.mp isNew)
    refine Or.inr ⟨_, List.mem_singleton_self _, ?_, rfl⟩
    rw [Rmw.recipient] at isRecipient
    split at isRecipient
    · exact isFor_of_addressee isRecipient
    · cases isRecipient
  · exact Or.inl isOld

/-- Messages that arrive one after the other. -/
theorem receiveAll_hears (healthy : s.Healthy cfg admits)
    (acceptable : ∀ arrival ∈ heard, Acceptable cfg admits s.registry arrival.1 arrival.2) :
    Yields (receiveAll cfg heard s) fun s' =>
      s'.Healthy cfg admits ∧ Undisturbed s s' ∧ Hears cfg heard s s' := by
  induction heard generalizing s with
  | nil => exact yields_ok.mpr ⟨healthy, .refl s, .of_subset (List.Subset.refl _)⟩
  | cons arrival rest ih =>
      obtain ⟨session, delivery⟩ := arrival
      refine (deliver_hears healthy (acceptable _ List.mem_cons_self)).bind ?_
      rintro middle ⟨healthy', undisturbed, hears⟩
      refine (ih healthy' fun arrival inside => ?_).mono ?_
      · rw [undisturbed.registry]
        exact acceptable arrival (List.mem_cons_of_mem _ inside)
      · rintro last ⟨healthy'', undisturbed', hears'⟩
        exact ⟨healthy'', undisturbed.trans undisturbed', hears.trans hears' undisturbed.registry⟩

/-- Everything that is stored during an exchange was delivered in it. -/
theorem deliverAll_hears (healthy : s.Healthy cfg admits)
    (acceptable : ∀ delivery ∈ deliveries, Acceptable cfg admits s.registry session delivery) :
    Yields (deliverAll cfg session deliveries s) fun s' =>
      s'.Healthy cfg admits ∧ Undisturbed s s' ∧
        Hears cfg (deliveries.map (session, ·)) s s' := by
  rw [deliverAll_eq_receiveAll]
  refine receiveAll_hears healthy fun arrival inside => ?_
  obtain ⟨delivery, within, rfl⟩ := List.mem_map.mp inside
  exact acceptable delivery within

/-- Preparing a stream stores nothing. -/
theorem prepare_mail (s : Rmw) (session : Nat) (room : Bool) :
    (s.uxrPrepareOutputStream session room).2.mail = s.mail := by
  cases room <;> rfl

/-- The end of a sender. -/
theorem sendPrepared_hears {prepared : Option Nat × Rmw} {streamId : StreamId}
    {refused : SendResult} {sent : Nat → SendResult} (healthy : prepared.2.Healthy cfg admits)
    (hears : Hears cfg heard s prepared.2) (registry : prepared.2.registry = s.registry)
    (acceptable : ∀ delivery ∈ deliveries, Acceptable cfg admits s.registry session delivery) :
    Yields (sendPrepared cfg session streamId deliveries refused sent prepared) fun outcome =>
      Hears cfg (heard ++ deliveries.map (session, ·)) s outcome.2 := by
  obtain ⟨id, next⟩ := prepared
  cases id with
  | none => exact yields_ok.mpr (hears.mono (List.subset_append_left _ _))
  | some id =>
      have arrives : Yields (confirmDelivery cfg session streamId deliveries next) fun last =>
          Hears cfg (deliveries.map (session, ·)) next last := by
        unfold confirmDelivery
        split
        · exact yields_ok.mpr (.of_subset (List.Subset.refl _))
        · refine (deliverAll_hears healthy fun delivery inside =>
            registry ▸ acceptable delivery inside).mono ?_
          rintro last ⟨-, -, hears'⟩
          exact hears'
      exact arrives.bind fun last hears' => yields_ok.mpr (hears.trans hears' registry)

/-- A number that is drawn leaves the mail as it is. -/
theorem prepare_hears (s : Rmw) (session : Nat) (room : Bool) :
    Hears cfg [] s (s.uxrPrepareOutputStream session room).2 :=
  .of_subset (by rw [prepare_mail]; exact List.Subset.refl _)

section

variable (healthy : s.Healthy cfg admits) (sound : s.registry.Sound)
  (home : ∀ node, (s.entity pool slot).ownerNode = some node →
    (s.customNodes node).context = some session)

include healthy sound home

/-- `rmw_send_request`. -/
theorem rmwSendRequest_hears {call : SendCall} (isPool : pool = .client)
    (bound : s.registry.Bound pool call.handle slot)
    (acceptable : ∀ delivery ∈ call.deliveries,
      Acceptable cfg admits s.registry session delivery) :
    Yields (rmwSendRequest cfg call s) fun outcome =>
      Hears cfg (call.deliveries.map (session, ·)) s outcome.2 := by
  obtain ⟨streamId, refused, sent, -, runs⟩ := @rmwSendRequest_prepared cfg _ _ _ _ _
    healthy sound home call isPool bound
  rw [runs]
  exact sendPrepared_hears (prepare_healthy healthy call.room) (prepare_hears s session call.room)
    (prepare_draws s session call.room).registry acceptable

/-- `rmw_send_response`. -/
theorem rmwSendResponse_hears {header : RmwRequestId} {call : SendCall} (isPool : pool = .service)
    (bound : s.registry.Bound pool call.handle slot)
    (acceptable : ∀ delivery ∈ call.deliveries,
      Acceptable cfg admits s.registry session delivery) :
    Yields (rmwSendResponse cfg header call s) fun outcome =>
      Hears cfg (call.deliveries.map (session, ·)) s outcome.2 := by
  obtain ⟨streamId, refused, sent, -, runs⟩ := @rmwSendResponse_prepared cfg _ _ _ _ _
    healthy sound home header call isPool bound
  rw [runs]
  exact sendPrepared_hears (prepare_healthy healthy call.room) (prepare_hears s session call.room)
    (prepare_draws s session call.room).registry acceptable

omit sound home in
/-- What arrives while the stream of a publisher is flushed. -/
theorem prepareSample_hears {call : PublishCall}
    (acceptable : ∀ delivery ∈ call.flushed, Acceptable cfg admits s.registry session delivery) :
    Yields (prepareSample cfg session call s) fun outcome =>
      Hears cfg (call.flushed.map (session, ·)) s outcome.2 := by
  have first : Hears cfg [] s (s.uxrPrepareOutputStream session call.room).2 :=
    prepare_hears s session call.room
  have draws := prepare_draws s session call.room
  have prepared : (s.uxrPrepareOutputStream session call.room).2.Healthy cfg admits :=
    prepare_healthy healthy call.room
  unfold prepareSample
  generalize s.uxrPrepareOutputStream session call.room = outcome at first draws prepared
  obtain ⟨id, next⟩ := outcome
  cases id with
  | some id => exact yields_ok.mpr (first.mono (List.nil_subset _))
  | none =>
      have registry : next.registry = s.registry := draws.registry
      refine (deliverAll_hears prepared fun delivery inside =>
        registry ▸ acceptable delivery inside).bind ?_
      rintro flushed ⟨-, undisturbed, hears⟩
      have last := (hears.trans (prepare_hears flushed session call.fragmentedRoom)
        undisturbed.registry)
      rw [List.append_nil] at last
      exact yields_ok.mpr (first.trans last registry)

/-- `rmw_publish`. -/
theorem rmwPublish_hears {continous : Nat → ContinousSerialization} {call : PublishCall}
    (isPool : pool = .publisher) (isPublisher : call.publisher = some handle)
    (bound : s.registry.Bound pool handle slot)
    (acceptable : ∀ delivery ∈ call.flushed ++ call.deliveries,
      Acceptable cfg admits s.registry session delivery) :
    Yields (rmwPublish cfg continous call s) fun outcome =>
      Hears cfg ((call.flushed ++ call.deliveries).map (session, ·)) s outcome.2 := by
  cases isMessage : call.rosMessage with
  | none =>
      rw [rmwPublish, isPublisher, isMessage]
      exact yields_ok.mpr (.of_subset (List.Subset.refl _))
  | some message =>
      obtain ⟨streamId, refused, sent, -, runs⟩ := @rmwPublish_prepared cfg _ _ _ _ _ _
        healthy sound home continous _ _ isPool isPublisher isMessage bound
      have flushable : ∀ delivery ∈ call.flushed,
          Acceptable cfg admits s.registry session delivery := fun delivery inside =>
        acceptable delivery (List.mem_append_left _ inside)
      obtain ⟨prepared, prepares, preparedHealthy, draws, -⟩ :=
        prepareSample_spec healthy flushable
      have hears := (prepareSample_hears healthy flushable).of_eq_ok prepares
      rw [runs, prepares, List.map_append]
      exact sendPrepared_hears preparedHealthy hears draws.registry fun delivery inside =>
        acceptable delivery (List.mem_append_right _ inside)

end

/-- What a dialogue keeps: all entities, the record, and who is pending for whom. -/
structure Continues (cfg : Config) (heard : List (Nat × Delivery)) (st st' : Station) : Prop where
  registry : st'.world.rmw.registry = st.world.rmw.registry
  record : ∀ session, ∃ new, st'.sent session = new ++ st.sent session
  hears : Hears cfg heard st.world.rmw st'.world.rmw

/-- A sender continues the dialogue. -/
theorem Sends.continues {result : SendResult × Rmw} {other : Pool} {handle : Option Nat}
    (sends : Sends cfg admits st.world.rmw pool session slot result)
    (hears : Hears cfg heard st.world.rmw result.2) :
    Continues cfg heard st (st.sending other handle result) where
  registry := sends.draws.registry
  record := fun home => by
    unfold Station.sending
    cases isWriter : st.world.rmw.writer other handle with
    | none => exact ⟨[], by cases handle <;> rfl⟩
    | some writer =>
        obtain ⟨handle, rfl⟩ : ∃ number, handle = some number :=
          Option.ne_none_iff_exists'.mp fun null => by simp [Rmw.writer, null] at isWriter
        cases isWritten : result.1.written with
        | none => exact ⟨[], rfl⟩
        | some write =>
            by_cases same : home = writer.2
            · subst same
              exact ⟨[_], Function.update_self _ _ _⟩
            · exact ⟨[], Function.update_of_ne same _ _⟩
  hears := hears

/-- An operation of the layer that leaves all entities alone continues the dialogue. -/
theorem Continues.passing (undisturbed : Undisturbed st.world.rmw s')
    (hears : Hears cfg heard st.world.rmw s') :
    Continues cfg heard st (st.passing { st.world with rmw := s' }) where
  registry := undisturbed.registry
  record := fun session => ⟨[], by simp [Station.passing]⟩
  hears := hears

/-- Every operation that creates and destroys nothing continues the dialogue. -/
theorem execStation_continues (healthy : st.world.rmw.Healthy cfg admits)
    (sound : st.world.rmw.registry.Sound) (asked : op.Asked st)
    (acceptable : op.Acceptable cfg admits st.world.rmw) (converses : op.Converses)
    (returned : execStation cfg op st = .ok st') :
    Continues cfg (op.arrivals st.world.rmw) st st' := by
  cases op with
  | layer layerOp =>
      obtain ⟨w', executed, isNext⟩ := bind_eq_ok.mp returned
      cases isNext
      cases layerOp with
      | receive session delivery =>
          obtain ⟨s', delivers, isReturned⟩ := bind_eq_ok.mp executed
          cases isReturned
          obtain ⟨-, undisturbed, hears⟩ := (deliver_hears healthy acceptable).of_eq_ok delivers
          exact .passing undisturbed hears
      | take pool deserialize handle =>
          obtain ⟨slot, bound⟩ := asked.2.bound sound
          obtain ⟨⟨result, s'⟩, takes, isReturned⟩ := bind_eq_ok.mp executed
          cases isReturned
          obtain ⟨-, undisturbed, taken⟩ :=
            (takeFrom_spec healthy sound asked.1 bound).of_eq_ok takes
          refine .passing undisturbed (.of_subset fun entry inside => ?_)
          rcases taken.mail with ⟨-, -, same, -⟩ | ⟨message, -, -, -, split⟩
          · exact same ▸ inside
          · have within : entry ∈ (st.world.rmw.mail : Multiset (EntityPtr × Message)) := by
              rw [split]
              exact Multiset.mem_cons_of_mem (Multiset.mem_coe.mpr inside)
            exact Multiset.mem_coe.mp within
      | wait call =>
          obtain ⟨⟨result, s'⟩, waits, isReturned⟩ := bind_eq_ok.mp executed
          cases isReturned
          obtain ⟨-, -, received⟩ := (rmwWait_spec healthy acceptable).of_eq_ok waits
          obtain ⟨-, undisturbed, hears⟩ :=
            (receiveAll_hears healthy acceptable).of_eq_ok received
          exact .passing undisturbed hears
      | _ => exact converses.elim
  | setContinous publisher callbacks =>
      obtain ⟨continous, -, isNext⟩ := bind_eq_ok.mp returned
      cases isNext
      exact ⟨rfl, fun _ => ⟨[], rfl⟩, .of_subset (List.Subset.refl _)⟩
  | publish call =>
      cases isPublisher : call.publisher with
      | none =>
          simp only [execStation, rmwPublish, isPublisher, ok_bind] at returned
          cases returned
          refine ⟨rfl, fun _ => ⟨[], ?_⟩, .of_subset (List.Subset.refl _)⟩
          simp [Station.sending]
      | some publisher =>
          obtain ⟨slot, session, bound, sited, writer, home⟩ :=
            writer_of_live sound rfl (asked publisher isPublisher)
          have accepted := acceptable slot session (isPublisher ▸ writer)
          obtain ⟨result, publishes, isNext⟩ := bind_eq_ok.mp returned
          cases isNext
          have hears := (rmwPublish_hears healthy sound home rfl isPublisher bound
            accepted).of_eq_ok publishes
          rw [StationOp.arrivals, Rmw.hearing, isPublisher, writer]
          exact ((rmwPublish_spec healthy sound home rfl isPublisher bound accepted).of_eq_ok
            publishes).continues hears
  | sendRequest call =>
      obtain ⟨slot, session, bound, sited, writer, home⟩ := writer_of_live sound rfl asked
      have accepted := acceptable slot session writer
      obtain ⟨result, sent, isNext⟩ := bind_eq_ok.mp returned
      cases isNext
      have hears := (rmwSendRequest_hears healthy sound home rfl bound accepted).of_eq_ok sent
      rw [StationOp.arrivals, Rmw.hearing, writer]
      exact ((rmwSendRequest_spec healthy sound home rfl bound accepted).of_eq_ok
        sent).continues hears
  | sendResponse header call =>
      obtain ⟨slot, session, bound, sited, writer, home⟩ := writer_of_live sound rfl asked
      have accepted := acceptable slot session writer
      obtain ⟨result, sent, isNext⟩ := bind_eq_ok.mp returned
      cases isNext
      have hears := (rmwSendResponse_hears healthy sound home rfl bound accepted).of_eq_ok sent
      rw [StationOp.arrivals, Rmw.hearing, writer]
      exact ((rmwSendResponse_sends healthy sound home rfl bound accepted).of_eq_ok
        sent).continues hears

end RmwMicroxrcedds
