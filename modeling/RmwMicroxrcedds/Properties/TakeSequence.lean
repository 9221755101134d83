import RmwMicroxrcedds.Machine.Run

/-! # Takes in a sequence

`rmw_take_sequence` makes the takes that successive calls of `rmw_take` make, up to the first
one that fails, and stores what they deliver. Its return code is the one of the last take it
made, which fails as soon as fewer messages are pending than asked for.
-/

namespace RmwMicroxrcedds

open Outcome

variable {cfg : Config} {admits : Admission} {s s' : Rmw} {owner : EntityPtr}
variable {handle slot : Nat} {deserialize : List UInt8 → Bool}

/-- What successive calls of `rmw_take` return, up to the first one that fails. -/
def takeRepeatedly (deserialize : List UInt8 → Bool) (subscription : Nat) :
    Nat → Rmw → Exec (List TakeResult × Rmw)
  | 0, s => .ok ([], s)
  | count + 1, s => do
      let (result, s) ← rmwTake deserialize subscription s
      if result.ret = .ok then
        let (results, s) ← takeRepeatedly deserialize subscription count s
        .ok (result :: results, s)
      else .ok ([result], s)

/-- The results of the takes that did not fail. -/
def delivered (results : List TakeResult) : List TakeResult :=
  results.filter fun result => result.ret = .ok

/-- The return code of the last take, if there was one. -/
def lastRet (results : List TakeResult) (ret : RmwRet) : RmwRet :=
  (results.getLast?.map TakeResult.ret).getD ret

/-- The code of the last take counts. -/
theorem lastRet_cons {result : TakeResult} {results : List TakeResult} {ret : RmwRet} :
    lastRet (result :: results) ret = lastRet results result.ret := by
  unfold lastRet
  cases results with
  | nil => rfl
  | cons next rest =>
      rw [List.getLast?_cons_cons, List.getLast?_eq_some_getLast (List.cons_ne_nil next rest)]
      rfl

/-- A take sets its flag if and only if it succeeds. -/
theorem rmwTakeWithInfo_taken {result : TakeResult}
    (returned : rmwTakeWithInfo deserialize handle s = .ok (result, s')) :
    result.ret = .ok ↔ result.taken = true := by
  obtain ⟨contents, -, returned⟩ := bind_eq_ok.mp returned
  split at returned
  · obtain ⟨found, -, returned⟩ := bind_eq_ok.mp returned
    cases found with
    | none =>
        cases returned
        simp
    | some pending =>
        obtain ⟨customSubscription, -, returned⟩ := bind_eq_ok.mp returned
        split at returned
        · cases returned
        · cases returned
          simp
  · cases returned
    simp

/-- The loop of `rmw_take_sequence` makes the takes of successive calls, from every state. -/
theorem takeSequence_eq_takeRepeatedly (count taken : Nat) (ret : RmwRet) (s : Rmw) :
    takeSequence deserialize handle count taken ret s =
      (takeRepeatedly deserialize handle count s >>= fun takes =>
        .ok (((delivered takes.1).zipIdx taken, taken + (delivered takes.1).length,
          lastRet takes.1 ret), takes.2)) := by
  induction count generalizing taken ret s with
  | zero => rfl
  | succ count ih =>
      simp only [takeSequence, takeRepeatedly, rmwTake]
      cases returned : rmwTakeWithInfo deserialize handle s with
      | error fault => rfl
      | ok first =>
          obtain ⟨result, middle⟩ := first
          have flagged := rmwTakeWithInfo_taken returned
          simp only [ok_bind]
          by_cases succeeds : result.ret = .ok
          · have goesOn : ¬ (result.ret ≠ .ok ∨ ¬ result.taken = true) := by
              simp [succeeds, flagged.mp succeeds]
            rw [if_neg goesOn, if_pos succeeds, ih]
            cases takeRepeatedly deserialize handle count middle with
            | error fault => rfl
            | ok rest =>
                simp only [ok_bind, delivered, succeeds, decide_true, List.filter_cons_of_pos,
                  List.zipIdx_cons, List.length_cons, lastRet_cons]
                rw [Nat.add_assoc, Nat.add_comm 1]
          · rw [if_pos (Or.inl succeeds), if_neg succeeds]
            simp [ok_bind, delivered, succeeds, lastRet]

/-- The messages pending for an owner, each as the bytes a take hands to the deserialiser. -/
def Rmw.payloads (s : Rmw) (owner : EntityPtr) : List (List UInt8) :=
  (s.pending owner).map fun item => (s.customStaticBuffers item).payload

/-- The first messages of an owner are no longer pending, and nothing else is different. -/
structure Consumed (owner : EntityPtr) (count : Nat) (s s' : Rmw) : Prop where
  own : s'.pending owner = (s.pending owner).drop count
  others : ∀ other, other ≠ owner → s'.pending other = s.pending other
  buffers : s'.customStaticBuffers = s.customStaticBuffers
  undisturbed : Undisturbed s s'

theorem Consumed.refl (owner : EntityPtr) (s : Rmw) : Consumed owner 0 s s :=
  ⟨rfl, fun _ _ => rfl, rfl, .refl s⟩

/-- Messages that are consumed in two parts add up. -/
theorem Consumed.trans {s'' : Rmw} {first second : Nat} (before : Consumed owner first s s')
    (after : Consumed owner second s' s'') : Consumed owner (first + second) s s'' where
  own := by rw [after.own, before.own, List.drop_drop]
  others := fun other apart => (after.others other apart).trans (before.others other apart)
  buffers := after.buffers.trans before.buffers
  undisturbed := before.undisturbed.trans after.undisturbed

/-- What is left are the payloads behind those consumed. -/
theorem Consumed.payloads {count : Nat} (consumed : Consumed owner count s s') :
    s'.payloads owner = (s.payloads owner).drop count := by
  simp only [Rmw.payloads, consumed.own, consumed.buffers, List.map_drop]

/-- A take consumes the message it hands to the deserialiser. -/
theorem Consumed.one {item : Nat} {rest : List Nat}
    (undisturbed : Undisturbed s s') (first : s.pending owner = item :: rest)
    (allocated : s'.allocated .staticBuffer = (s.allocated .staticBuffer).erase item)
    (buffers : s'.customStaticBuffers = s.customStaticBuffers) : Consumed owner 1 s s' := by
  have erased : ∀ other, s'.pending other = (s.pending other).erase item := by
    intro other
    simp only [Rmw.pending, allocated, buffers, List.erase_filter]
  refine ⟨?_, fun other apart => ?_, buffers, undisturbed⟩
  · rw [erased, first, List.erase_cons_head, List.drop_one, List.tail_cons]
  · rw [erased]
    apply List.erase_of_not_mem
    intro inside
    have isOther := (Rmw.mem_pending.mp inside).2
    have isOwner := (Rmw.mem_pending.mp (first ▸ List.mem_cons_self)).2
    exact apart (Option.some.inj (isOther.symm.trans isOwner))

/-- Successive takes deliver the messages before the first one that cannot be deserialised, and
the last of them succeeds if and only if all do. -/
theorem takeRepeatedly_spec (healthy : s.Healthy cfg admits) (sound : s.registry.Sound)
    (bound : s.registry.Bound .subscription handle slot) (count : Nat) :
    Yields (takeRepeatedly deserialize handle count s) fun takes =>
      (delivered takes.1).map TakeResult.payload =
        (((s.payloads ⟨.subscription, slot⟩).takeWhile deserialize).take count).map some ∧
      Consumed ⟨.subscription, slot⟩ takes.1.length s takes.2 ∧
      (lastRet takes.1 .ok = .ok ↔ (delivered takes.1).length = count) := by
  induction count generalizing s with
  | zero => exact yields_ok.mpr ⟨by simp [delivered], .refl _ s, by simp [lastRet, delivered]⟩
  | succ count ih =>
      have spec : Yields (rmwTakeWithInfo deserialize handle s) _ :=
        rmwTakeWithInfo_spec healthy sound bound
      obtain ⟨⟨result, middle⟩, returned, healthyMiddle, undisturbed, taken⟩ := spec
      have flagged := rmwTakeWithInfo_taken returned
      simp only [takeRepeatedly, rmwTake, returned, ok_bind]
      cases taken with
      | nothing empty same untaken payload =>
          have empty' : s.pending ⟨.subscription, slot⟩ = [] := empty
          have same' : middle = s := same
          have fails : result.ret ≠ .ok := by simpa [flagged] using untaken
          have consumed : Consumed ⟨.subscription, slot⟩ 1 s s :=
            ⟨by rw [empty', List.drop_nil], fun _ _ => rfl, rfl, .refl s⟩
          rw [if_neg fails, same']
          refine yields_ok.mpr ⟨?_, consumed, ?_⟩
          · simp [delivered, fails, Rmw.payloads, empty']
          · simp [lastRet, delivered, fails]
      | message item rest first allocated buffers payload isTaken reports =>
          have first' : s.pending ⟨.subscription, slot⟩ = item :: rest := first
          have payloads : s.payloads ⟨.subscription, slot⟩ =
              (s.customStaticBuffers item).payload ::
                rest.map fun item => (s.customStaticBuffers item).payload := by
            rw [Rmw.payloads, first', List.map_cons]
          have consumed := Consumed.one undisturbed first' allocated buffers
          have taken' : result.taken = deserialize (s.customStaticBuffers item).payload := isTaken
          have payload' : result.payload = some (s.customStaticBuffers item).payload := payload
          by_cases succeeds : result.ret = .ok
          · have deserializes : deserialize (s.customStaticBuffers item).payload = true := by
              rw [← taken']
              exact flagged.mp succeeds
            rw [if_pos succeeds]
            have sound' : middle.registry.Sound := by
              rw [undisturbed.registry]
              exact sound
            have bound' : middle.registry.Bound .subscription handle slot := by
              rw [undisturbed.registry]
              exact bound
            refine (ih healthyMiddle sound' bound').bind fun takes others => ?_
            obtain ⟨payloadsRest, consumedRest, last⟩ := others
            rw [consumed.payloads, payloads, List.drop_one, List.tail_cons] at payloadsRest
            refine yields_ok.mpr ⟨?_, ?_, ?_⟩
            · rw [payloads, List.takeWhile_cons_of_pos deserializes, List.take_succ_cons,
                List.map_cons, ← payloadsRest, ← payload']
              simp [delivered, succeeds]
            · rw [List.length_cons, Nat.add_comm]
              exact consumed.trans consumedRest
            · rw [lastRet_cons, succeeds, last]
              simp [delivered, succeeds]
          · have fails : ¬ deserialize (s.customStaticBuffers item).payload = true := by
              rw [← taken']
              exact fun taken => succeeds (flagged.mpr taken)
            rw [if_neg succeeds]
            refine yields_ok.mpr ⟨?_, consumed, ?_⟩
            · rw [payloads, List.takeWhile_cons_of_neg fails]
              simp [delivered, succeeds]
            · simp [lastRet, delivered, succeeds]

/-- `rmw_take_sequence` on a live subscription delivers what successive calls of `rmw_take`
deliver, and stores it in order; a caller who was handed a message is told that all is well if
and only if as many messages as asked for are pending and can be deserialised, or the first one
is missing or cannot be. -/
theorem take_sequence_ok_iff (healthy : s.Healthy cfg admits) (sound : s.registry.Sound)
    (bound : s.registry.Bound .subscription handle slot)
    (count messageSequenceSize messageInfoSequenceSize : Nat) :
    ∃ takes sequence s', takeRepeatedly deserialize handle count s = .ok (takes, s') ∧
      rmwTakeSequence deserialize handle count messageSequenceSize messageInfoSequenceSize s =
        .ok (sequence, s') ∧
      sequence.stored = (delivered takes).zipIdx ∧
      (delivered takes).map TakeResult.payload =
        (((s.payloads ⟨.subscription, slot⟩).takeWhile deserialize).take count).map some ∧
      sequence.taken = (delivered takes).length ∧
      sequence.messageSequenceSize = sequence.taken ∧
      sequence.messageInfoSequenceSize = sequence.taken ∧
      Consumed ⟨.subscription, slot⟩ takes.length s s' ∧
      ((0 < sequence.taken → sequence.ret = .ok) ↔
        count ≤ ((s.payloads ⟨.subscription, slot⟩).takeWhile deserialize).length ∨
          (s.payloads ⟨.subscription, slot⟩).takeWhile deserialize = []) := by
  have spec : Yields (takeRepeatedly deserialize handle count s) _ :=
    takeRepeatedly_spec healthy sound bound count
  obtain ⟨⟨takes, s'⟩, repeated, payloads, consumed, last⟩ := spec
  obtain ⟨contents, -, -, isRead, named⟩ := healthy.block_of_data bound
  have number := congrArg List.length payloads
  simp only [List.length_map, List.length_take] at number last
  refine ⟨takes, ⟨(delivered takes).zipIdx, (delivered takes).length, (delivered takes).length,
    (delivered takes).length, lastRet takes .ok⟩, s', repeated, ?_, rfl, payloads, rfl, rfl, rfl,
    consumed, ?_⟩
  · simp only [rmwTakeSequence, isRead, ok_bind, named, ↓reduceIte,
      takeSequence_eq_takeRepeatedly, repeated, Nat.zero_add]
  · change (0 < (delivered takes).length → lastRet takes .ok = .ok) ↔ _
    rw [last, number, ← List.length_eq_zero_iff]
    omega

/-- The small subscription with a sample pending, of which two are asked for. -/
theorem take_sequence_ok_iff_small :
    ∃ takes sequence s', takeRepeatedly (fun _ => true) 0 2 Small.withSample.rmw =
        .ok (takes, s') ∧
      rmwTakeSequence (fun _ => true) 0 2 7 7 Small.withSample.rmw = .ok (sequence, s') ∧
      sequence.stored = (delivered takes).zipIdx ∧
      (delivered takes).map TakeResult.payload =
        (((Small.withSample.rmw.payloads ⟨.subscription, 0⟩).takeWhile fun _ => true).take 2).map
          some ∧
      sequence.taken = (delivered takes).length ∧
      sequence.messageSequenceSize = sequence.taken ∧
      sequence.messageInfoSequenceSize = sequence.taken ∧
      Consumed ⟨.subscription, 0⟩ takes.length Small.withSample.rmw s' ∧
      ((0 < sequence.taken → sequence.ret = .ok) ↔
        2 ≤ ((Small.withSample.rmw.payloads ⟨.subscription, 0⟩).takeWhile fun _ => true).length ∨
          (Small.withSample.rmw.payloads ⟨.subscription, 0⟩).takeWhile (fun _ => true) = []) := by
  obtain ⟨healthy, sound⟩ := reachable_sound Small.withSample_safe fun _ _ => id
  exact take_sequence_ok_iff healthy sound (by decide) 2 7 7

/-- With one message pending and two asked for, the message is stored and the call fails. -/
theorem partial_sequence_fails :
    Reachable (layer Small.config) (Safe Small.config) Small.withSample ∧
    Small.withSample.rmw.payloads ⟨.subscription, 0⟩ = [[1, 2]] ∧
    ∃ sequence s', rmwTakeSequence (fun _ => true) 0 2 7 7 Small.withSample.rmw =
        .ok (sequence, s') ∧
      sequence.stored.map (fun entry => (entry.1.payload, entry.2)) = [(some [1, 2], 0)] ∧
      sequence.taken = 1 ∧ s'.pending ⟨.subscription, 0⟩ = [] ∧
      ¬ (0 < sequence.taken → sequence.ret = .ok) := by
  exact ⟨Small.withSample_safe, by decide, _, _, rfl, rfl, rfl, rfl, by decide⟩

end RmwMicroxrcedds
