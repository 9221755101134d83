import Mathlib.Data.List.Nodup
import Mathlib.Logic.Function.Basic

/-! # Latches

Flags that stay set until they are polled. A poll answers for each key it lists whether its
flag is set, and clears it. A flag does not tell how often it was set; beside it runs a ledger
of tokens, one for each time a flag is set, from which a poll takes those of the keys it lists.
The answers are those of the ledger, and a token is taken once.
-/

namespace Latch

variable {Key : Type*}

/-- A flag is set, or some are polled. -/
inductive Event (Key : Type*) where
  | set (key : Key)
  | poll (keys : List Key)

/-- The event is a poll that lists the key. -/
def Event.Polls (event : Event Key) (key : Key) : Prop :=
  match event with
  | .set _ => False
  | .poll keys => key ∈ keys

/-- What an event answers: the keys listed that are set. -/
def Event.answer : Event Key → (Key → Bool) → List (Option Key)
  | .set _, _ => []
  | .poll keys, flags => keys.map fun key => if flags key then some key else none

/-- The tokens of each key that were not taken yet. The token of an event is the time of the
event; a flag that was set before has none. -/
abbrev Ledger (Key : Type*) := Key → List (Option Nat)

/-- The ledger where the flags set are those of tokens before all events. -/
def Ledger.start (flags : Key → Bool) : Ledger Key := fun key => if flags key then [none] else []

/-- The tokens a poll takes, for each key it lists. -/
def Event.takes : Event Key → Ledger Key → List (Key × List (Option Nat))
  | .set _, _ => []
  | .poll keys, ledger => keys.map fun key => (key, ledger key)

/-- All the tokens taken. -/
def tokens (takes : List (List (Key × List (Option Nat)))) : List (Option Nat) :=
  takes.flatten.flatMap Prod.snd

variable {flags : Key → Bool} {ledger : Ledger Key} {time : Nat} {token : Option Nat} {key : Key}
variable {event : Event Key} {events rest : List (Event Key)}

/-- The flags set are those of the keys that have a token. -/
def Agrees (flags : Key → Bool) (ledger : Ledger Key) : Prop :=
  ∀ key, flags key = true ↔ ledger key ≠ []

/-- The ledger starts with the flags. -/
theorem agrees_start : Agrees flags (Ledger.start flags) := by
  intro key
  unfold Ledger.start
  cases flags key <;> simp

/-- The token is not in the ledger. -/
def Ledger.Lacks (ledger : Ledger Key) (token : Option Nat) : Prop :=
  ∀ key, token ∉ ledger key

/-- A token that the ledger lacks is taken by no event. -/
theorem Ledger.Lacks.takes (lacks : ledger.Lacks token) (event : Event Key) :
    (event.takes ledger |>.flatMap Prod.snd).count token = 0 := by
  rw [List.count_eq_zero, List.mem_flatMap]
  intro found
  obtain ⟨take, inside, holds⟩ := found
  cases event with
  | set key => cases inside
  | poll keys =>
      obtain ⟨key, -, rfl⟩ := List.mem_map.mp inside
      exact lacks key holds

/-- The tokens of the first event come before those of the rest. -/
theorem tokens_cons {takes : List (Key × List (Option Nat))}
    {others : List (List (Key × List (Option Nat)))} :
    tokens (takes :: others) = takes.flatMap Prod.snd ++ tokens others := by
  simp [tokens]

/-- The one key that has the token has it once. -/
structure Ledger.Owes (ledger : Ledger Key) (token : Option Nat) (key : Key) : Prop where
  once : (ledger key).count token = 1
  only : ∀ other, other ≠ key → token ∉ ledger other

variable [DecidableEq Key]

/-- The flags after an event. -/
def Event.next : Event Key → (Key → Bool) → Key → Bool
  | .set key, flags => Function.update flags key true
  | .poll keys, flags => fun key => if key ∈ keys then false else flags key

/-- The answers to events, one after the other. -/
def answers (flags : Key → Bool) : List (Event Key) → List (List (Option Key))
  | [] => []
  | event :: events => event.answer flags :: answers (event.next flags) events

/-- The ledger after an event. -/
def Event.enter (time : Nat) : Event Key → Ledger Key → Ledger Key
  | .set key, ledger => Function.update ledger key (some time :: ledger key)
  | .poll keys, ledger => fun key => if key ∈ keys then [] else ledger key

/-- The tokens that events take, one after the other. -/
def taken (ledger : Ledger Key) (time : Nat) :
    List (Event Key) → List (List (Key × List (Option Nat)))
  | [] => []
  | event :: events => event.takes ledger :: taken (event.enter time ledger) (time + 1) events

/-- Each event keeps the ledger in step with the flags. -/
theorem Agrees.next (agrees : Agrees flags ledger) (event : Event Key) (time : Nat) :
    Agrees (event.next flags) (event.enter time ledger) := by
  intro other
  cases event with
  | set key =>
      by_cases same : other = key
      · subst same
        simp [Event.next, Event.enter]
      · simpa [Event.next, Event.enter, Function.update_of_ne same] using agrees other
  | poll keys =>
      by_cases listed : other ∈ keys
      · simp [Event.next, Event.enter, listed]
      · simpa [Event.next, Event.enter, listed] using agrees other

/-- A key stays in an answer if and only if the poll takes a token of it. -/
theorem answers_eq (agrees : Agrees flags ledger) (time : Nat) (events : List (Event Key)) :
    answers flags events = (taken ledger time events).map fun takes =>
      takes.map fun take => if take.2 = [] then none else some take.1 := by
  induction events generalizing flags ledger time with
  | nil => rfl
  | cons event events ih =>
      rw [answers, taken, List.map_cons, ih (agrees.next event time) (time + 1)]
      congr 1
      cases event with
      | set key => rfl
      | poll keys =>
          simp only [Event.answer, Event.takes, List.map_map]
          apply List.map_congr_left
          intro key _
          simp only [Function.comp_apply]
          by_cases isSet : flags key = true
          · rw [if_pos isSet, if_neg ((agrees key).mp isSet)]
          · rw [if_neg isSet, if_pos (not_not.mp fun has => isSet ((agrees key).mpr has))]

/-- An event adds its own token only. -/
theorem Ledger.Lacks.enter (lacks : ledger.Lacks token) (event : Event Key)
    (other : token ≠ some time) : (event.enter time ledger).Lacks token := by
  intro key inside
  cases event with
  | set key' =>
      by_cases same : key = key'
      · subst same
        simp only [Event.enter, Function.update_self, List.mem_cons] at inside
        exact inside.elim other (lacks key)
      · rw [Event.enter, Function.update_of_ne same] at inside
        exact lacks key inside
  | poll keys =>
      simp only [Event.enter] at inside
      split at inside
      · cases inside
      · exact lacks key inside

/-- A token that is not in the ledger is taken only if it is the token of an event. -/
theorem count_of_lacks (lacks : ledger.Lacks token) (events : List (Event Key))
    (other : ∀ n, token = some n → n < time ∨ time + events.length ≤ n) :
    (tokens (taken ledger time events)).count token = 0 := by
  induction events generalizing ledger time with
  | nil => rfl
  | cons event events ih =>
      rw [taken, tokens_cons, List.count_append, lacks.takes event, Nat.zero_add]
      apply ih (lacks.enter event _)
      · intro n isToken
        have apart := other n isToken
        rw [List.length_cons] at apart
        omega
      · intro same
        have apart := other time same
        rw [List.length_cons] at apart
        omega

/-- A poll that does not list the key, or the setting of a flag, leaves the token. -/
theorem Ledger.Owes.enter (owes : ledger.Owes token key) (fresh : token ≠ some time)
    (unlisted : ¬ event.Polls key) : (event.enter time ledger).Owes token key := by
  cases event with
  | set key' =>
      refine ⟨?_, fun other apart inside => ?_⟩
      · by_cases same : key = key'
        · subst same
          simp only [Event.enter, Function.update_self]
          rw [List.count_cons_of_ne (Ne.symm fresh), owes.once]
        · rw [Event.enter, Function.update_of_ne same, owes.once]
      · by_cases same : other = key'
        · subst same
          simp only [Event.enter, Function.update_self, List.mem_cons] at inside
          exact inside.elim fresh (owes.only other apart)
        · rw [Event.enter, Function.update_of_ne same] at inside
          exact owes.only other apart inside
  | poll keys =>
      have unlisted' : key ∉ keys := unlisted
      refine ⟨?_, fun other apart inside => ?_⟩
      · simp only [Event.enter, if_neg unlisted', owes.once]
      · simp only [Event.enter] at inside
        split at inside
        · cases inside
        · exact owes.only other apart inside

/-- A poll of distinct keys takes the token if it lists its key. -/
theorem Ledger.Owes.takes (owes : ledger.Owes token key) {keys : List Key}
    (distinct : keys.Nodup) :
    ((Event.poll keys).takes ledger |>.flatMap Prod.snd).count token =
      if key ∈ keys then 1 else 0 := by
  rw [Event.takes, List.flatMap_map]
  induction keys with
  | nil => rfl
  | cons first keys ih =>
      obtain ⟨notAgain, distinct'⟩ := List.nodup_cons.mp distinct
      rw [List.flatMap_cons, List.count_append, ih distinct']
      by_cases same : first = key
      · subst same
        rw [owes.once, if_neg notAgain, if_pos List.mem_cons_self]
      · have absent : (ledger first).count token = 0 :=
          List.count_eq_zero.mpr (owes.only first same)
        rw [absent, Nat.zero_add]
        simp [Ne.symm same]

/-- A token in the ledger is taken once, if a poll lists its key, and else not at all. -/
theorem count_of_owes (owes : ledger.Owes token key) (events : List (Event Key))
    (earlier : ∀ n, token = some n → n < time)
    (distinct : ∀ keys, .poll keys ∈ events → keys.Nodup) :
    ((∃ event ∈ events, event.Polls key) → (tokens (taken ledger time events)).count token = 1) ∧
      ((∀ event ∈ events, ¬ event.Polls key) →
        (tokens (taken ledger time events)).count token = 0) := by
  induction events generalizing ledger time with
  | nil => exact ⟨fun found => by simp at found, fun _ => rfl⟩
  | cons event events ih =>
      have fresh : token ≠ some time := fun same => Nat.lt_irrefl _ (earlier time same)
      have later : ∀ n, token = some n → n < time + 1 := fun n isToken =>
        Nat.lt_succ_of_lt (earlier n isToken)
      have distinct' : ∀ keys, .poll keys ∈ events → keys.Nodup := fun keys inside =>
        distinct keys (List.mem_cons_of_mem _ inside)
      rw [taken, tokens_cons, List.count_append]
      by_cases polls : event.Polls key
      · -- the token is taken here, and the ledger lacks it from now on
        cases event with
        | set key' => exact polls.elim
        | poll keys =>
            have listed : key ∈ keys := polls
            have lacks : ((Event.poll keys).enter time ledger).Lacks token := by
              intro other inside
              simp only [Event.enter] at inside
              split at inside
              · cases inside
              · rename_i unlisted
                refine owes.only other (fun same => unlisted ?_) inside
                rw [same]
                exact listed
            rw [owes.takes (distinct keys List.mem_cons_self), if_pos listed,
              count_of_lacks lacks events fun n isToken => Or.inl (later n isToken)]
            exact ⟨fun _ => rfl, fun none => absurd polls (none _ List.mem_cons_self)⟩
      · have here : (event.takes ledger |>.flatMap Prod.snd).count token = 0 := by
          cases event with
          | set key' => rfl
          | poll keys =>
              have unlisted : key ∉ keys := polls
              rw [owes.takes (distinct keys List.mem_cons_self), if_neg unlisted]
        have rest := ih (owes.enter fresh polls) later distinct'
        rw [here, Nat.zero_add]
        refine ⟨fun found => rest.1 ?_, fun none => rest.2 fun event inside =>
          none event (List.mem_cons_of_mem _ inside)⟩
        obtain ⟨event', inside, polls'⟩ := found
        rcases List.mem_cons.mp inside with same | inside
        · rw [same] at polls'
          exact absurd polls' polls
        · exact ⟨event', inside, polls'⟩

/-- The ledger after events. -/
def after (ledger : Ledger Key) (time : Nat) : List (Event Key) → Ledger Key
  | [] => ledger
  | event :: events => after (event.enter time ledger) (time + 1) events

/-- What a run takes is what its parts take. -/
theorem taken_append : taken ledger time (events ++ rest) =
    taken ledger time events ++
      taken (after ledger time events) (time + events.length) rest := by
  induction events generalizing ledger time with
  | nil => rfl
  | cons event events ih =>
      rw [List.cons_append, taken, taken, ih, List.cons_append, after, List.length_cons,
        Nat.add_assoc, Nat.add_comm 1]

/-- The ledger holds tokens of the past only. -/
theorem lacks_after (lacks : ledger.Lacks token) (events : List (Event Key))
    (late : ∀ n, token = some n → time + events.length ≤ n) :
    (after ledger time events).Lacks token := by
  induction events generalizing ledger time with
  | nil => exact lacks
  | cons event events ih =>
      apply ih (lacks.enter event _)
      · intro n isToken
        have apart := late n isToken
        rw [List.length_cons] at apart
        omega
      · intro same
        have apart := late time same
        rw [List.length_cons] at apart
        omega

/-- Over any events, each setting of a flag is reported by exactly one of the polls that list
its key, if one comes later, and by none if none does. -/
theorem reported_once (flags : Key → Bool) (before : List (Event Key)) (key : Key)
    (distinct : ∀ keys, .poll keys ∈ rest → keys.Nodup) :
    ((∃ event ∈ rest, event.Polls key) →
      (tokens (taken (Ledger.start flags) 0 (before ++ .set key :: rest))).count
        (some before.length) = 1) ∧
    ((∀ event ∈ rest, ¬ event.Polls key) →
      (tokens (taken (Ledger.start flags) 0 (before ++ .set key :: rest))).count
        (some before.length) = 0) := by
  have lacks : (Ledger.start flags).Lacks (some before.length) := by
    intro key inside
    unfold Ledger.start at inside
    split at inside <;> simp at inside
  have absent : (tokens (taken (Ledger.start flags) 0 before)).count (some before.length) = 0 :=
    count_of_lacks lacks before fun n same => Or.inr (by simp [← Option.some.inj same])
  have lacks' : (after (Ledger.start flags) 0 before).Lacks (some before.length) :=
    lacks_after lacks before fun n same => by simp [← Option.some.inj same]
  have owes : ((Event.set key).enter before.length
      (after (Ledger.start flags) 0 before)).Owes (some before.length) key := by
    refine ⟨?_, fun other apart => ?_⟩
    · simp only [Event.enter, Function.update_self, List.count_cons_self]
      rw [List.count_eq_zero.mpr (lacks' key)]
    · rw [Event.enter, Function.update_of_ne apart]
      exact lacks' other
  have split : tokens (taken (Ledger.start flags) 0 (before ++ .set key :: rest)) =
      tokens (taken (Ledger.start flags) 0 before) ++
        tokens (taken ((Event.set key).enter before.length
          (after (Ledger.start flags) 0 before)) (before.length + 1) rest) := by
    rw [taken_append, Nat.zero_add, taken]
    simp [tokens, Event.takes]
  rw [split, List.count_append, absent, Nat.zero_add]
  exact count_of_owes owes rest (fun n same => by simp [← Option.some.inj same]) distinct

end Latch
