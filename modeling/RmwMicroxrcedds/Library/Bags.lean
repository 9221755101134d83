import Mathlib.Data.Multiset.Filter
import Mathlib.Data.Multiset.MapFold

/-! # Bags of messages

Every owner has a bag of pending messages. All bags together hold a bounded number of
messages: one that arrives when they are full is lost. A take removes some message of its
owner, and which one is left open. The bags of different owners are independent of each
other, and over a whole run what has arrived is what was taken and what is left.
-/

namespace Bags

variable {Owner Message : Type} [DecidableEq Owner]

/-- The messages of one owner. -/
def bag (all : Multiset (Owner × Message)) (owner : Owner) : Multiset Message :=
  (all.filter fun entry => entry.1 = owner).map Prod.snd

variable {all all' : Multiset (Owner × Message)} {owner other : Owner} {message : Message}
variable {capacity : Nat}

/-- A message for one owner leaves the bags of the others. -/
theorem bag_cons_of_ne (different : other ≠ owner) :
    bag ((owner, message) ::ₘ all) other = bag all other := by
  simp [bag, different.symm]

/-- What happens to the bags. -/
inductive Event (Owner Message : Type) where
  | arrived (owner : Owner) (message : Message)
  | lost
  | took (owner : Owner) (message : Message)
  | missed (owner : Owner)

/-- One event: a message is added while there is room for it, or it is lost, or one message
of an owner is removed, if there is one. -/
inductive Step (capacity : Nat) (all : Multiset (Owner × Message)) :
    Event Owner Message → Multiset (Owner × Message) → Prop
  | arrived (owner : Owner) (message : Message) (room : Multiset.card all < capacity) :
      Step capacity all (.arrived owner message) ((owner, message) ::ₘ all)
  | lost : Step capacity all .lost all
  | took (owner : Owner) (message : Message) (all' : Multiset (Owner × Message))
      (had : all = (owner, message) ::ₘ all') : Step capacity all (.took owner message) all'
  | missed (owner : Owner) (empty : bag all owner = 0) : Step capacity all (.missed owner) all

/-- The events of a run, in their order. -/
inductive Run (capacity : Nat) : Multiset (Owner × Message) → List (Event Owner Message) →
    Multiset (Owner × Message) → Prop
  | nil (all : Multiset (Owner × Message)) : Run capacity all [] all
  | cons {all middle all' : Multiset (Owner × Message)} {event : Event Owner Message}
      {events : List (Event Owner Message)} (step : Step capacity all event middle)
      (rest : Run capacity middle events all') : Run capacity all (event :: events) all'

/-- What arrived for anybody. -/
def arrivals : List (Event Owner Message) → Multiset (Owner × Message)
  | [] => 0
  | .arrived owner message :: events => (owner, message) ::ₘ arrivals events
  | .lost :: events | .took _ _ :: events | .missed _ :: events => arrivals events

/-- What was taken by anybody. -/
def takes : List (Event Owner Message) → Multiset (Owner × Message)
  | [] => 0
  | .took owner message :: events => (owner, message) ::ₘ takes events
  | .lost :: events | .arrived _ _ :: events | .missed _ :: events => takes events

/-- An event is about the bag of one owner. -/
theorem Step.others {event : Event Owner Message} (step : Step capacity all event all')
    (elsewhere : ∀ message, event ≠ .arrived owner message ∧ event ≠ .took owner message) :
    bag all' owner = bag all owner := by
  cases step with
  | arrived other message room =>
      apply bag_cons_of_ne
      intro same
      exact (elsewhere message).1 (same ▸ rfl)
  | lost => rfl
  | took other message all' had =>
      rw [had]
      apply Eq.symm
      apply bag_cons_of_ne
      intro same
      exact (elsewhere message).2 (same ▸ rfl)
  | missed => rfl

/-- Runs of events follow one another. -/
theorem Run.append {middle : Multiset (Owner × Message)}
    {events events' : List (Event Owner Message)}
    (first : Run capacity all events middle) (second : Run capacity middle events' all') :
    Run capacity all (events ++ events') all' := by
  induction first with
  | nil => exact second
  | cons step rest ih => exact .cons step (ih second)

/-- Nothing is lost once it has arrived, nothing is made up, and nothing changes its owner. -/
theorem Run.conserved {events : List (Event Owner Message)} (run : Run capacity all events all') :
    all + arrivals events = takes events + all' := by
  induction run with
  | nil all => simp [arrivals, takes]
  | cons step rest ih =>
      cases step with
      | arrived owner message room =>
          rw [arrivals, takes, Multiset.add_cons, ← ih, Multiset.cons_add]
      | lost => exact ih
      | took owner message all' had =>
          rw [arrivals, takes, had, Multiset.cons_add, ih, Multiset.cons_add]
      | missed => exact ih

/-- A run that is not about an owner leaves its bag alone. -/
theorem Run.others {events : List (Event Owner Message)} (run : Run capacity all events all')
    (elsewhere : ∀ event ∈ events, ∀ message,
      event ≠ .arrived owner message ∧ event ≠ .took owner message) :
    bag all' owner = bag all owner := by
  induction run with
  | nil => rfl
  | cons step rest ih =>
      rw [ih fun event inside => elsewhere event (List.mem_cons_of_mem _ inside)]
      exact step.others (elsewhere _ List.mem_cons_self)

end Bags
