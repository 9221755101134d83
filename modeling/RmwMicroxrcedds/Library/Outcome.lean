import Mathlib.Logic.Basic

/-! # Computations that may fault

A computation in `Except ε` either yields a value or stops with a fault.
`Outcome.Yields x post` says that `x` does not fault and that its value satisfies
`post`; it is the weakest precondition of a computation that must not fault, and
the rules below follow the shape of the computation.
-/

namespace Outcome

universe u v

variable {ε : Type u} {α β : Type v}

/-- A computation that has its value goes on with it. -/
@[simp] theorem ok_bind {value : α} {next : α → Except ε β} :
    (Except.ok value >>= next) = next value := rfl

/-- The computation does not fault, and its value satisfies the postcondition. -/
def Yields (computation : Except ε α) (post : α → Prop) : Prop :=
  ∃ value, computation = .ok value ∧ post value

@[simp] theorem yields_ok {value : α} {post : α → Prop} :
    Yields (.ok value : Except ε α) post ↔ post value := by
  constructor
  · rintro ⟨_, same, holds⟩
    cases same
    exact holds
  · exact fun holds => ⟨value, rfl, holds⟩

@[simp] theorem yields_pure {value : α} {post : α → Prop} :
    Yields (pure value : Except ε α) post ↔ post value :=
  yields_ok

@[simp] theorem yields_error {fault : ε} {post : α → Prop} :
    ¬ Yields (.error fault : Except ε α) post := by
  rintro ⟨_, same, _⟩
  cases same

/-- Sequencing: the first computation yields a value from which the second one
reaches the postcondition. -/
@[simp] theorem yields_bind {first : Except ε α} {second : α → Except ε β} {post : β → Prop} :
    Yields (first >>= second) post ↔ Yields first fun value => Yields (second value) post := by
  cases first with
  | error fault =>
      constructor
      · rintro ⟨_, same, _⟩
        cases same
      · exact fun absurd => (yields_error absurd).elim
  | ok value =>
      have holds : Yields (.ok value : Except ε α) (fun value => Yields (second value) post) ↔
          Yields (second value) post := yields_ok
      exact holds.symm

/-- What a sequence returned, its second computation returned from what the first one did. -/
theorem bind_eq_ok {first : Except ε α} {second : α → Except ε β} {value : β} :
    (first >>= second) = .ok value ↔ ∃ middle, first = .ok middle ∧ second middle = .ok value := by
  cases first with
  | error fault =>
      constructor
      · intro returned
        cases returned
      · intro returned
        obtain ⟨_, same, _⟩ := returned
        cases same
  | ok middle =>
      constructor
      · exact fun returned => ⟨middle, rfl, returned⟩
      · intro returned
        obtain ⟨_, same, returned⟩ := returned
        cases same
        exact returned

/-- Consequence: a computation that meets a postcondition meets every weaker one. -/
theorem Yields.mono {computation : Except ε α} {post weaker : α → Prop}
    (yields : Yields computation post) (weaken : ∀ value, post value → weaker value) :
    Yields computation weaker := by
  obtain ⟨value, same, holds⟩ := yields
  exact ⟨value, same, weaken value holds⟩

/-- Sequencing, with the first computation known by its own postcondition. -/
theorem Yields.bind {first : Except ε α} {second : α → Except ε β} {middle : α → Prop}
    {post : β → Prop} (yields : Yields first middle)
    (next : ∀ value, middle value → Yields (second value) post) :
    Yields (first >>= second) post :=
  yields_bind.mpr (yields.mono next)

/-- The value a computation is known to have is the one its postcondition is about. -/
theorem Yields.of_eq_ok {computation : Except ε α} {post : α → Prop} {value : α}
    (yields : Yields computation post) (same : computation = .ok value) : post value := by
  obtain ⟨_, other, holds⟩ := yields
  cases other.symm.trans same
  exact holds

end Outcome
