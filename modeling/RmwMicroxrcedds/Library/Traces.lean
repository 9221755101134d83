import Mathlib.Logic.Basic

/-! # Components and their traces

A component answers calls, and a rule says which call may be made in which state. A trace is
the calls of a run with their answers. A component simulates another one when, from related
states, every call it allows is allowed there and has the same answer; its traces are then
traces of the other one.
-/

/-- A component. A call may fail to return. -/
structure Component (State Call Answer Fault : Type) where
  call : Call → State → Except Fault (Answer × State)
  allowed : State → Call → Prop

namespace Component

variable {State State' Call Answer Fault Fault' : Type}
  {c : Component State Call Answer Fault} {c' : Component State' Call Answer Fault'}
  {state last : State} {calls : List (Call × Answer)}

/-- The calls of a run with their answers, in their order. -/
inductive Trace (c : Component State Call Answer Fault) :
    State → List (Call × Answer) → State → Prop
  | nil (state : State) : Trace c state [] state
  | cons {state next last : State} {call : Call} {answer : Answer} {rest : List (Call × Answer)}
      (allowed : c.allowed state call) (returns : c.call call state = .ok (answer, next))
      (after : Trace c next rest last) : Trace c state ((call, answer) :: rest) last

/-- The state after a call; one that does not return leaves it as it is. -/
def next (c : Component State Call Answer Fault) (state : State) (call : Call) : State :=
  match c.call call state with
  | .ok (_, next) => next
  | .error _ => state

/-- Every step of the run has the property. -/
def Each (c : Component State Call Answer Fault) (property : State → Call → State → Prop) :
    State → List (Call × Answer) → Prop
  | _, [] => True
  | state, (call, answer) :: rest => ∀ next, c.call call state = .ok (answer, next) →
      property state call next ∧ c.Each property next rest

/-- What every step keeps whose call meets a condition, a run of such calls keeps. -/
theorem Trace.invariant (run : c.Trace state calls last) (inv : State → Prop)
    (condition : Call → Prop) (meets : ∀ entry ∈ calls, condition entry.1)
    (kept : ∀ {state call answer next}, inv state → c.allowed state call → condition call →
      c.call call state = .ok (answer, next) → inv next) (initially : inv state) : inv last := by
  induction run with
  | nil => exact initially
  | cons allowed returns after ih =>
      have here := meets _ List.mem_cons_self
      exact ih (fun entry inside => meets entry (List.mem_cons_of_mem _ inside))
        (kept initially allowed here returns)

/-- When in every state of the invariant the steps that have the property are those of the
calls that meet the condition, the same is true of runs. -/
theorem Trace.each_iff (run : c.Trace state calls last) {inv : State → Prop}
    {property : State → Call → State → Prop} {condition : Call → Prop}
    (kept : ∀ {state call answer next}, inv state → c.allowed state call →
      c.call call state = .ok (answer, next) → inv next)
    (same : ∀ {state call answer next}, inv state → c.allowed state call →
      c.call call state = .ok (answer, next) → (property state call next ↔ condition call))
    (initially : inv state) :
    c.Each property state calls ↔ ∀ entry ∈ calls, condition entry.1 := by
  induction run with
  | nil => simp [Each]
  | @cons state next last call answer rest allowed returns after ih =>
      have here := same initially allowed returns
      have later := ih (kept initially allowed returns)
      constructor
      · intro each entry inside
        obtain ⟨holds, others⟩ := each next returns
        rcases List.mem_cons.mp inside with rfl | inside
        · exact here.mp holds
        · exact later.mp others entry inside
      · intro all next' returns'
        cases returns.symm.trans returns'
        exact ⟨here.mpr (all _ List.mem_cons_self),
          later.mpr fun entry inside => all entry (List.mem_cons_of_mem _ inside)⟩

/-- A component simulates another one. -/
structure Simulates (c : Component State Call Answer Fault)
    (c' : Component State' Call Answer Fault') (related : State → State' → Prop) : Prop where
  allowed : ∀ {state state' call}, related state state' → c.allowed state call →
    c'.allowed state' call
  returns : ∀ {state state' call answer next}, related state state' → c.allowed state call →
    c.call call state = .ok (answer, next) →
    ∃ next', c'.call call state' = .ok (answer, next') ∧ related next next'

/-- The traces of a component are traces of every component that it simulates. -/
theorem Simulates.trace {related : State → State' → Prop} (simulates : Simulates c c' related)
    (run : c.Trace state calls last) {state' : State'} (before : related state state') :
    ∃ last', c'.Trace state' calls last' ∧ related last last' := by
  induction run generalizing state' with
  | nil => exact ⟨state', .nil _, before⟩
  | cons allowed returns after ih =>
      obtain ⟨next', returns', between⟩ := simulates.returns before allowed returns
      obtain ⟨last', after', atEnd⟩ := ih between
      exact ⟨last', .cons (simulates.allowed before allowed) returns' after', atEnd⟩

/-- Two calls go alike: both fault, and in the same way, or both return, with the same answer and
in related states. -/
inductive Alike {Result : Type} (related : State → State' → Prop) :
    Except Fault (Result × State) → Except Fault (Result × State') → Prop
  | returns {result : Result} {state : State} {state' : State'} (both : related state state') :
      Alike related (.ok (result, state)) (.ok (result, state'))
  | faults (fault : Fault) : Alike related (.error fault) (.error fault)

/-- What goes on alike after calls that went alike has gone alike. -/
theorem Alike.bind {Result Result' : Type} {related : State → State' → Prop}
    {first : Except Fault (Result × State)} {first' : Except Fault (Result × State')}
    {next : Result × State → Except Fault (Result' × State)}
    {next' : Result × State' → Except Fault (Result' × State')}
    (alike : Alike related first first')
    (after : ∀ {result state state'}, related state state' →
      Alike related (next (result, state)) (next' (result, state'))) :
    Alike related (first >>= next) (first' >>= next') := by
  cases alike with
  | returns both => exact after both
  | faults fault => exact .faults fault

/-- A component whose calls go as those of another one simulates it. -/
theorem simulates_of_alike {c' : Component State' Call Answer Fault}
    {related : State → State' → Prop}
    (allowed : ∀ {state state' call}, related state state' → c.allowed state call →
      c'.allowed state' call)
    (alike : ∀ {state state' call}, related state state' → c.allowed state call →
      Alike related (c.call call state) (c'.call call state')) : Simulates c c' related where
  allowed := allowed
  returns := by
    intro state state' call answer next before isAllowed returns
    have both := alike before isAllowed
    rw [returns] at both
    generalize isCall : c'.call call state' = outcome at both
    cases both with
    | returns after => exact ⟨_, rfl, after⟩

end Component
