import Mathlib.Data.Set.Function
import Mathlib.Logic.Function.Basic

/-! # Journals of a store

A journal is a list of entries, the newest first. An entry gives a key a value, or takes
the key away; replaying a journal from its oldest entry on gives a store. The entries about
other keys do not matter for a key, a value that is found was put there, and keys may be
renamed as long as no two of those in use are confused.
-/

namespace Journals

variable {Key Key' Value : Type}

/-- One entry of a journal. -/
inductive Entry (Key Value : Type) where
  | put (key : Key) (value : Value)
  | drop (key : Key)

def Entry.key : Entry Key Value → Key
  | put key _ => key
  | drop key => key

/-- The entry about a renamed key. -/
def Entry.rename (name : Key → Key') : Entry Key Value → Entry Key' Value
  | put key value => put (name key) value
  | drop key => drop (name key)

@[simp] theorem Entry.key_rename (name : Key → Key') (entry : Entry Key Value) :
    (entry.rename name).key = name entry.key := by
  cases entry <;> rfl

variable [DecidableEq Key] [DecidableEq Key']

/-- The store after one entry. -/
def Entry.apply (store : Key → Option Value) : Entry Key Value → Key → Option Value
  | put key value => Function.update store key (some value)
  | drop key => Function.update store key none

/-- The store after all entries. -/
def replay : List (Entry Key Value) → Key → Option Value
  | [] => fun _ => none
  | entry :: earlier => entry.apply (replay earlier)

variable {recent earlier journal : List (Entry Key Value)} {entry : Entry Key Value}
variable {key : Key} {value : Value} {store : Key → Option Value}

/-- An entry changes nothing under another key. -/
theorem Entry.apply_of_ne (different : entry.key ≠ key) : entry.apply store key = store key := by
  cases entry <;> exact Function.update_of_ne different.symm _ _

/-- What does not mention a key leaves it as it was. -/
theorem replay_append_of_unmentioned (unmentioned : ∀ entry ∈ recent, entry.key ≠ key) :
    replay (recent ++ earlier) key = replay earlier key := by
  induction recent with
  | nil => rfl
  | cons entry rest ih =>
      have first := unmentioned entry List.mem_cons_self
      rw [List.cons_append, replay, Entry.apply_of_ne first]
      exact ih fun other inside => unmentioned other (List.mem_cons_of_mem _ inside)

/-- What the newest entries put, the older ones do not change. -/
theorem replay_append_of_some (found : replay recent key = some value) :
    replay (recent ++ earlier) key = some value := by
  induction recent with
  | nil => cases found
  | cons entry rest ih =>
      rw [List.cons_append, replay]
      rw [replay] at found
      by_cases same : entry.key = key
      · subst same
        cases entry with
        | put key other => simpa [Entry.apply, Entry.key] using found
        | drop key => simp [Entry.apply, Entry.key] at found
      · rw [Entry.apply_of_ne same] at found ⊢
        exact ih found

/-- A value that is found is a new one, or an older one that nothing new is about. -/
theorem replay_append_eq_some (found : replay (recent ++ earlier) key = some value) :
    Entry.put key value ∈ recent ∨
      (∀ entry ∈ recent, entry.key ≠ key) ∧ replay earlier key = some value := by
  induction recent with
  | nil => exact Or.inr ⟨fun entry inside => (List.not_mem_nil inside).elim, found⟩
  | cons entry rest ih =>
      rw [List.cons_append, replay] at found
      by_cases same : entry.key = key
      · subst same
        cases entry with
        | put key other =>
            simp only [Entry.apply, Entry.key, Function.update_self, Option.some.injEq] at found
            subst found
            exact Or.inl List.mem_cons_self
        | drop key => simp [Entry.apply, Entry.key] at found
      · rw [Entry.apply_of_ne same] at found
        rcases ih found with isNew | ⟨unmentioned, isOld⟩
        · exact Or.inl (List.mem_cons_of_mem _ isNew)
        · exact Or.inr ⟨List.forall_mem_cons.mpr ⟨same, unmentioned⟩, isOld⟩

/-- A value that is found was put there. -/
theorem mem_of_replay (found : replay journal key = some value) :
    Entry.put key value ∈ journal := by
  induction journal with
  | nil => cases found
  | cons entry rest ih =>
      rw [replay] at found
      by_cases same : entry.key = key
      · subst same
        cases entry with
        | put key value' =>
            simp only [Entry.apply, Entry.key, Function.update_self, Option.some.injEq] at found
            subst found
            exact List.mem_cons_self
        | drop key => simp [Entry.apply, Entry.key] at found
      · rw [Entry.apply_of_ne same] at found
        exact List.mem_cons_of_mem _ (ih found)

/-- Where no key is mentioned twice, what was put is found. -/
theorem replay_of_nodup (single : (journal.map Entry.key).Nodup)
    (inside : Entry.put key value ∈ journal) : replay journal key = some value := by
  induction journal with
  | nil => cases inside
  | cons entry rest ih =>
      rw [List.map_cons, List.nodup_cons] at single
      rw [replay]
      rcases List.mem_cons.mp inside with rfl | later
      · exact Function.update_self _ _ _
      · have different : entry.key ≠ key := by
          intro same
          have again : key ∈ rest.map Entry.key := List.mem_map.mpr ⟨_, later, rfl⟩
          exact single.1 (same ▸ again)
        rw [Entry.apply_of_ne different]
        exact ih single.2 later

/-- Keys may be renamed when those in use are not confused. -/
theorem replay_rename {name : Key → Key'} {used : Set Key} (apart : Set.InjOn name used)
    (mentioned : ∀ entry ∈ journal, entry.key ∈ used) (inside : key ∈ used) :
    replay (journal.map (Entry.rename name)) (name key) = replay journal key := by
  induction journal with
  | nil => rfl
  | cons entry rest ih =>
      have first := mentioned entry List.mem_cons_self
      have later := ih fun other within => mentioned other (List.mem_cons_of_mem _ within)
      rw [List.map_cons, replay, replay]
      by_cases same : entry.key = key
      · subst same
        cases entry <;> simp [Entry.rename, Entry.apply, Entry.key]
      · have different : (entry.rename name).key ≠ name key := by
          rw [Entry.key_rename]
          exact fun confused => same (apart first inside confused)
        rw [Entry.apply_of_ne same, Entry.apply_of_ne different, later]

/-- What a value that is put refers to has a value by then. -/
def Ordered (references : Value → List Key) : List (Entry Key Value) → Prop
  | [] => True
  | .put _ value :: earlier =>
      (∀ key ∈ references value, (replay earlier key).isSome = true) ∧ Ordered references earlier
  | .drop _ :: earlier => Ordered references earlier

/-- Behind an entry its key is present, and so is what was before. -/
theorem isSome_replay_put {other : Key} : (replay (.put other value :: journal) key).isSome = true ↔
    key = other ∨ (replay journal key).isSome = true := by
  rw [replay, Entry.apply]
  by_cases same : key = other
  · subst same
    simp
  · simp [same]

/-- Taking keys away refers to nothing. -/
theorem Ordered.append_drops {references : Value → List Key}
    (ordered : Ordered references earlier) (drops : ∀ entry ∈ recent, ∃ key, entry = .drop key) :
    Ordered references (recent ++ earlier) := by
  induction recent with
  | nil => exact ordered
  | cons entry rest ih =>
      obtain ⟨key, rfl⟩ := drops entry List.mem_cons_self
      exact ih fun other inside => drops other (List.mem_cons_of_mem _ inside)

end Journals
