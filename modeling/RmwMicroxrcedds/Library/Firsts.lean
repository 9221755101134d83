import Mathlib.Data.List.Induction
import Mathlib.Data.List.Nodup

/-! # First occurrences

A list is gone through, and each item is kept unless one with the same key was kept before. What
is kept are the items that are the first with their key: every key is kept once.
-/

namespace Firsts

variable {α κ : Type*} [DecidableEq κ] (key : α → κ)

/-- An item joins the ones kept, unless its key is there already. -/
def join (kept : List α) (item : α) : List α :=
  if key item ∈ kept.map key then kept else kept ++ [item]

/-- What is kept of a list. -/
def firsts (items : List α) : List α := items.foldl (join key) []

/-- The items kept are those that are the first with their key, each once. -/
structure AreFirsts (items kept : List α) : Prop where
  distinct : (kept.map key).Nodup
  first : ∀ item, item ∈ kept ↔ items.find? (fun other => key other = key item) = some item

variable {key} {items kept : List α} {item : α}

/-- The firsts have the same keys as all items. -/
theorem AreFirsts.key_iff (firsts : AreFirsts key items kept) {k : κ} :
    k ∈ kept.map key ↔ k ∈ items.map key := by
  constructor
  · intro inside
    obtain ⟨item, isKept, rfl⟩ := List.mem_map.mp inside
    have found := (firsts.first item).mp isKept
    exact List.mem_map_of_mem (List.mem_of_find?_eq_some found)
  · intro inside
    obtain ⟨item, isItem, rfl⟩ := List.mem_map.mp inside
    cases found : items.find? fun other => key other = key item with
    | none =>
        have absent := List.find?_eq_none.mp found item isItem
        simp at absent
    | some other =>
        have same : key other = key item := by simpa using List.find?_some found
        rw [← same] at found ⊢
        exact List.mem_map_of_mem ((firsts.first other).mpr found)

/-- Every item is related to the one kept with its key if and only if it is related to the first
one with its key. -/
theorem AreFirsts.forall_iff (firsts : AreFirsts key items kept) {related : α → α → Prop} :
    (∀ first ∈ kept, ∀ item ∈ items, key item = key first → related item first) ↔
      ∀ item ∈ items, ∀ first, items.find? (fun other => key other = key item) = some first →
        related item first := by
  constructor
  · intro each item isItem first found
    have same : key first = key item := by simpa using List.find?_some found
    refine each first ?_ item isItem same.symm
    rw [firsts.first, same]
    exact found
  · intro each first isKept item isItem same
    refine each item isItem first ?_
    rw [same]
    exact (firsts.first first).mp isKept

/-- One more item keeps the invariant. -/
theorem AreFirsts.join (firsts : AreFirsts key items kept) (item : α) :
    AreFirsts key (items ++ [item]) (join key kept item) := by
  unfold Firsts.join
  by_cases there : key item ∈ kept.map key
  · rw [if_pos there]
    refine ⟨firsts.distinct, fun other => ?_⟩
    rw [firsts.first, List.find?_append]
    -- the new item is found only where nothing was found before
    cases found : items.find? fun earlier => key earlier = key other with
    | some earlier => simp
    | none =>
        have absent : ¬ key item = key other := by
          intro same
          rw [firsts.key_iff, same] at there
          obtain ⟨earlier, isItem, isKey⟩ := List.mem_map.mp there
          exact List.find?_eq_none.mp found earlier isItem (by simpa using isKey)
        simp [absent]
  · rw [if_neg there]
    constructor
    · rw [List.map_append, List.map_singleton]
      exact List.Nodup.append firsts.distinct (List.nodup_singleton _) (by simpa using there)
    · intro other
      rw [List.mem_append, firsts.first, List.mem_singleton, List.find?_append]
      rw [firsts.key_iff] at there
      cases found : items.find? fun earlier => key earlier = key other with
      | some earlier =>
          have isKey : key earlier = key other := by simpa using List.find?_some found
          have apart : other ≠ item := by
            intro same
            rw [← same, ← isKey] at there
            exact there (List.mem_map_of_mem (List.mem_of_find?_eq_some found))
          simp [apart]
      | none =>
          by_cases same : other = item
          · simp [same]
          · have same' : item ≠ other := Ne.symm same
            simp [same, same']

/-- Every list is gone through so. -/
theorem areFirsts_firsts (items : List α) : AreFirsts key items (firsts key items) := by
  induction items using List.reverseRecOn with
  | nil => exact ⟨List.nodup_nil, fun item => by simp [firsts]⟩
  | append_singleton items item ih =>
      rw [firsts, List.foldl_append]
      exact ih.join item

end Firsts
