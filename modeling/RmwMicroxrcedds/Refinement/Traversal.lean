import RmwMicroxrcedds.Refinement.Removal

/-! # Loops that remove the item they are at

`rmw_destroy_node` and `rmw_context_fini` walk a pool and read the successor of an item
before its body runs. The body may release that item, but none of those behind it, so the
items still to come stay a suffix of the allocated list, and the walk ends. The loops keep the
result code of the last body only; the walk with all of them is traced beside the loop.
-/

namespace RmwMicroxrcedds

open Outcome Registry

variable {cfg : Config} {admits : Admission} {s : Rmw} {pool : Pool}
variable {body : Nat → Rmw → Exec (Option RmwRet × Rmw)}

/-- The end of a list survives when only members before it are taken out. -/
theorem suffix_of_sublist {items items' rest : List Nat} (order : items'.Sublist items)
    (nodup : items.Nodup) (suffix : rest <:+ items) (stay : ∀ item ∈ rest, item ∈ items') :
    rest <:+ items' := by
  obtain ⟨before, rfl⟩ := suffix
  obtain ⟨front, back, rfl, frontOrder, backOrder⟩ := List.sublist_append_iff.mp order
  have apart := (List.nodup_append.mp nodup).2.2
  have behind : rest ⊆ back := by
    intro item inside
    rcases List.mem_append.mp (stay item inside) with early | late
    · exact absurd rfl (apart item (frontOrder.subset early) item inside)
    · exact late
  have restNodup : rest.Nodup := (List.nodup_append.mp nodup).2.1
  have same : back = rest :=
    backOrder.eq_of_length_le (restNodup.subperm behind).length_le
  exact ⟨front, by rw [same]⟩

/-- The walk of `forEachItem`, with the result codes of all bodies that ran. -/
def traceItems (pool : Pool) (body : Nat → Rmw → Exec (Option RmwRet × Rmw)) :
    Nat → Option Nat → Rmw → Exec (List RmwRet × Rmw)
  | _, none, s => .ok ([], s)
  | 0, some _, _ => .error .divergence
  | fuel + 1, some item, s => do
      let entity ← s.dataOf pool item
      let next := ((s.memory pool).links item).next
      let (result, s) ← body entity s
      let (results, s) ← traceItems pool body fuel next s
      .ok (result.toList ++ results, s)

/-- The walk over the allocated items of a pool, with all result codes. -/
def Rmw.traceAllocated (s : Rmw) (pool : Pool)
    (body : Nat → Rmw → Exec (Option RmwRet × Rmw)) : Exec (List RmwRet × Rmw) :=
  traceItems pool body (s.memory pool).size (s.memory pool).allocateditems s

/-- A code that is reported counts until a later one is. -/
theorem getLastD_toList_append (result : Option RmwRet) (results : List RmwRet) (ret : RmwRet) :
    (result.toList ++ results).getLastD ret = results.getLastD (result.getD ret) := by
  cases result with
  | none => rfl
  | some other => exact List.getLastD_cons

/-- Of all the result codes only the last one is kept. -/
theorem forEachItem_eq_trace (fuel : Nat) (item : Option Nat) (ret : RmwRet) (s : Rmw) :
    forEachItem pool body fuel item ret s =
      traceItems pool body fuel item s >>= fun traced =>
        .ok (traced.1.getLastD ret, traced.2) := by
  induction fuel generalizing item ret s with
  | zero => cases item <;> rfl
  | succ fuel ih =>
      cases item with
      | none => rfl
      | some item =>
          simp only [forEachItem, traceItems, bind_assoc]
          cases s.dataOf pool item with
          | error fault => rfl
          | ok entity =>
              simp only [ok_bind]
              cases body entity s with
              | error fault => rfl
              | ok after =>
                  obtain ⟨result, s'⟩ := after
                  simp only [ok_bind, ih]
                  apply bind_congr
                  intro rest
                  simp only [getLastD_toList_append]

/-- So it is for the walk over the allocated items of a pool. -/
theorem forEachAllocated_eq_trace (ret : RmwRet) :
    s.forEachAllocated pool body ret =
      s.traceAllocated pool body >>= fun traced => .ok (traced.1.getLastD ret, traced.2) :=
  forEachItem_eq_trace _ _ _ _

/-- What holds of the codes so far, the items to come and the state holds at the end, once the
body keeps it. The items to come are the last ones of the list, so the successor that was read
before the body ran is still the next of them. -/
private theorem traceItems_spec {inv : List RmwRet → List Nat → Rmw → Prop}
    (wf : ∀ codes rest s, inv codes rest s → (s.memory pool).Wf)
    (suffix : ∀ codes rest s, inv codes rest s → rest <:+ s.allocated pool)
    (step : ∀ codes item rest s, inv codes (item :: rest) s →
      Yields (body item s) fun result => inv (codes ++ result.1.toList) rest result.2) :
    ∀ (rest : List Nat) (fuel : Nat) (codes : List RmwRet) (s : Rmw), rest.length ≤ fuel →
      inv codes rest s →
      Yields (traceItems pool body fuel rest.head? s) fun result =>
        inv (codes ++ result.1) [] result.2 := by
  intro rest
  induction rest with
  | nil =>
      intro fuel codes s _ holds
      rw [← List.append_nil codes] at holds
      cases fuel <;> exact yields_ok.mpr holds
  | cons item rest ih =>
      intro fuel codes s enough holds
      cases fuel with
      | zero => cases enough
      | succ fuel =>
          have isWf := wf _ _ _ holds
          obtain ⟨before, split⟩ := suffix _ _ _ holds
          have whole : (s.memory pool).allocated = before ++ item :: rest := split.symm
          have inside : item ∈ (s.memory pool).allocated := by simp [whole]
          have segment := isWf.allocated_segment
          rw [whole] at segment
          have next : ((s.memory pool).links item).next = rest.head? := segment.next_eq
          simp only [List.head?_cons, traceItems, Rmw.dataOf, isWf.data_eq inside, deref, ok_bind,
            next]
          apply (step codes item rest s holds).bind
          intro after kept
          apply (ih fuel _ after.2 (Nat.le_of_succ_le_succ enough) kept).bind
          intro last rested
          rw [List.append_assoc] at rested
          exact yields_ok.mpr rested

/-- A walk over a pool keeps what its body keeps, and ends. -/
private theorem traceAllocated_run (inv : List RmwRet → List Nat → Rmw → Prop)
    (wf : ∀ codes rest s, inv codes rest s → (s.memory pool).Wf)
    (suffix : ∀ codes rest s, inv codes rest s → rest <:+ s.allocated pool)
    (step : ∀ codes item rest s, inv codes (item :: rest) s →
      Yields (body item s) fun result => inv (codes ++ result.1.toList) rest result.2)
    (start : inv [] (s.allocated pool) s) :
    Yields (s.traceAllocated pool body) fun result => inv result.1 [] result.2 := by
  have isWf := wf _ _ _ start
  have head : (s.memory pool).allocateditems = (s.allocated pool).head? := isWf.allocateditems_eq
  have total := isWf.length_add
  have enough : (s.allocated pool).length ≤ (s.memory pool).size := by
    simp only [Rmw.allocated]
    omega
  rw [Rmw.traceAllocated, head]
  exact traceItems_spec wf suffix step _ _ _ _ enough start

/-- A walk over a pool whose body reports what its item determines returns these reports, in
the order of the items. -/
theorem traceAllocated_spec (inv : List Nat → Rmw → Prop) (report : Nat → Option RmwRet)
    (wf : ∀ rest s, inv rest s → (s.memory pool).Wf)
    (suffix : ∀ rest s, inv rest s → rest <:+ s.allocated pool)
    (step : ∀ item rest s, inv (item :: rest) s →
      Yields (body item s) fun result => result.1 = report item ∧ inv rest result.2)
    (start : inv (s.allocated pool) s) :
    Yields (s.traceAllocated pool body) fun result =>
      result.1 = (s.allocated pool).filterMap report ∧ inv [] result.2 := by
  refine (traceAllocated_run (fun codes rest s' =>
    codes ++ rest.filterMap report = (s.allocated pool).filterMap report ∧ inv rest s')
    (fun _ rest s' holds => wf rest s' holds.2) (fun _ rest s' holds => suffix rest s' holds.2)
    (fun codes item rest s' holds => ?_) ⟨rfl, start⟩).mono ?_
  · refine (step item rest s' holds.2).mono fun result kept => ⟨?_, kept.2⟩
    rw [← holds.1, kept.1, List.filterMap_cons]
    cases report item <;> simp
  · rintro result ⟨reports, kept⟩
    exact ⟨by simpa using reports, kept⟩

/-- A walk over a pool keeps what its body keeps, whatever the body reports. -/
theorem traceAllocated_keeps (inv : List Nat → Rmw → Prop)
    (wf : ∀ rest s, inv rest s → (s.memory pool).Wf)
    (suffix : ∀ rest s, inv rest s → rest <:+ s.allocated pool)
    (step : ∀ item rest s, inv (item :: rest) s →
      Yields (body item s) fun result => inv rest result.2)
    (start : inv (s.allocated pool) s) :
    Yields (s.traceAllocated pool body) fun result => inv [] result.2 :=
  traceAllocated_run (fun _ => inv) (fun _ => wf) (fun _ => suffix) (fun _ => step) start

/-- What a loop that removes entities from its pool has done when the given items are
still to come: those before them that are to go are gone. -/
structure Sweep (cfg : Config) (admits : Admission) (s : Rmw) (pool : Pool)
    (goes : Nat → Pool → Nat → Prop) (rest : List Nat) (s' : Rmw) : Prop where
  healthy : s'.Healthy cfg admits
  sound : s'.registry.Sound
  advance : Advance s s'
  suffix : rest <:+ s'.allocated pool
  removal : s.registry.Removal s'.registry fun pool' slot' =>
    ∃ item ∈ s.allocated pool, item ∉ rest ∧ goes item pool' slot'

/-- A loop removes what goes with each of its items, when its body removes what goes with
the item it is at and that item is all that goes of the loop's own pool. -/
theorem sweep_spec (goes : Nat → Pool → Nat → Prop) (report : Nat → Option RmwRet)
    (entities : pool ≠ .staticBuffer) (notTopic : pool ≠ .topic)
    (healthy : s.Healthy cfg admits) (sound : s.registry.Sound)
    (own : ∀ item slot, goes item pool slot → slot = item)
    (step : ∀ item rest s', item ∈ s.registry.allocated pool →
      Sweep cfg admits s pool goes (item :: rest) s' →
      Yields (body item s') fun result =>
        result.1 = report item ∧ result.2.Healthy cfg admits ∧ result.2.registry.Sound ∧
          Advance s' result.2 ∧ s'.registry.Removal result.2.registry (goes item)) :
    Yields (s.traceAllocated pool body) fun result =>
      result.1 = (s.allocated pool).filterMap report ∧ result.2.Healthy cfg admits ∧
      result.2.registry.Sound ∧ Advance s result.2 ∧
        s.registry.Removal result.2.registry fun pool' slot' =>
          ∃ item ∈ s.registry.allocated pool, goes item pool' slot' := by
  have pools : ∀ s' : Rmw, s'.registry.allocated pool = s'.allocated pool :=
    fun s' => Rmw.registry_allocated entities
  have start : Sweep cfg admits s pool goes (s.allocated pool) s := by
    refine ⟨healthy, sound, .refl s, List.suffix_refl _, (Removal.refl _).congr fun _ _ => ?_⟩
    constructor
    · rintro ⟨item, inside, outside, -⟩
      exact outside inside
    · exact False.elim
  refine (traceAllocated_spec (Sweep cfg admits s pool goes) report
    (fun _ _ sweep => sweep.healthy.wf pool) (fun _ _ sweep => sweep.suffix)
    (fun item rest s' sweep => ?_) start).mono ?_
  rotate_left
  · intro result post
    obtain ⟨isResults, sweep⟩ := post
    refine ⟨isResults, sweep.healthy, sweep.sound, sweep.advance,
      sweep.removal.congr fun pool' slot' => ?_⟩
    simp [pools]
  · have nodup : (item :: rest).Nodup :=
      (sweep.healthy.nodup.sublist (pools s' ▸ sweep.suffix.sublist))
    have held : item ∈ s'.registry.allocated pool := by
      rw [pools]
      exact sweep.suffix.subset List.mem_cons_self
    have first : item ∈ s.registry.allocated pool := (sweep.removal.order pool).subset held
    refine (step item rest s' first sweep).mono ?_
    rintro ⟨_, s''⟩ ⟨isReport, healthy', sound', advance', removal'⟩
    refine ⟨isReport, healthy', sound', sweep.advance.trans advance', ?_, ?_⟩
    · have tail : rest <:+ s'.registry.allocated pool := by
        rw [pools]
        exact (List.suffix_cons item rest).trans sweep.suffix
      rw [← pools]
      refine suffix_of_sublist (removal'.order pool) sweep.healthy.nodup tail fun other later => ?_
      refine (removal'.kept notTopic).mpr ⟨tail.subset later, fun isGone => ?_⟩
      exact (List.nodup_cons.mp nodup).1 (own _ _ isGone ▸ later)
    · refine (sweep.removal.trans removal').congr fun pool' slot' => ?_
      constructor
      · rintro ⟨other, inside, outside, isGone⟩
        by_cases same : other = item
        · exact Or.inr (same ▸ isGone)
        · exact Or.inl ⟨other, inside, by simp [same, outside], isGone⟩
      · rintro (⟨other, inside, outside, isGone⟩ | isGone)
        · exact ⟨other, inside, fun later => outside (List.mem_cons_of_mem _ later), isGone⟩
        · exact ⟨item, pools s ▸ first, (List.nodup_cons.mp nodup).1, isGone⟩

end RmwMicroxrcedds
