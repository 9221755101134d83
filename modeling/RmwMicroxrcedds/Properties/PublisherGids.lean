import RmwMicroxrcedds.Model.Gid
import RmwMicroxrcedds.Properties.Routing

/-! # Publisher gids

`rmw_get_gid_for_publisher` stores the object id of the publisher in the data of the gid and
leaves its implementation identifier alone. `rmw_compare_gids_equal` wants the identifier, and
compares more bytes than the data has.
-/

namespace RmwMicroxrcedds

open Outcome Bytes

variable {cfg : Config} {admits : Admission} {s : Rmw} {layout : GidLayout} {memory : Memory}
variable {handle handle₁ handle₂ slot slot₁ slot₂ gid gid₁ gid₂ : Nat}

namespace GidLayout

variable (layout : GidLayout)

/-- The data bytes of a gid. -/
def dataBytes (memory : Memory) (gid : Nat) : List UInt8 :=
  read memory (layout.data gid) layout.gidStorageSize

/-- The bytes behind the data of a gid that a comparison reads. -/
def behind (memory : Memory) (gid : Nat) : List UInt8 :=
  read memory (layout.data gid + layout.gidStorageSize) (layout.gidSize - layout.gidStorageSize)

/-- What `rmw_get_gid_for_publisher` writes to the data. -/
def stored (bytes : List UInt8) : List UInt8 :=
  bytes ++ List.replicate (layout.gidStorageSize - bytes.length) 0

/-- The memory after `rmw_get_gid_for_publisher`. -/
def fill (memory : Memory) (gid : Nat) (bytes : List UInt8) : Memory :=
  write (write memory (layout.data gid) (List.replicate layout.gidStorageSize 0))
    (layout.data gid) bytes

variable {bytes : List UInt8}

/-- `memcmp` compares the bytes of the identifier and those behind them. -/
theorem compared_eq : read memory (layout.data gid) layout.gidSize =
    layout.dataBytes memory gid ++ layout.behind memory gid := by
  have size := layout.holds
  have split : layout.gidSize =
      layout.gidStorageSize + (layout.gidSize - layout.gidStorageSize) := by omega
  conv_lhs => rw [split]
  exact read_add

/-- The data holds the bytes of the object id, and zeros. -/
theorem dataBytes_fill (fits : bytes.length ≤ layout.gidStorageSize) :
    layout.dataBytes (layout.fill memory gid bytes) gid = layout.stored bytes := by
  have split : layout.gidStorageSize =
      bytes.length + (layout.gidStorageSize - bytes.length) := by omega
  unfold dataBytes fill stored
  conv_lhs => rw [split]
  rw [read_write_append, ← split]
  congr 1
  -- behind the object id lies what `memset` wrote
  have zeros : read (write memory (layout.data gid) (List.replicate layout.gidStorageSize 0))
      (layout.data gid) layout.gidStorageSize = List.replicate layout.gidStorageSize 0 := by
    have whole := @read_write memory (layout.data gid) (List.replicate layout.gidStorageSize 0)
    rwa [List.length_replicate] at whole
  rw [split, read_add, ← split] at zeros
  have last := congrArg (List.drop bytes.length) zeros
  rw [List.drop_left' length_read, List.drop_replicate] at last
  exact last

/-- Nothing but the data is written. -/
theorem fill_outside (fits : bytes.length ≤ layout.gidStorageSize) {start length : Nat}
    (outside : start + length ≤ layout.data gid ∨
      layout.data gid + layout.gidStorageSize ≤ start) :
    read (layout.fill memory gid bytes) start length = read memory start length := by
  unfold fill
  rw [read_write_apart (by omega), read_write_apart (by rw [List.length_replicate]; exact outside)]

/-- Bytes of one length are stored apart if they are different. -/
theorem stored_inj {bytes' : List UInt8} (same : bytes.length = bytes'.length) :
    layout.stored bytes = layout.stored bytes' ↔ bytes = bytes' := by
  unfold stored
  rw [same, List.append_left_inj]

/-- Filling a gid leaves the identifier of every gid. -/
theorem identified_fill {other : Nat} (fits : bytes.length ≤ layout.gidStorageSize)
    (there : other = gid ∨ gid + layout.gidSize ≤ other ∨ other + layout.gidSize ≤ gid) :
    layout.identified (layout.fill memory gid bytes) other = layout.identified memory other := by
  have size := layout.holds
  unfold identified
  rw [layout.fill_outside fits (by rw [data]; omega)]

/-- It leaves the bytes behind every gid. -/
theorem behind_fill {other : Nat} (fits : bytes.length ≤ layout.gidStorageSize)
    (there : other = gid ∨ gid + layout.gidSize ≤ other ∨ other + layout.gidSize ≤ gid) :
    layout.behind (layout.fill memory gid bytes) other = layout.behind memory other := by
  have size := layout.holds
  unfold behind
  rw [layout.fill_outside fits (by rw [data, data]; omega)]

/-- It leaves the data of the gids apart from it. -/
theorem dataBytes_fill_apart {other : Nat} (fits : bytes.length ≤ layout.gidStorageSize)
    (apart : gid + layout.gidSize ≤ other ∨ other + layout.gidSize ≤ gid) :
    layout.dataBytes (layout.fill memory gid bytes) other = layout.dataBytes memory other := by
  have size := layout.holds
  unfold dataBytes
  rw [layout.fill_outside fits (by rw [data, data]; omega)]

variable {bytes₁ bytes₂ : List UInt8}

/-- The data of two gids that were filled one after the other. -/
theorem dataBytes_fill_both (fits₁ : bytes₁.length ≤ layout.gidStorageSize)
    (fits₂ : bytes₂.length ≤ layout.gidStorageSize)
    (apart : gid₁ + layout.gidSize ≤ gid₂ ∨ gid₂ + layout.gidSize ≤ gid₁) :
    layout.dataBytes (layout.fill (layout.fill memory gid₁ bytes₁) gid₂ bytes₂) gid₁ =
        layout.stored bytes₁ ∧
      layout.dataBytes (layout.fill (layout.fill memory gid₁ bytes₁) gid₂ bytes₂) gid₂ =
        layout.stored bytes₂ := by
  constructor
  · rw [layout.dataBytes_fill_apart fits₂ apart.symm, layout.dataBytes_fill fits₁]
  · rw [layout.dataBytes_fill fits₂]

/-- The comparison of two gids that were filled one after the other. -/
theorem compare_fill_both (fits₁ : bytes₁.length ≤ layout.gidStorageSize)
    (fits₂ : bytes₂.length ≤ layout.gidStorageSize) (same : bytes₁.length = bytes₂.length)
    (apart : gid₁ + layout.gidSize ≤ gid₂ ∨ gid₂ + layout.gidSize ≤ gid₁) :
    rmwCompareGidsEqual layout (some gid₁) (some gid₂)
        (layout.fill (layout.fill memory gid₁ bytes₁) gid₂ bytes₂) =
      if layout.identified memory gid₁ = true ∧ layout.identified memory gid₂ = true then
        (.ok, some (decide
          (bytes₁ = bytes₂ ∧ layout.behind memory gid₁ = layout.behind memory gid₂)))
      else (.incorrectRmwImplementation, none) := by
  obtain ⟨data₁, data₂⟩ := @dataBytes_fill_both memory _ _ layout _ _ fits₁ fits₂ apart
  have compared : layout.stored bytes₁ ++ layout.behind memory gid₁ =
      layout.stored bytes₂ ++ layout.behind memory gid₂ ↔
      bytes₁ = bytes₂ ∧ layout.behind memory gid₁ = layout.behind memory gid₂ := by
    rw [← layout.stored_inj same]
    have lengths : (layout.stored bytes₁).length = (layout.stored bytes₂).length := by
      simp [stored, same]
    exact ⟨fun equal => List.append_inj equal lengths, fun both => by rw [both.1, both.2]⟩
  simp only [rmwCompareGidsEqual, layout.compared_eq, data₁, data₂,
    layout.identified_fill fits₂ (Or.inr apart.symm), layout.identified_fill fits₁ (Or.inl rfl),
    layout.identified_fill fits₂ (Or.inl rfl), layout.identified_fill fits₁ (Or.inr apart),
    layout.behind_fill fits₂ (Or.inr apart.symm), layout.behind_fill fits₁ (Or.inl rfl),
    layout.behind_fill fits₂ (Or.inl rfl), layout.behind_fill fits₁ (Or.inr apart)]
  cases layout.identified memory gid₁ with
  | false => simp
  | true =>
      cases layout.identified memory gid₂ with
      | false => simp
      | true => simp [compared, beq_eq_decide]

end GidLayout

/-- `rmw_get_gid_for_publisher` on a live publisher fills the data of the gid. -/
theorem rmwGetGidForPublisher_spec (healthy : s.Healthy cfg admits)
    (bound : s.registry.Bound .publisher handle slot)
    (fits : layout.objectIdSize ≤ layout.gidStorageSize) (memory : Memory) :
    rmwGetGidForPublisher layout (some handle) (some gid) memory s =
      .ok (.ok, layout.fill memory gid
        (layout.objectIdBytes slot (s.customPublishers slot).publisherId)) := by
  obtain ⟨contents, -, isData, isRead, named⟩ := healthy.block_of_data bound
  have named' : contents.implementationIdentifier = some eprosimaMicroxrceddsIdentifier :=
    eq_of_beq named
  simp only [rmwGetGidForPublisher, isRead, ok_bind, named', isData, deref]
  rw [if_neg (fun wrong => wrong rfl), if_neg (Nat.not_lt.mpr fits)]
  rfl

/-- The condition under which two gids tell whether their publishers are the same one. -/
def Distinguishes (layout : GidLayout) (s : Rmw) (memory : Memory)
    (handle₁ slot₁ gid₁ handle₂ slot₂ gid₂ : Nat) : Prop :=
  layout.identified memory gid₁ = true ∧ layout.identified memory gid₂ = true ∧
    (handle₁ = handle₂ → layout.behind memory gid₁ = layout.behind memory gid₂) ∧
    (handle₁ ≠ handle₂ → layout.objectIdBytes slot₁ (s.customPublishers slot₁).publisherId ≠
      layout.objectIdBytes slot₂ (s.customPublishers slot₂).publisherId)

/-- After `rmw_get_gid_for_publisher` on two live publishers, `rmw_compare_gids_equal` returns
whether they are the same, by the data alone, if and only if the caller had stored the pointer
to the implementation identifier in both gids, the bytes behind their data do not tell equal
publishers apart, and the object ids tell different ones apart. -/
theorem gids_identify_iff (healthy : s.Healthy cfg admits)
    (bound₁ : s.registry.Bound .publisher handle₁ slot₁)
    (bound₂ : s.registry.Bound .publisher handle₂ slot₂)
    (fits : layout.objectIdSize ≤ layout.gidStorageSize)
    (apart : gid₁ + layout.gidSize ≤ gid₂ ∨ gid₂ + layout.gidSize ≤ gid₁) (memory : Memory) :
    ∃ memory₁ memory₂,
      rmwGetGidForPublisher layout (some handle₁) (some gid₁) memory s = .ok (.ok, memory₁) ∧
      rmwGetGidForPublisher layout (some handle₂) (some gid₂) memory₁ s = .ok (.ok, memory₂) ∧
      ((∃ result, rmwCompareGidsEqual layout (some gid₁) (some gid₂) memory₂ =
          (.ok, some result) ∧ (result = true ↔ handle₁ = handle₂) ∧
          (result = true ↔ layout.dataBytes memory₂ gid₁ = layout.dataBytes memory₂ gid₂)) ↔
        Distinguishes layout s memory handle₁ slot₁ gid₁ handle₂ slot₂ gid₂) := by
  have fits₁ : (layout.objectIdBytes slot₁ (s.customPublishers slot₁).publisherId).length ≤
      layout.gidStorageSize := by rwa [layout.whole]
  have fits₂ : (layout.objectIdBytes slot₂ (s.customPublishers slot₂).publisherId).length ≤
      layout.gidStorageSize := by rwa [layout.whole]
  have same : (layout.objectIdBytes slot₁ (s.customPublishers slot₁).publisherId).length =
      (layout.objectIdBytes slot₂ (s.customPublishers slot₂).publisherId).length := by
    rw [layout.whole, layout.whole]
  have agree : handle₁ = handle₂ →
      layout.objectIdBytes slot₁ (s.customPublishers slot₁).publisherId =
        layout.objectIdBytes slot₂ (s.customPublishers slot₂).publisherId := by
    intro same
    subst same
    have sameSlot : slot₁ = slot₂ := by
      have both := bound₁.symm.trans bound₂
      simpa using both
    rw [sameSlot]
  refine ⟨_, _, rmwGetGidForPublisher_spec healthy bound₁ fits memory,
    rmwGetGidForPublisher_spec healthy bound₂ fits _, ?_⟩
  obtain ⟨data₁, data₂⟩ := @layout.dataBytes_fill_both memory _ _ _ _ fits₁ fits₂ apart
  rw [layout.compare_fill_both fits₁ fits₂ same apart, data₁, data₂, layout.stored_inj same]
  unfold Distinguishes
  by_cases named : layout.identified memory gid₁ = true ∧ layout.identified memory gid₂ = true
  · rw [if_pos named]
    by_cases publishers : handle₁ = handle₂
    · simp [named.1, named.2, publishers, agree publishers]
    · simp only [named.1, named.2, publishers, Prod.mk.injEq, true_and, Option.some.injEq,
        exists_eq_left', decide_eq_true_eq, iff_false, ne_eq, not_false_eq_true, forall_const,
        false_implies]
      by_cases ids : layout.objectIdBytes slot₁ (s.customPublishers slot₁).publisherId =
          layout.objectIdBytes slot₂ (s.customPublishers slot₂).publisherId <;> simp [ids]
  · rw [if_neg named]
    simp only [Prod.mk.injEq, reduceCtorEq, false_and, exists_false, false_iff]
    exact fun distinguishes => named ⟨distinguishes.1, distinguishes.2.1⟩

namespace Small

/-- The byte of an object type, and the padding behind it. -/
def typeBytes : ObjectType → UInt8 × UInt8
  | .participant => (1, 0)
  | .topic => (2, 0)
  | .publisher => (3, 0)
  | .subscriber => (4, 0)
  | .datawriter => (5, 0)
  | .datareader => (6, 0)
  | .requester => (7, 0)
  | .replier => (8, 0)
  | .other raw => (raw, 1)

/-- Every type of object has bytes of its own. -/
theorem typeBytes_injective : Function.Injective typeBytes := by
  intro left right same
  cases left <;> cases right <;> simp_all [typeBytes]

/-- An object id of four bytes. -/
def objectIdBytes (id : ObjectId) : List UInt8 :=
  [UInt8.ofNat (wire id.id), UInt8.ofNat (wire id.id / 256), (typeBytes id.type).1,
    (typeBytes id.type).2]

/-- Object identifiers with the same bytes are the same. -/
theorem objectIdBytes_tells {left right : ObjectId}
    (same : objectIdBytes left = objectIdBytes right) : left.same right = true := by
  simp only [objectIdBytes, List.cons.injEq, and_true] at same
  obtain ⟨low, high, type, padding⟩ := same
  have small : ∀ id : ObjectId, wire id.id < 2 ^ 16 := fun id => Nat.mod_lt _ (by decide)
  have low' := congrArg UInt8.toNat low
  have high' := congrArg UInt8.toNat high
  simp only [UInt8.toNat_ofNat'] at low' high'
  have left' := small left
  have right' := small right
  have words : wire left.id = wire right.id := by omega
  have types := typeBytes_injective (Prod.ext type padding)
  simp [ObjectId.same, words, types]

/-- A gid of 24 data bytes behind a pointer of eight. -/
def gidLayout : GidLayout where
  identifier := [1, 0, 0, 0, 0, 0, 0, 0]
  gidStorageSize := 24
  gidSize := 32
  objectIdSize := 4
  objectIdBytes := fun _ => objectIdBytes
  holds := by decide
  whole := fun _ _ => rfl
  tells := fun _ _ _ _ => objectIdBytes_tells

end Small

namespace Twin

/-- `rmw_create_publisher` on the given node. -/
def publisher (node : Nat) : Op := .createPublisher { Small.publisher with node := some node }

theorem publisher_enabled {w : World} (node : Nat) (live : w.Live .node node) :
    Enabled config w (publisher node) := by
  refine ⟨fun other isNode => ?_, fun _ _ => ⟨Exchange.acceptable_of_quiet rfl,
    Exchange.acceptable_of_quiet rfl, Exchange.acceptable_of_quiet rfl⟩⟩
  cases isNode
  exact live

/-- The layer with one context, its node and a publisher. -/
def publishing : World := step (publisher 0) (step (node 0) (step (init 0) {}))

/-- The layer with two contexts, each with a node and a publisher. -/
def publishers : World := step (publisher 1) (step (node 1) (step (init 1) publishing))

theorem publishers_reachable : Reachable (layer config) (Safe config) publishers := by
  have context : Reachable (layer config) (Safe config) (step (init 0) {}) :=
    reach .start (init_enabled 0) ⟨by decide, by decide, trivial⟩ rfl
  have single : Reachable (layer config) (Safe config) publishing :=
    reach (reach context (node_enabled 0 rfl) ⟨by decide, by decide, trivial⟩ rfl)
      (publisher_enabled 0 ⟨by decide, rfl⟩) ⟨by decide, by decide, trivial⟩ rfl
  have context' : Reachable (layer config) (Safe config) (step (init 1) publishing) :=
    reach single (init_enabled 1) ⟨by decide, by decide, trivial⟩ rfl
  exact reach (reach context' (node_enabled 1 rfl) ⟨by decide, by decide, trivial⟩ rfl)
    (publisher_enabled 1 ⟨by decide, rfl⟩) ⟨by decide, by decide, trivial⟩ rfl

/-- A memory with the identifiers stored in the gids at `0` and at `64`. -/
def named : Memory := fun address => if address = 0 ∨ address = 64 then 1 else 0

end Twin

/-- The publishers of two contexts, in gids with the identifiers stored. -/
theorem gids_identify_iff_small : ∃ memory₁ memory₂,
    rmwGetGidForPublisher Small.gidLayout (some 0) (some 0) Twin.named
      Twin.publishers.rmw = .ok (.ok, memory₁) ∧
    rmwGetGidForPublisher Small.gidLayout (some 1) (some 64) memory₁
      Twin.publishers.rmw = .ok (.ok, memory₂) ∧
    ((∃ result, rmwCompareGidsEqual Small.gidLayout (some 0) (some 64) memory₂ =
        (.ok, some result) ∧ (result = true ↔ 0 = 1) ∧
        (result = true ↔ Small.gidLayout.dataBytes memory₂ 0 =
          Small.gidLayout.dataBytes memory₂ 64)) ↔
      Distinguishes Small.gidLayout Twin.publishers.rmw Twin.named 0 2 0 1 1 64) := by
  obtain ⟨healthy, -⟩ := reachable_sound Twin.publishers_reachable fun _ _ => id
  exact gids_identify_iff healthy (by decide) (by decide) (by decide) (by decide) Twin.named

/-- Whoever hands zeroed gids to `rmw_get_gid_for_publisher` cannot compare them; with the
identifiers stored, a byte behind the data tells a publisher from itself, and the first
publishers of two contexts are taken for the same one. -/
theorem gids_do_not_identify :
    (∃ memory₁ memory₂,
      rmwGetGidForPublisher Small.gidLayout (some 0) (some 0) (fun _ => 0)
        Small.withPublisher.rmw = .ok (.ok, memory₁) ∧
      rmwGetGidForPublisher Small.gidLayout (some 0) (some 64) memory₁
        Small.withPublisher.rmw = .ok (.ok, memory₂) ∧
      rmwCompareGidsEqual Small.gidLayout (some 0) (some 64) memory₂ =
        (.incorrectRmwImplementation, none)) ∧
    (∃ memory₁ memory₂,
      rmwGetGidForPublisher Small.gidLayout (some 0) (some 0)
        (fun address => if address = 0 ∨ address = 64 then 1 else if address = 32 then 7 else 0)
        Small.withPublisher.rmw = .ok (.ok, memory₁) ∧
      rmwGetGidForPublisher Small.gidLayout (some 0) (some 64) memory₁
        Small.withPublisher.rmw = .ok (.ok, memory₂) ∧
      rmwCompareGidsEqual Small.gidLayout (some 0) (some 64) memory₂ = (.ok, some false) ∧
      Small.gidLayout.dataBytes memory₂ 0 = Small.gidLayout.dataBytes memory₂ 64) ∧
    Reachable (layer Twin.config) (fun _ _ => True) Twin.publishers ∧
      ∃ memory₁ memory₂,
        rmwGetGidForPublisher Small.gidLayout (some 0) (some 0)
          Twin.named Twin.publishers.rmw = .ok (.ok, memory₁) ∧
        rmwGetGidForPublisher Small.gidLayout (some 1) (some 64) memory₁
          Twin.publishers.rmw = .ok (.ok, memory₂) ∧
        rmwCompareGidsEqual Small.gidLayout (some 0) (some 64) memory₂ = (.ok, some true) := by
  refine ⟨⟨_, _, rfl, rfl, by decide⟩, ⟨_, _, rfl, rfl, by decide, by decide⟩,
    Twin.publishers_reachable.mono fun _ _ _ => trivial, _, _, rfl, rfl, by decide⟩

end RmwMicroxrcedds
