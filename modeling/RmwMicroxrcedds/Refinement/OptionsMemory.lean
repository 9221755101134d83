import RmwMicroxrcedds.Library.Outcome
import RmwMicroxrcedds.Library.Ownership
import RmwMicroxrcedds.Library.Traces
import RmwMicroxrcedds.Model.OptionsMemory

/-! # Options as values

Options are meant to be values: a variable holds its own transport parameters, and copying
options copies them. The functions on options in memory do what is asked for here of values, as
long as each block on the heap belongs to exactly one variable, which they see to.
-/

namespace RmwMicroxrcedds

open Component Ownership Outcome

/-- The values of the variables, and the default parameters of the custom transport. -/
structure OptionValues where
  values : Nat → OptionsRecord ImplBlock := fun _ => {}
  defaultParams : CustomTransport := {}

/-- Other parameters in the same block. -/
def OptionsRecord.write (record : OptionsRecord ImplBlock) (params : Option TransportParams) :
    OptionsRecord ImplBlock :=
  match record.impl, params with
  | some block, some params => record.withImpl (some { block with params := params })
  | _, _ => record

namespace OptionValues

/-- An assignment. -/
def set (o : OptionValues) (options : Nat) (record : OptionsRecord ImplBlock) : OptionValues :=
  { o with values := Function.update o.values options record }

/-- The build options, with the default parameters as they are. -/
def config (o : OptionValues) (cfg : TransportConfig) : TransportConfig :=
  { cfg with transportDefaultParams := o.defaultParams }

/-- A change of the parameters in a variable. -/
def access {Result : Type} (run : RmwInitOptions → Exec (Result × RmwInitOptions))
    (options : Nat) (o : OptionValues) : OptionsExec (Result × OptionValues) := do
  let (result, after) ← ofExec (run (o.values options).view)
  .ok (result, o.set options ((o.values options).write after.impl))

/-- What initialising a zeroed variable assigns to it. -/
def initialise (cfg : TransportConfig) (options : Nat) (allocator : RcutilsAllocator)
    (initially : Option TransportParams) (keys : List (BitVec 32)) (o : OptionValues) :
    OptionsExec (RmwRet × OptionValues) := do
  let (ret, after) ← ofExec (rmwInitOptionsInit (o.config cfg) (some {}) true initially keys)
  .ok (ret, o.set options (.initial allocator
    ((after.bind RmwInitOptions.impl).map (ImplBlock.mk allocator.heap))))

/-- What copying assigns to a zeroed variable: the same values, in a block of the default heap. -/
def assign (src dst : Nat) (allocated : Bool) (o : OptionValues) :
    OptionsExec (RmwRet × OptionValues) :=
  match (o.values src).impl, allocated with
  | some block, true =>
      .ok (.ok, o.set dst ((o.values src).withImpl
        (some { block with heap := rcutilsGetDefaultAllocator.heap })))
  | _, _ => .error (.layer .nullDereference)

/-- Initialising options. -/
def init (cfg : TransportConfig) (options : Option Nat) (allocator : RcutilsAllocator)
    (initially : Option TransportParams) (keys : List (BitVec 32)) (o : OptionValues) :
    OptionsExec (RmwRet × OptionValues) :=
  match options with
  | none => .ok (.invalidArgument, o)
  | some options =>
      if allocator.isValid && (o.values options).implementationIdentifier.isNone then
        o.initialise cfg options allocator initially keys
      else .ok (.invalidArgument, o)

/-- Copying options. -/
def copy (src dst : Option Nat) (allocated : Bool) (o : OptionValues) :
    OptionsExec (RmwRet × OptionValues) :=
  match src, dst with
  | some src, some dst => do
      if ← ofExec (checkTypeIdentifiersMatch (o.values src).implementationIdentifier) then
        if (o.values dst).implementationIdentifier.isNone then o.assign src dst allocated
        else .ok (.invalidArgument, o)
      else .ok (.incorrectRmwImplementation, o)
  | _, _ => .ok (.invalidArgument, o)

/-- Finalising options. -/
def fini (options : Option Nat) (o : OptionValues) : OptionsExec (RmwRet × OptionValues) :=
  match options with
  | none => .ok (.invalidArgument, o)
  | some options =>
      if (o.values options).allocator.isValid then do
        if ← ofExec (checkTypeIdentifiersMatch (o.values options).implementationIdentifier) then
          if ∀ block, (o.values options).impl = some block →
              block.heap = rcutilsGetDefaultAllocator.heap then
            .ok (.ok, o.set options {})
          else .error .foreignBlock
        else .ok (.incorrectRmwImplementation, o)
      else .ok (.invalidArgument, o)

/-- Setting the default parameters of the custom transport. -/
def setCustomTransport (params : CustomTransport) (o : OptionValues) : RmwRet × OptionValues :=
  if params.openCb.isSome && params.closeCb.isSome && params.writeCb.isSome &&
      params.readCb.isSome then
    (.ok, { o with defaultParams := params })
  else (.invalidArgument, o)

/-- Changing the parameters. -/
def change (call : Option RmwInitOptions → Exec (RmwRet × Option RmwInitOptions))
    (options : Option Nat) (o : OptionValues) : OptionsExec (RmwRet × OptionValues) :=
  match options with
  | none => do
      let (ret, _) ← ofExec (call none)
      .ok (ret, o)
  | some options =>
      o.access (fun old => do
        let (ret, after) ← call (some old)
        .ok (ret, after.getD old)) options

/-- Opening a connection. -/
def rmwInit (cfg : TransportConfig) (options : Option Nat) (o : OptionValues) :
    OptionsExec (OptionsAnswer × OptionValues) :=
  match options with
  | none => .ok ((.invalidArgument, none), o)
  | some options =>
      match (o.values options).impl with
      | none => .ok ((.invalidArgument, none), o)
      | some block => do
          if ← ofExec (checkTypeIdentifiersMatch (o.values options).implementationIdentifier) then
            .ok ((.ok, some
              { instanceId := (o.values options).instanceId
                domainId := (o.values options).domainId
                endpoint := rmwUxrceTransportInit (o.config cfg) (some block.params)
                clientKey := block.params.clientKey }), o)
          else .ok ((.incorrectRmwImplementation, none), o)

/-- What a call does with values. -/
def call (cfg : TransportConfig) : OptionsCall → OptionValues →
    OptionsExec (OptionsAnswer × OptionValues)
  | .init options allocator allocation keys, o => do
      let (ret, o) ← o.init cfg options allocator (allocation.map Prod.snd) keys
      .ok ((ret, none), o)
  | .copy src dst allocation, o => do
      let (ret, o) ← o.copy src dst allocation.isSome
      .ok ((ret, none), o)
  | .fini options, o => do
      let (ret, o) ← o.fini options
      .ok ((ret, none), o)
  | .setCustomTransport params, o =>
      let (ret, o) := o.setCustomTransport params
      .ok ((ret, none), o)
  | .change change options, o => do
      let (ret, o) ← o.change (change.run (o.config cfg)) options
      .ok ((ret, none), o)
  | .rmwInit options, o => o.rmwInit cfg options

end OptionValues

/-- The options are the same but for what is in the block. -/
structure SameMembers (options after : RmwInitOptions) : Prop where
  members : after = { options with impl := after.impl }
  block : after.impl.isSome = options.impl.isSome

variable {options after last : RmwInitOptions} {ret : RmwRet} {cfg : TransportConfig}

theorem SameMembers.refl (options : RmwInitOptions) : SameMembers options options := ⟨rfl, rfl⟩

/-- Members that are the same twice are the same. -/
theorem SameMembers.trans (first : SameMembers options after) (second : SameMembers after last) :
    SameMembers options last where
  members := by
    rw [second.members, first.members]
  block := second.block.trans first.block

/-- Changing the transport parameters changes no other member. -/
theorem sameMembers_modifyParams {change : TransportParams → TransportParams}
    (returned : options.modifyParams change = .ok after) : SameMembers options after := by
  unfold RmwInitOptions.modifyParams at returned
  split at returned
  · rename_i params isParams
    cases returned
    exact ⟨rfl, by simp [isParams]⟩
  · cases returned

/-- Neither does setting the serial device. -/
theorem setSerialDevice_sameMembers {dev : Option CString}
    (returned : setSerialDevice dev options = .ok (ret, after)) : SameMembers options after := by
  unfold setSerialDevice at returned
  split at returned
  · split at returned
    · obtain ⟨next, changed, same⟩ := bind_eq_ok.mp returned
      cases same
      exact sameMembers_modifyParams changed
    · cases returned
      exact .refl _
  · cases returned
    exact .refl _

/-- Neither does setting the address. -/
theorem setUdpAddress_sameMembers {ipv6 : Bool} {ip port : Option CString}
    (returned : setUdpAddress ipv6 ip port options = .ok (ret, after)) :
    SameMembers options after := by
  unfold setUdpAddress at returned
  split at returned
  · split at returned
    · obtain ⟨addressed, changed, returned⟩ := bind_eq_ok.mp returned
      have first := sameMembers_modifyParams changed
      split at returned
      · split at returned
        · obtain ⟨next, changed', same⟩ := bind_eq_ok.mp returned
          cases same
          exact first.trans (sameMembers_modifyParams changed')
        · cases returned
          exact first
      · cases returned
        exact first
    · cases returned
      exact .refl _
  · cases returned
    exact .refl _

/-- Neither does opening the transport. -/
theorem initTransport_sameMembers (returned : initTransport cfg options = .ok (ret, after)) :
    SameMembers options after := by
  unfold initTransport at returned
  split at returned
  · exact setSerialDevice_sameMembers returned
  · exact setUdpAddress_sameMembers returned
  · obtain ⟨next, changed, same⟩ := bind_eq_ok.mp returned
    cases same
    exact sameMembers_modifyParams changed

namespace OptionsRecord

variable {record : OptionsRecord ImplBlock} {params : Option TransportParams}

/-- What was run on the options is what is there afterwards. -/
theorem view_write (same : SameMembers record.view after) :
    (record.write after.impl).view = after := by
  obtain ⟨members, block⟩ := same
  rw [members]
  cases isImpl : record.impl with
  | none =>
      rw [view, isImpl] at block
      cases isAfter : after.impl with
      | none => simp [write, view, isImpl]
      | some params => simp [isAfter] at block
  | some old =>
      rw [view, isImpl] at block
      cases isAfter : after.impl with
      | none => simp [isAfter] at block
      | some params => simp [write, view, isImpl, withImpl]

/-- New parameters in a block of a heap. -/
theorem write_of_block {heap : Option Nat × Option Nat} {initially : Option TransportParams}
    (isImpl : record.impl = initially.map (ImplBlock.mk heap))
    (same : params.isSome = initially.isSome) :
    record.write params = record.withImpl (params.map (ImplBlock.mk heap)) := by
  cases initially with
  | none =>
      rw [Option.isSome_none, Option.isSome_eq_false_iff, Option.isNone_iff_eq_none] at same
      cases record
      subst isImpl
      subst same
      rfl
  | some old =>
      obtain ⟨new, isNew⟩ := Option.isSome_iff_exists.mp same
      simp [write, isImpl, isNew]

end OptionsRecord

namespace OptionValues

variable {o : OptionValues} {allocator : RcutilsAllocator} {initially : Option TransportParams}
variable {keys : List (BitVec 32)}

/-- What was set is there. -/
@[simp] theorem set_values (o : OptionValues) (options : Nat) (record : OptionsRecord ImplBlock) :
    (o.set options record).values options = record := by
  simp [set]

/-- The last record that is set counts. -/
@[simp] theorem set_set (o : OptionValues) (options : Nat)
    (record record' : OptionsRecord ImplBlock) :
    (o.set options record).set options record' = o.set options record' := by
  simp [set]

/-- Initialising options step by step: the members, the transport, and the key. -/
theorem initialise_eq (o : OptionValues) (options : Nat) :
    o.initialise cfg options allocator initially keys = (do
      let o' := o.set options (.initial allocator (initially.map (ImplBlock.mk allocator.heap)))
      let (ret, o') ← o'.access (initTransport (o.config cfg)) options
      if ret = .ok then
        match keys.find? (· ≠ 0) with
        | some key =>
            o'.access (fun old => do
              let old ← old.modifyParams fun params => { params with clientKey := key }
              .ok (.ok, old)) options
        | none => .error (.layer .divergence)
      else .ok (ret, o')) := by
  set block := initially.map (ImplBlock.mk allocator.heap) with isBlock
  have isView : (OptionsRecord.initial allocator block).view =
      { instanceId := 0
        implementationIdentifier := some eprosimaMicroxrceddsIdentifier
        enclave := some (cstr "/")
        domainId := 0
        impl := initially } := by
    cases initially <;> simp [OptionsRecord.view, OptionsRecord.initial, isBlock]
  simp only [initialise, access, rmwInitOptionsInit, Option.isNone_none, Bool.and_self, if_true,
    set_values, set_set, isView]
  cases runs : initTransport (o.config cfg) _ with
  | error fault => rfl
  | ok outcome =>
      obtain ⟨ret, after⟩ := outcome
      have same := initTransport_sameMembers runs
      have viewed : ((OptionsRecord.initial allocator block).write after.impl).view = after :=
        OptionsRecord.view_write (isView ▸ same)
      have written : (OptionsRecord.initial allocator block).write after.impl =
          .initial allocator (after.impl.map (ImplBlock.mk allocator.heap)) :=
        OptionsRecord.write_of_block isBlock same.block
      simp only [ofExec, ok_bind]
      by_cases isOk : ret = .ok
      · rw [if_pos isOk, if_pos isOk]
        cases keys.find? (· ≠ 0) with
        | none => rfl
        | some key =>
            simp only [set_values, set_set, viewed]
            cases changed : after.modifyParams fun old => { old with clientKey := key } with
            | error fault => rfl
            | ok last =>
                have rewritten := OptionsRecord.write_of_block
                  (congrArg OptionsRecord.impl written) (sameMembers_modifyParams changed).block
                simp only [ok_bind]
                rw [rewritten, written]
                rfl
      · rw [if_neg isOk, if_neg isOk, written]
        rfl

/-- Copying options step by step: the members, and the parameters. -/
theorem assign_eq (o : OptionValues) {src : Nat} {block : ImplBlock} (dst : Nat)
    (isImpl : (o.values src).impl = some block) (allocated : Option TransportParams) :
    (o.set dst ((o.values src).withImpl
      (allocated.map (ImplBlock.mk rcutilsGetDefaultAllocator.heap)))).access (fun old => do
        let old ← old.modifyParams fun _ => block.params
        .ok (RmwRet.ok, old)) dst =
      o.assign src dst allocated.isSome := by
  cases allocated <;>
    simp [assign, isImpl, access, OptionsRecord.view, OptionsRecord.withImpl, OptionsRecord.write,
      RmwInitOptions.modifyParams, ofExec, bind, Except.bind]

end OptionValues

namespace OptionsMemory

variable {m : OptionsMemory} {options address : Nat} {cfg : TransportConfig}
variable {allocator : RcutilsAllocator} {allocation : Allocation}

/-- The pointers of the variables. -/
def pointers (m : OptionsMemory) (options : Nat) : Option Nat := (m.options options).impl

/-- The options in a variable, with the block behind `impl`. -/
def read (m : OptionsMemory) (options : Nat) : OptionsRecord ImplBlock :=
  (m.options options).withImpl (content m.pointers m.blocks options)

/-- The memory as values. -/
def values (m : OptionsMemory) : OptionValues where
  values := m.read
  defaultParams := m.defaultParams

/-- Each block belongs to exactly one variable, and none to options that are zeroed. -/
structure Owned (m : OptionsMemory) : Prop where
  owns : Owns m.pointers m.blocks
  zeroed : ∀ options, (m.options options).implementationIdentifier = none →
    (m.options options).impl = none

/-- What an allocator returns is not in use. -/
def Free (m : OptionsMemory) (allocation : Allocation) : Prop :=
  ∀ address params, allocation = some (address, params) → m.blocks address = none

/-- The memory is owned, and has these values. -/
structure Represents (m : OptionsMemory) (o : OptionValues) : Prop where
  owned : m.Owned
  values : m.values = o

/-- Memory in which every block has an owner represents the values it holds. -/
theorem Owned.represents (owned : m.Owned) : m.Represents m.values := ⟨owned, rfl⟩

/-- At the start there is no block. -/
theorem owned_start : ({} : OptionsMemory).Owned := ⟨owns_none, fun _ _ => rfl⟩

@[simp] theorem values_values (m : OptionsMemory) : m.values.values = m.read := rfl

@[simp] theorem read_implementationIdentifier (m : OptionsMemory) (options : Nat) :
    (m.read options).implementationIdentifier = (m.options options).implementationIdentifier := rfl

@[simp] theorem read_allocator (m : OptionsMemory) (options : Nat) :
    (m.read options).allocator = (m.options options).allocator := rfl

/-- The implementation of a variable is what its pointer leads to. -/
theorem read_impl (m : OptionsMemory) (options : Nat) :
    (m.read options).impl = content m.pointers m.blocks options := rfl

/-- Memory with other variables and other blocks, as values. -/
theorem values_eq_set (m : OptionsMemory) (options : Nat) (record : OptionsRecord Nat)
    (blocks : Nat → Option ImplBlock) (block : Option ImplBlock)
    (same : content (Function.update m.pointers options record.impl) blocks =
      Function.update (content m.pointers m.blocks) options block) :
    values { m with options := Function.update m.options options record, blocks := blocks } =
      m.values.set options (record.withImpl block) := by
  have pointers : OptionsMemory.pointers
      { m with options := Function.update m.options options record, blocks := blocks } =
      Function.update m.pointers options record.impl := by
    funext other
    by_cases isHere : other = options
    · simp [OptionsMemory.pointers, isHere]
    · simp [OptionsMemory.pointers, isHere]
  simp only [values, OptionValues.set, OptionValues.mk.injEq, and_true]
  funext other
  rw [read, pointers, same]
  by_cases isHere : other = options
  · simp [isHere]
  · simp [isHere, read]

namespace Owned

/-- A pointer that is not null can be followed. -/
theorem load (owned : m.Owned) (options : Nat) : m.load options = .ok (m.read options) := by
  unfold OptionsMemory.load OptionsMemory.read content OptionsMemory.pointers
  cases isAddress : (m.options options).impl with
  | none => rfl
  | some address =>
      have live := owned.owns.live options address isAddress
      obtain ⟨block, isBlock⟩ := Option.isSome_iff_exists.mp live
      simp [isBlock]

/-- A zeroed variable has a null pointer. -/
theorem null (owned : m.Owned) (zeroed : (m.options options).implementationIdentifier = none) :
    m.pointers options = none :=
  owned.zeroed options zeroed

/-- New contents of the block of a variable. -/
theorem write (owned : m.Owned) (options : Nat) (params : Option TransportParams) :
    (m.write options params).Represents (m.values.set options ((m.read options).write params)) := by
  have unchanged : m.values.set options (m.read options) = m.values := by
    simp [OptionValues.set, values]
  cases isAddress : (m.options options).impl with
  | none =>
      have null : m.pointers options = none := isAddress
      have same : m.write options params = m := by simp [OptionsMemory.write, isAddress]
      have sameRecord : (m.read options).write params = m.read options := by
        simp [OptionsRecord.write, read_impl, content_of_null null]
      rw [same, sameRecord, unchanged]
      exact owned.represents
  | some address =>
      have pointer : m.pointers options = some address := isAddress
      obtain ⟨block, isBlock⟩ := Option.isSome_iff_exists.mp (owned.owns.live _ _ pointer)
      have isImpl : (m.read options).impl = some block := by
        rw [read_impl, content_of_pointer pointer, isBlock]
      cases params with
      | none =>
          have same : m.write options none = m := by simp [OptionsMemory.write, isAddress]
          have sameRecord : (m.read options).write none = m.read options := by
            simp [OptionsRecord.write, isImpl]
          rw [same, sameRecord, unchanged]
          exact owned.represents
      | some params =>
          have same : m.write options (some params) =
              { m with
                blocks := Function.update m.blocks address
                  (some { block with params := params }) } := by
            simp [OptionsMemory.write, isAddress, isBlock]
          have isRecord : (m.read options).write (some params) =
              (m.options options).withImpl (some { block with params := params }) := by
            simp only [OptionsRecord.write, isImpl]
            rfl
          rw [same, isRecord]
          refine ⟨⟨owned.owns.write pointer, owned.zeroed⟩, ?_⟩
          have here : content m.pointers
              (Function.update m.blocks address (some { block with params := params })) = _ :=
            owned.owns.content_write pointer
          have stored := values_eq_set m options (m.options options)
            (Function.update m.blocks address (some { block with params := params }))
            (some { block with params := params }) (by
              rw [show (m.options options).impl = m.pointers options from rfl,
                Function.update_eq_self]
              exact here)
          rwa [Function.update_eq_self] at stored

/-- A block for options that are not in use, and what is stored there. -/
theorem allocate (owned : m.Owned) (free : m.Free allocation)
    (zeroed : (m.options options).implementationIdentifier = none) (record : OptionsRecord Nat)
    (named : record.implementationIdentifier.isSome = true) :
    ((m.allocate allocator allocation).set options
      (record.withImpl (allocation.map Prod.fst))).Represents
      (m.values.set options (record.withImpl
        (allocation.map fun block => { heap := allocator.heap, params := block.2 }))) := by
  have null := owned.null zeroed
  have nothing : ∀ other, (Function.update m.options options
      (record.withImpl (allocation.map Prod.fst)) other).implementationIdentifier = none →
      (Function.update m.options options (record.withImpl (allocation.map Prod.fst)) other).impl =
        none := by
    intro other unnamed
    by_cases isHere : other = options
    · rw [isHere, Function.update_self] at unnamed
      exact (Option.isSome_iff_ne_none.mp named unnamed).elim
    · rw [Function.update_of_ne isHere] at unnamed ⊢
      exact owned.zeroed other unnamed
  have pointers : OptionsMemory.pointers ((m.allocate allocator allocation).set options
      (record.withImpl (allocation.map Prod.fst))) =
      Function.update m.pointers options (allocation.map Prod.fst) := by
    funext other
    by_cases isHere : other = options
    · simp [OptionsMemory.pointers, OptionsMemory.set, isHere, OptionsRecord.withImpl]
    · cases allocation <;>
        simp [OptionsMemory.pointers, OptionsMemory.set, OptionsMemory.allocate, isHere]
  cases allocation with
  | none =>
      have unchanged : Function.update m.pointers options none = m.pointers := by
        rw [← null, Function.update_eq_self]
      refine ⟨⟨?_, nothing⟩, ?_⟩
      · rw [pointers, Option.map_none, unchanged]
        exact owned.owns
      · refine values_eq_set m options (record.withImpl none) m.blocks none ?_
        rw [show (record.withImpl (none : Option Nat)).impl = none from rfl, unchanged,
          update_content_of_null null]
  | some block =>
      obtain ⟨address, params⟩ := block
      have isFree := free address params rfl
      refine ⟨⟨?_, nothing⟩, ?_⟩
      · rw [pointers]
        exact owned.owns.allocate null isFree
      · exact values_eq_set m options (record.withImpl (some address)) _ (some _)
          (owned.owns.content_allocate isFree)

/-- Options are zeroed, and their block is freed. -/
theorem release (owned : m.Owned) (options : Nat) :
    Alike Represents
      (do
        let m' ← m.rmwFree (m.options options).impl
        .ok (RmwRet.ok, m'.set options {}))
      (if ∀ block, (m.read options).impl = some block →
          block.heap = rcutilsGetDefaultAllocator.heap then
        .ok (RmwRet.ok, m.values.set options {})
      else .error OptionsFault.foreignBlock) := by
  have nothing : ∀ other, (Function.update m.options options {} other).implementationIdentifier =
      none → (Function.update m.options options {} other).impl = none := by
    intro other unnamed
    by_cases isHere : other = options
    · rw [isHere, Function.update_self]
    · rw [Function.update_of_ne isHere] at unnamed ⊢
      exact owned.zeroed other unnamed
  have pointers : ∀ blocks, OptionsMemory.pointers
      { m with options := Function.update m.options options {}, blocks := blocks } =
      Function.update m.pointers options none := by
    intro blocks
    funext other
    by_cases isHere : other = options
    · simp [OptionsMemory.pointers, isHere]
    · simp [OptionsMemory.pointers, isHere]
  cases isAddress : (m.options options).impl with
  | none =>
      have null : m.pointers options = none := isAddress
      have unchanged : Function.update m.pointers options none = m.pointers := by
        rw [← null, Function.update_eq_self]
      have isImpl : (m.read options).impl = none := by rw [read_impl, content_of_null null]
      rw [if_pos (by simp [isImpl])]
      refine .returns ⟨⟨?_, nothing⟩, ?_⟩
      · rw [OptionsMemory.set, pointers, unchanged]
        exact owned.owns
      · refine values_eq_set m options {} m.blocks none ?_
        rw [unchanged, update_content_of_null null]
  | some address =>
      have pointer : m.pointers options = some address := isAddress
      obtain ⟨block, isBlock⟩ := Option.isSome_iff_exists.mp (owned.owns.live _ _ pointer)
      have isImpl : (m.read options).impl = some block := by
        rw [read_impl, content_of_pointer pointer, isBlock]
      by_cases isDefault : block.heap = rcutilsGetDefaultAllocator.heap
      · rw [if_pos (by simpa [isImpl] using isDefault)]
        simp only [rmwFree, isBlock, if_pos isDefault, ok_bind]
        refine .returns ⟨⟨?_, nothing⟩, ?_⟩
        · rw [OptionsMemory.set, pointers]
          exact owned.owns.release pointer
        · exact values_eq_set m options {} _ none (owned.owns.content_release pointer)
      · rw [if_neg (by simpa [isImpl] using isDefault)]
        simp only [rmwFree, isBlock, if_neg isDefault]
        exact .faults _

/-- A computation on the options in a variable. -/
theorem access {Result : Type} (owned : m.Owned)
    (run : RmwInitOptions → Exec (Result × RmwInitOptions)) (options : Nat) :
    Alike Represents (m.access run options) (m.values.access run options) := by
  simp only [OptionsMemory.access, OptionValues.access, owned.load, ok_bind]
  have sameView : (m.values.values options).view = (m.read options).view := rfl
  rw [sameView]
  cases run (m.read options).view with
  | error fault => exact .faults _
  | ok outcome => exact .returns (owned.write options outcome.2.impl)

end Owned

/-- An access to one variable is the same in memory and on values. -/
theorem Represents.access {Result : Type} {o : OptionValues} (represents : m.Represents o)
    (run : RmwInitOptions → Exec (Result × RmwInitOptions)) (options : Nat) :
    Alike Represents (m.access run options) (o.access run options) :=
  represents.values ▸ represents.owned.access run options

/-- After a check of the same identifier both go on alike. -/
theorem alike_of_check {Result : Type} {identifier : Option String}
    {next other : OptionsExec (Result × OptionsMemory)}
    {next' other' : OptionsExec (Result × OptionValues)}
    (ours : identifier = some eprosimaMicroxrceddsIdentifier → Alike Represents next next')
    (others : Alike Represents other other') :
    Alike Represents (do if ← ofExec (checkTypeIdentifiersMatch identifier) then next else other)
      (do if ← ofExec (checkTypeIdentifiersMatch identifier) then next' else other') := by
  cases identifier with
  | none => exact .faults _
  | some id =>
      simp only [checkTypeIdentifiersMatch, ofExec, ok_bind]
      by_cases same : id = eprosimaMicroxrceddsIdentifier
      · simpa [same] using ours (congrArg some same)
      · simpa [same] using others

namespace Owned

/-- `rmw_init_options_init` is the same in memory and on values. -/
theorem rmwInitOptionsInit (owned : m.Owned) (free : m.Free allocation) (options : Option Nat)
    (keys : List (BitVec 32)) :
    Alike Represents (m.rmwInitOptionsInit cfg options allocator allocation keys)
      (m.values.init cfg options allocator (allocation.map Prod.snd) keys) := by
  cases options with
  | none => exact .returns owned.represents
  | some options =>
      simp only [OptionsMemory.rmwInitOptionsInit, OptionValues.init]
      by_cases valid : allocator.isValid = true
      · obtain zeroed | ⟨id, named⟩ :=
          (m.options options).implementationIdentifier.eq_none_or_eq_some
        · have started := @allocate m options allocator allocation owned free zeroed
            (.initial allocator none) rfl
          have sameConfig : ((m.allocate allocator allocation).set options
              (.initial allocator (allocation.map Prod.fst))).config cfg = m.values.config cfg := by
            cases allocation <;> rfl
          rw [if_neg (by simp [valid]), if_neg (by simp [zeroed]), if_pos (by simp [valid, zeroed]),
            OptionValues.initialise_eq, Option.map_map, sameConfig]
          refine (started.access (initTransport (m.values.config cfg)) options).bind ?_
          intro ret next o both
          dsimp only
          by_cases isOk : ret = .ok
          · simp only [if_pos isOk]
            cases keys.find? (· ≠ 0) with
            | none => exact .faults _
            | some key => exact both.access _ options
          · simp only [if_neg isOk]
            exact .returns both
        · rw [if_neg (by simp [valid]), if_pos (by simp [named]), if_neg (by simp [named])]
          exact .returns owned.represents
      · rw [if_pos (by simp [valid]), if_neg (by simp [valid])]
        exact .returns owned.represents

/-- So is `rmw_init_options_copy`. -/
theorem rmwInitOptionsCopy (owned : m.Owned) (free : m.Free allocation) (src dst : Option Nat) :
    Alike Represents (m.rmwInitOptionsCopy src dst allocation)
      (m.values.copy src dst allocation.isSome) := by
  cases src with
  | none => exact .returns owned.represents
  | some src =>
      cases dst with
      | none => exact .returns owned.represents
      | some dst =>
          refine alike_of_check (fun named => ?_) (.returns owned.represents)
          have named : (m.options src).implementationIdentifier = _ := named
          obtain zeroed | ⟨id, inUse⟩ := (m.options dst).implementationIdentifier.eq_none_or_eq_some
          · have different : src ≠ dst := by
              rintro rfl
              rw [named] at zeroed
              cases zeroed
            have stored := @allocate m dst rcutilsGetDefaultAllocator allocation owned free
              zeroed (m.options src) (by rw [named]; rfl)
            have source : (m.values.set dst ((m.options src).withImpl
                (allocation.map fun block =>
                  { heap := rcutilsGetDefaultAllocator.heap, params := block.2 }))).values src =
                m.read src := by
              simp [OptionValues.set, different]
            rw [if_neg (by simp [zeroed]), if_pos (by simp [zeroed])]
            simp only [stored.owned.load, ok_bind]
            rw [show ∀ m : OptionsMemory, m.read src = m.values.values src from fun _ => rfl,
              stored.values, source]
            cases isImpl : (m.read src).impl with
            | none =>
                have nothing : m.values.assign src dst allocation.isSome =
                    .error (.layer .nullDereference) := by
                  simp [OptionValues.assign, isImpl]
                rw [nothing]
                exact .faults _
            | some block =>
                have copied := m.values.assign_eq dst isImpl (allocation.map Prod.snd)
                rw [Option.isSome_map] at copied
                rw [← copied, Option.map_map]
                exact stored.access _ dst
          · rw [if_pos (by simp [inUse]), if_neg (by simp [inUse])]
            exact .returns owned.represents

/-- So is `rmw_init_options_fini`. -/
theorem rmwInitOptionsFini (owned : m.Owned) (options : Option Nat) :
    Alike Represents (m.rmwInitOptionsFini options) (m.values.fini options) := by
  cases options with
  | none => exact .returns owned.represents
  | some options =>
      simp only [OptionsMemory.rmwInitOptionsFini, OptionValues.fini, values_values,
        read_implementationIdentifier, read_allocator]
      by_cases valid : (m.options options).allocator.isValid = true
      · simp only [valid, Bool.not_true, Bool.false_eq_true, if_false, if_true]
        exact alike_of_check (fun _ => owned.release options) (.returns owned.represents)
      · simp only [Bool.eq_false_iff.mpr valid, Bool.not_false, if_true, Bool.false_eq_true,
          if_false]
        exact .returns owned.represents

/-- So is `rmw_uros_set_custom_transport`. -/
theorem rmwUrosSetCustomTransport (owned : m.Owned) (params : CustomTransport) :
    (m.rmwUrosSetCustomTransport params).1 = (m.values.setCustomTransport params).1 ∧
      (m.rmwUrosSetCustomTransport params).2.Represents
        (m.values.setCustomTransport params).2 := by
  unfold OptionsMemory.rmwUrosSetCustomTransport OptionValues.setCustomTransport
  split
  · exact ⟨rfl, ⟨owned.owns, owned.zeroed⟩, rfl⟩
  · exact ⟨rfl, owned.represents⟩

/-- So is every function that changes the parameters of one variable. -/
theorem change (owned : m.Owned)
    (call : Option RmwInitOptions → Exec (RmwRet × Option RmwInitOptions)) (options : Option Nat) :
    Alike Represents (m.change call options) (m.values.change call options) := by
  cases options with
  | none =>
      unfold OptionsMemory.change OptionValues.change
      cases call none with
      | error fault => exact .faults _
      | ok outcome => exact .returns owned.represents
  | some options =>
      unfold OptionsMemory.change OptionValues.change
      exact owned.access _ options

/-- So is the part of `rmw_init` that reads the options. -/
theorem rmwInit (owned : m.Owned) (options : Option Nat) :
    Alike Represents (do
      let answer ← m.rmwInit cfg options
      .ok (answer, m)) (m.values.rmwInit cfg options) := by
  cases options with
  | none => exact .returns owned.represents
  | some options =>
      simp only [OptionsMemory.rmwInit, OptionValues.rmwInit, owned.load, ok_bind]
      cases isAddress : (m.options options).impl with
      | none =>
          have null : m.pointers options = none := isAddress
          have isImpl : (m.read options).impl = none := content_of_null null
          rw [show m.values.values options = m.read options from rfl, isImpl]
          exact .returns owned.represents
      | some address =>
          obtain ⟨block, isBlock⟩ :=
            Option.isSome_iff_exists.mp (owned.owns.live options address isAddress)
          have pointer : m.pointers options = some address := isAddress
          have isImpl : (m.read options).impl = some block :=
            (content_of_pointer pointer).trans isBlock
          rw [if_neg (by simp), show m.values.values options = m.read options from rfl, isImpl]
          rw [read_implementationIdentifier]
          cases ofExec (checkTypeIdentifiersMatch (m.options options).implementationIdentifier) with
          | error fault => exact .faults _
          | ok ours => cases ours <;> exact .returns owned.represents

end Owned

end OptionsMemory

/-- What an allocator returns during a call was not in use. -/
def OptionsCall.Sound (m : OptionsMemory) : OptionsCall → Prop
  | .init _ _ allocation _ | .copy _ _ allocation => m.Free allocation
  | .fini _ | .setCustomTransport _ | .change _ _ | .rmwInit _ => True

/-- Options in memory. -/
def optionsInMemory (cfg : TransportConfig) (allowed : OptionsMemory → OptionsCall → Prop) :
    Component OptionsMemory OptionsCall OptionsAnswer OptionsFault where
  call := OptionsMemory.call cfg
  allowed := fun m call => call.Sound m ∧ allowed m call

/-- Options as values. -/
def optionsAsValues (cfg : TransportConfig) :
    Component OptionValues OptionsCall OptionsAnswer OptionsFault where
  call := OptionValues.call cfg
  allowed := fun _ _ => True

open OptionsMemory

/-- Each call goes as it goes on values. -/
theorem options_call_alike {m : OptionsMemory} {o : OptionValues} {call : OptionsCall}
    (represents : m.Represents o) (sound : call.Sound m) :
    Alike Represents (m.call cfg call) (o.call cfg call) := by
  obtain ⟨owned, rfl⟩ := represents
  cases call with
  | init options allocator allocation keys =>
      exact (owned.rmwInitOptionsInit sound options keys).bind fun both => .returns both
  | copy src dst allocation =>
      exact (owned.rmwInitOptionsCopy sound src dst).bind fun both => .returns both
  | fini options => exact (owned.rmwInitOptionsFini options).bind fun both => .returns both
  | setCustomTransport params =>
      obtain ⟨sameRet, both⟩ := owned.rmwUrosSetCustomTransport params
      simp only [OptionsMemory.call, OptionValues.call, sameRet]
      exact .returns both
  | change change options =>
      exact (owned.change (change.run (m.config cfg)) options).bind fun both => .returns both
  | rmwInit options => exact owned.rmwInit options

/-- Options in memory simulate options as values. -/
theorem optionsInMemory_simulates (allowed : OptionsMemory → OptionsCall → Prop) :
    Simulates (optionsInMemory cfg allowed) (optionsAsValues cfg) Represents :=
  simulates_of_alike (fun _ _ => trivial) fun represents sound =>
    options_call_alike represents sound.1

end RmwMicroxrcedds
