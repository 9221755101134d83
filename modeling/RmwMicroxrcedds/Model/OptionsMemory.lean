import Mathlib.Logic.Function.Basic
import RmwMicroxrcedds.Model.Options

/-! # Options in memory

`rmw_init.c` and `custom_transport.c`: the options in the variables of an application, and the
blocks on the heap behind their `impl`. Initialising and copying options allocates a block, and
finalising them frees it.
-/

namespace RmwMicroxrcedds

/-- `rcutils_allocator_t`: its functions, and its state. -/
structure RcutilsAllocator where
  allocate : Option Nat := none
  deallocate : Option Nat := none
  reallocate : Option Nat := none
  zeroAllocate : Option Nat := none
  state : Option Nat := none
deriving DecidableEq

namespace RcutilsAllocator

/-- `rcutils_allocator_is_valid`. -/
def isValid (allocator : RcutilsAllocator) : Bool :=
  allocator.allocate.isSome && allocator.deallocate.isSome && allocator.zeroAllocate.isSome &&
    allocator.reallocate.isSome

/-- The heap that the allocator takes its blocks from. -/
def heap (allocator : RcutilsAllocator) : Option Nat × Option Nat :=
  (allocator.allocate, allocator.state)

end RcutilsAllocator

/-- `rcutils_get_default_allocator`, which `rmw_allocate` and `rmw_free` use. -/
def rcutilsGetDefaultAllocator : RcutilsAllocator where
  allocate := some 0
  deallocate := some 1
  reallocate := some 2
  zeroAllocate := some 3

/-- `rmw_localhost_only_t`. -/
inductive LocalhostOnly where
  | default
  | enabled
  | disabled
deriving DecidableEq

/-- `rmw_security_options_t`; `rmw_get_default_security_options` gives it without enforcement. -/
structure SecurityOptions where
  enforceSecurity : Bool := false
  securityRootPath : Option CString := none
deriving DecidableEq

/-- `rmw_init_options_t`, with what stands for the pointer `impl`. Without any values it is
`rmw_get_zero_initialized_init_options`. -/
structure OptionsRecord (Impl : Type) where
  instanceId : Nat := 0
  implementationIdentifier : Option String := none
  allocator : RcutilsAllocator := {}
  enclave : Option CString := none
  domainId : Nat := 0
  securityOptions : SecurityOptions := {}
  localhostOnly : LocalhostOnly := .default
  impl : Option Impl := none
deriving DecidableEq

/-- A block of an `rmw_init_options_impl_t`, and the heap it is from. -/
structure ImplBlock where
  heap : Option Nat × Option Nat
  params : TransportParams
deriving DecidableEq

namespace OptionsRecord

variable {Impl Impl' : Type}

/-- The members, with another `impl`. -/
def withImpl (record : OptionsRecord Impl) (impl : Option Impl') : OptionsRecord Impl' where
  instanceId := record.instanceId
  implementationIdentifier := record.implementationIdentifier
  allocator := record.allocator
  enclave := record.enclave
  domainId := record.domainId
  securityOptions := record.securityOptions
  localhostOnly := record.localhostOnly
  impl := impl

/-- The options as the functions see them that only follow `impl`. -/
def view (record : OptionsRecord ImplBlock) : RmwInitOptions where
  instanceId := record.instanceId
  implementationIdentifier := record.implementationIdentifier
  enclave := record.enclave
  domainId := record.domainId
  impl := record.impl.map ImplBlock.params

/-- The members `rmw_init_options_init` sets before it allocates. -/
def initial (allocator : RcutilsAllocator) (impl : Option Impl) : OptionsRecord Impl where
  instanceId := 0
  implementationIdentifier := some eprosimaMicroxrceddsIdentifier
  allocator := allocator
  enclave := some (cstr "/")
  domainId := 0
  securityOptions := {}
  localhostOnly := .default
  impl := impl

end OptionsRecord

/-- The options in the variables of an application, the blocks on the heap, and the global
`rmw_uxrce_transport_default_params`. -/
structure OptionsMemory where
  options : Nat → OptionsRecord Nat := fun _ => {}
  blocks : Nat → Option ImplBlock := fun _ => none
  defaultParams : CustomTransport := {}

/-- What a call of an allocator returns: null, or an address and what is found there. -/
abbrev Allocation := Option (Nat × TransportParams)

/-- How a function on options goes wrong: as any other, or because it frees a block that is from
another heap than that of the default allocator. -/
inductive OptionsFault where
  | layer (fault : Fault)
  | foreignBlock
deriving DecidableEq

abbrev OptionsExec := Except OptionsFault

/-- A computation of the layer, among those on options. -/
def ofExec {Result : Type} : Exec Result → OptionsExec Result
  | .ok result => .ok result
  | .error fault => .error (.layer fault)

/-- The endpoint of a transport. -/
inductive TransportEndpoint where
  | serial (device : CString)
  | udp (ipv6 : Bool) (ip port : CString)
  | custom (params : CustomTransport)
deriving DecidableEq

/-- What `rmw_uxrce_transport_init` opens: what the parameters say, and without a context, and
so without parameters, the default. -/
def rmwUxrceTransportInit (cfg : TransportConfig) (params : Option TransportParams) :
    TransportEndpoint :=
  match cfg.transport, params with
  | .serial, some params => .serial params.serialDevice
  | .serial, none => .serial cfg.defaultSerialDevice
  | .udp ipv6, some params => .udp ipv6 params.agentAddress params.agentPort
  | .udp ipv6, none => .udp ipv6 cfg.defaultUdpIp cfg.defaultUdpPort
  | .custom, some params => .custom params.custom
  | .custom, none => .custom cfg.transportDefaultParams

/-- What `rmw_init` takes from the options. -/
structure Connection where
  instanceId : Nat
  domainId : Nat
  endpoint : TransportEndpoint
  clientKey : BitVec 32
deriving DecidableEq

namespace OptionsMemory

/-- The build options, with the global as it is. -/
def config (m : OptionsMemory) (cfg : TransportConfig) : TransportConfig :=
  { cfg with transportDefaultParams := m.defaultParams }

/-- The options in a variable with the block behind `impl`, which must not have been freed. -/
def load (m : OptionsMemory) (options : Nat) : OptionsExec (OptionsRecord ImplBlock) :=
  match (m.options options).impl with
  | none => .ok ((m.options options).withImpl none)
  | some address =>
      match m.blocks address with
      | none => .error (.layer .useAfterFree)
      | some block => .ok ((m.options options).withImpl (some block))

/-- A store to a variable. -/
def set (m : OptionsMemory) (options : Nat) (record : OptionsRecord Nat) : OptionsMemory :=
  { m with options := Function.update m.options options record }

/-- A store to the block behind the `impl` of a variable. -/
def write (m : OptionsMemory) (options : Nat) (params : Option TransportParams) : OptionsMemory :=
  match (m.options options).impl, params with
  | some address, some params =>
      { m with
        blocks := Function.update m.blocks address
          ((m.blocks address).map fun block => { block with params := params }) }
  | _, _ => m

/-- A computation on the options in a variable that reads and writes nothing but what is behind
their `impl`. -/
def access {Result : Type} (run : RmwInitOptions → Exec (Result × RmwInitOptions))
    (options : Nat) (m : OptionsMemory) : OptionsExec (Result × OptionsMemory) := do
  let record ← m.load options
  let (result, after) ← ofExec (run record.view)
  .ok (result, m.write options after.impl)

/-- A call of an allocator. -/
def allocate (m : OptionsMemory) (allocator : RcutilsAllocator) (allocation : Allocation) :
    OptionsMemory :=
  match allocation with
  | none => m
  | some (address, params) =>
      { m with
        blocks := Function.update m.blocks address
          (some { heap := allocator.heap, params := params }) }

/-- `rmw_free`. -/
def rmwFree (m : OptionsMemory) (pointer : Option Nat) : OptionsExec OptionsMemory :=
  match pointer with
  | none => .ok m
  | some address =>
      match m.blocks address with
      | none => .error (.layer .useAfterFree)
      | some block =>
          if block.heap = rcutilsGetDefaultAllocator.heap then
            .ok { m with blocks := Function.update m.blocks address none }
          else .error .foreignBlock

/-- `rmw_init_options_init`. `allocation` is what the allocator returns, and `keys` are the
numbers `rand` returns. -/
def rmwInitOptionsInit (cfg : TransportConfig) (options : Option Nat)
    (allocator : RcutilsAllocator) (allocation : Allocation) (keys : List (BitVec 32))
    (m : OptionsMemory) : OptionsExec (RmwRet × OptionsMemory) :=
  match options with
  | none => .ok (.invalidArgument, m)
  | some options =>
      if !allocator.isValid then .ok (.invalidArgument, m)
      else if (m.options options).implementationIdentifier.isSome then .ok (.invalidArgument, m)
      else do
        let m := (m.allocate allocator allocation).set options
          (.initial allocator (allocation.map Prod.fst))
        let (ret, m) ← m.access (initTransport (m.config cfg)) options
        if ret = .ok then
          match keys.find? (· ≠ 0) with
          | some key =>
              m.access (fun old => do
                let old ← old.modifyParams fun params => { params with clientKey := key }
                .ok (.ok, old)) options
          | none => .error (.layer .divergence)
        else .ok (ret, m)

/-- `rmw_init_options_copy`. -/
def rmwInitOptionsCopy (src dst : Option Nat) (allocation : Allocation) (m : OptionsMemory) :
    OptionsExec (RmwRet × OptionsMemory) :=
  match src, dst with
  | some src, some dst => do
      if ← ofExec (checkTypeIdentifiersMatch (m.options src).implementationIdentifier) then
        if (m.options dst).implementationIdentifier.isSome then .ok (.invalidArgument, m)
        else
          let m := (m.allocate rcutilsGetDefaultAllocator allocation).set dst
            ((m.options src).withImpl (allocation.map Prod.fst))
          match (← m.load src).impl with
          | none => .error (.layer .nullDereference)
          | some block =>
              m.access (fun old => do
                let old ← old.modifyParams fun _ => block.params
                .ok (.ok, old)) dst
      else .ok (.incorrectRmwImplementation, m)
  | _, _ => .ok (.invalidArgument, m)

/-- `rmw_init_options_fini`. -/
def rmwInitOptionsFini (options : Option Nat) (m : OptionsMemory) :
    OptionsExec (RmwRet × OptionsMemory) :=
  match options with
  | none => .ok (.invalidArgument, m)
  | some options =>
      if !(m.options options).allocator.isValid then .ok (.invalidArgument, m)
      else do
        if ← ofExec (checkTypeIdentifiersMatch (m.options options).implementationIdentifier) then
          let m ← m.rmwFree (m.options options).impl
          .ok (.ok, m.set options {})
        else .ok (.incorrectRmwImplementation, m)

/-- `rmw_uros_set_custom_transport`. -/
def rmwUrosSetCustomTransport (params : CustomTransport) (m : OptionsMemory) :
    RmwRet × OptionsMemory :=
  if params.openCb.isSome && params.closeCb.isSome && params.writeCb.isSome &&
      params.readCb.isSome then
    (.ok, { m with defaultParams := params })
  else (.invalidArgument, m)

/-- One of the functions that change the parameters, which check for a null pointer before. -/
def change (call : Option RmwInitOptions → Exec (RmwRet × Option RmwInitOptions))
    (options : Option Nat) (m : OptionsMemory) : OptionsExec (RmwRet × OptionsMemory) :=
  match options with
  | none => do
      let (ret, _) ← ofExec (call none)
      .ok (ret, m)
  | some options =>
      m.access (fun old => do
        let (ret, after) ← call (some old)
        .ok (ret, after.getD old)) options

/-- The part of `rmw_init` that looks at the options: it refuses them, or goes on with what they
say. -/
def rmwInit (cfg : TransportConfig) (options : Option Nat) (m : OptionsMemory) :
    OptionsExec (RmwRet × Option Connection) :=
  match options with
  | none => .ok (.invalidArgument, none)
  | some options =>
      if (m.options options).impl.isNone then .ok (.invalidArgument, none)
      else do
        if ← ofExec (checkTypeIdentifiersMatch (m.options options).implementationIdentifier) then
          match (← m.load options).impl with
          | none => .error (.layer .nullDereference)
          | some block =>
              .ok (.ok, some
                { instanceId := (m.options options).instanceId
                  domainId := (m.options options).domainId
                  endpoint := rmwUxrceTransportInit (m.config cfg) (some block.params)
                  clientKey := block.params.clientKey })
        else .ok (.incorrectRmwImplementation, none)

end OptionsMemory

/-- A change of the transport parameters. -/
inductive OptionsChange where
  | initOptions (argv : List CString)
  | setSerialDevice (dev : Option CString)
  | setUdpAddress (ip port : Option CString)
  | setClientKey (key : BitVec 32)
  | discoverAgent (library : DiscoveryLibrary) (found : List Locator)

/-- The function that makes it. -/
def OptionsChange.run (cfg : TransportConfig) :
    OptionsChange → Option RmwInitOptions → Exec (RmwRet × Option RmwInitOptions)
  | .initOptions argv => rmwUrosInitOptions cfg argv
  | .setSerialDevice dev => rmwUrosOptionsSetSerialDevice cfg dev
  | .setUdpAddress ip port => rmwUrosOptionsSetUdpAddress cfg ip port
  | .setClientKey key => rmwUrosOptionsSetClientKey key
  | .discoverAgent library found => rmwUrosDiscoverAgent cfg library found

/-- A call of a function on options. -/
inductive OptionsCall where
  | init (options : Option Nat) (allocator : RcutilsAllocator) (allocation : Allocation)
      (keys : List (BitVec 32))
  | copy (src dst : Option Nat) (allocation : Allocation)
  | fini (options : Option Nat)
  | setCustomTransport (params : CustomTransport)
  | change (change : OptionsChange) (options : Option Nat)
  | rmwInit (options : Option Nat)

/-- What a call returns. -/
abbrev OptionsAnswer := RmwRet × Option Connection

/-- The call is made. -/
def OptionsMemory.call (cfg : TransportConfig) : OptionsCall → OptionsMemory →
    OptionsExec (OptionsAnswer × OptionsMemory)
  | .init options allocator allocation keys, m => do
      let (ret, m) ← m.rmwInitOptionsInit cfg options allocator allocation keys
      .ok ((ret, none), m)
  | .copy src dst allocation, m => do
      let (ret, m) ← m.rmwInitOptionsCopy src dst allocation
      .ok ((ret, none), m)
  | .fini options, m => do
      let (ret, m) ← m.rmwInitOptionsFini options
      .ok ((ret, none), m)
  | .setCustomTransport params, m =>
      let (ret, m) := m.rmwUrosSetCustomTransport params
      .ok ((ret, none), m)
  | .change change options, m => do
      let (ret, m) ← m.change (change.run (m.config cfg)) options
      .ok ((ret, none), m)
  | .rmwInit options, m => do
      let answer ← m.rmwInit cfg options
      .ok (answer, m)

end RmwMicroxrcedds
