import RmwMicroxrcedds.Model.Names
import RmwMicroxrcedds.Model.State

/-! # Transport options

`rmw_init_options_init`, `init_options.c` and `discovery.c`: the functions that write the
address of the agent, or the serial device, to the options. What a `char` array holds is
the text up to its NUL.
-/

namespace RmwMicroxrcedds

/-- The transport of the build: `RMW_UXRCE_TRANSPORT_*`. -/
inductive Transport where
  | serial
  | udp (ipv6 : Bool)
  | custom
deriving DecidableEq

/-- `MAX_IP_LEN`. -/
def maxIpLen (ipv6 : Bool) : Nat := if ipv6 then 39 else 16

/-- `MAX_PORT_LEN`. -/
def maxPortLen : Nat := 5

/-- `MAX_SERIAL_DEVICE`. -/
def maxSerialDevice : Nat := 50

/-- The members of `rmw_uxrce_transport_params_t` of a custom transport. -/
structure CustomTransport where
  framing : Bool := false
  args : Option Nat := none
  openCb : Option Nat := none
  closeCb : Option Nat := none
  writeCb : Option Nat := none
  readCb : Option Nat := none
deriving DecidableEq

/-- `rmw_uxrce_transport_params_t`. A build has only the members of its transport, and the key. -/
structure TransportParams where
  serialDevice : CString := []
  agentAddress : CString := []
  agentPort : CString := []
  custom : CustomTransport := {}
  clientKey : BitVec 32 := 0
deriving DecidableEq

/-- The build options of the transport: `RMW_UXRCE_DEFAULT_*` and `UCLIENT_PROFILE_DISCOVERY`,
and the global `rmw_uxrce_transport_default_params`. -/
structure TransportConfig where
  transport : Transport
  discovery : Bool
  defaultSerialDevice : CString
  defaultUdpIp : CString
  defaultUdpPort : CString
  transportDefaultParams : CustomTransport

/-- `rmw_init_options_t`, with the block behind `impl`. -/
structure RmwInitOptions where
  instanceId : Nat := 0
  implementationIdentifier : Option String := none
  enclave : Option CString := none
  domainId : Nat := 0
  impl : Option TransportParams := none
deriving DecidableEq

/-- A write to `rmw_options->impl->transport_params`. -/
def RmwInitOptions.modifyParams (options : RmwInitOptions)
    (change : TransportParams → TransportParams) : Exec RmwInitOptions :=
  match options.impl with
  | some params => .ok { options with impl := some (change params) }
  | none => .error .nullDereference

/-- The check of a serial device and its copy, as `rmw_init_options_init` and
`rmw_uros_options_set_serial_device` have it. -/
def setSerialDevice (dev : Option CString) (options : RmwInitOptions) :
    Exec (RmwRet × RmwInitOptions) :=
  match dev with
  | some dev =>
      if dev.length ≤ maxSerialDevice then do
        let options ← options.modifyParams fun old =>
          { old with serialDevice := snprintfText maxSerialDevice dev }
        .ok (.ok, options)
      else .ok (.invalidArgument, options)
  | none => .ok (.invalidArgument, options)

/-- The checks of an address and a port and their copies, as `rmw_init_options_init` and
`rmw_uros_options_set_udp_address` have them. -/
def setUdpAddress (ipv6 : Bool) (ip port : Option CString) (options : RmwInitOptions) :
    Exec (RmwRet × RmwInitOptions) :=
  match ip with
  | some ip =>
      if ip.length ≤ maxIpLen ipv6 then do
        let options ← options.modifyParams fun old =>
          { old with agentAddress := snprintfText (maxIpLen ipv6) ip }
        match port with
        | some port =>
            if port.length ≤ maxPortLen then
              let options ← options.modifyParams fun old =>
                { old with agentPort := snprintfText maxPortLen port }
              .ok (.ok, options)
            else .ok (.invalidArgument, options)
        | none => .ok (.invalidArgument, options)
      else .ok (.invalidArgument, options)
  | none => .ok (.invalidArgument, options)

/-- The part of `rmw_init_options_init` that depends on the transport. -/
def initTransport (cfg : TransportConfig) (options : RmwInitOptions) :
    Exec (RmwRet × RmwInitOptions) :=
  match cfg.transport with
  | .serial => setSerialDevice (some cfg.defaultSerialDevice) options
  | .udp ipv6 => setUdpAddress ipv6 (some cfg.defaultUdpIp) (some cfg.defaultUdpPort) options
  | .custom => do
      let options ← options.modifyParams fun old =>
        { old with custom := cfg.transportDefaultParams }
      .ok (.ok, options)

/-- `rmw_init_options_init`. `block` is what the allocator returns, and `keys` are the numbers
`rand` returns, of which the first nonzero one becomes the key. -/
def rmwInitOptionsInit (cfg : TransportConfig) (options : Option RmwInitOptions)
    (allocatorValid : Bool) (block : Option TransportParams) (keys : List (BitVec 32)) :
    Exec (RmwRet × Option RmwInitOptions) :=
  match options with
  | none => .ok (.invalidArgument, none)
  | some options =>
      if allocatorValid && options.implementationIdentifier.isNone then do
        let (ret, options) ← initTransport cfg
          { instanceId := 0
            implementationIdentifier := some eprosimaMicroxrceddsIdentifier
            enclave := some (cstr "/")
            domainId := 0
            impl := block }
        if ret = .ok then
          match keys.find? (· ≠ 0) with
          | some key =>
              let options ← options.modifyParams fun old => { old with clientKey := key }
              .ok (.ok, some options)
          | none => .error .divergence
        else .ok (ret, some options)
      else .ok (.invalidArgument, some options)

/-- `rmw_uros_init_options`. -/
def rmwUrosInitOptions (cfg : TransportConfig) (argv : List CString)
    (options : Option RmwInitOptions) : Exec (RmwRet × Option RmwInitOptions) :=
  match options with
  | none => .ok (.invalidArgument, none)
  | some options =>
      match cfg.transport, argv with
      | .serial, _ :: dev :: _ => do
          let options ← options.modifyParams fun old =>
            { old with serialDevice := snprintfText maxSerialDevice dev }
          .ok (.ok, some options)
      | .udp ipv6, _ :: ip :: port :: _ => do
          let options ← options.modifyParams fun old =>
            { old with
              agentAddress := snprintfText (maxIpLen ipv6) ip
              agentPort := snprintfText maxPortLen port }
          .ok (.ok, some options)
      | .custom, _ => .ok (.ok, some options)
      | _, _ => .ok (.invalidArgument, some options)

/-- `rmw_uros_options_set_serial_device`. -/
def rmwUrosOptionsSetSerialDevice (cfg : TransportConfig) (dev : Option CString)
    (options : Option RmwInitOptions) : Exec (RmwRet × Option RmwInitOptions) :=
  match cfg.transport, options with
  | .serial, some options => do
      let (ret, options) ← setSerialDevice dev options
      .ok (ret, some options)
  | _, _ => .ok (.invalidArgument, options)

/-- `rmw_uros_options_set_udp_address`. -/
def rmwUrosOptionsSetUdpAddress (cfg : TransportConfig) (ip port : Option CString)
    (options : Option RmwInitOptions) : Exec (RmwRet × Option RmwInitOptions) :=
  match cfg.transport, options with
  | .udp ipv6, some options => do
      let (ret, options) ← setUdpAddress ipv6 ip port options
      .ok (ret, some options)
  | _, _ => .ok (.invalidArgument, options)

/-- `rmw_uros_options_set_client_key`. -/
def rmwUrosOptionsSetClientKey (clientKey : BitVec 32) (options : Option RmwInitOptions) :
    Exec (RmwRet × Option RmwInitOptions) :=
  match options with
  | none => .ok (.invalidArgument, none)
  | some options => do
      let options ← options.modifyParams fun old => { old with clientKey := clientKey }
      .ok (.ok, some options)

/-- `TransportLocator`, by its address in text form and its port. -/
structure Locator where
  address : CString
  port : BitVec 16

/-- The functions of the client library that discovery calls: what `uxr_locator_to_ip` writes
to a buffer of a size, if anything, and whether `uxr_init_udp_transport` and
`uxr_create_session_retries` succeed for an address, a port and a key. -/
structure DiscoveryLibrary where
  locatorToIp : Locator → Nat → Option CString
  initUdpTransport : CString → CString → Bool
  createSession : CString → CString → BitVec 32 → Bool

/-- `on_agent_found`. -/
def onAgentFound (library : DiscoveryLibrary) (ipv6 : Bool) (locator : Locator)
    (options : RmwInitOptions) : Exec (Bool × RmwInitOptions) :=
  match library.locatorToIp locator (maxIpLen ipv6) with
  -- the result is not looked at, and neither address nor port are written
  | none => .error .uninitializedRead
  | some ip =>
      let port := decimal locator.port.toNat
      let portStr := snprintfText maxPortLen port
      if library.initUdpTransport ip portStr then
        match options.impl with
        | none => .error .nullDereference
        | some params =>
            if library.createSession ip portStr params.clientKey then do
              let options ← options.modifyParams fun old =>
                { old with
                  agentPort := snprintfText maxPortLen port
                  agentAddress := snprintfText (maxIpLen ipv6) ip }
              .ok (true, options)
            else .ok (false, options)
      else .ok (false, options)

/-- `uxr_discovery_agents_default`: the callback for one agent that answers after the other,
until it accepts one. -/
def discoverAgents (library : DiscoveryLibrary) (ipv6 : Bool) :
    List Locator → RmwInitOptions → Exec RmwInitOptions
  | [], options => .ok options
  | locator :: rest, options => do
      let (accepted, options) ← onAgentFound library ipv6 locator options
      if accepted then .ok options else discoverAgents library ipv6 rest options

/-- `rmw_uros_discover_agent`. -/
def rmwUrosDiscoverAgent (cfg : TransportConfig) (library : DiscoveryLibrary)
    (found : List Locator) (options : Option RmwInitOptions) :
    Exec (RmwRet × Option RmwInitOptions) :=
  match cfg.transport, cfg.discovery, options with
  | .udp ipv6, true, some options => do
      let options ← options.modifyParams fun old =>
        { old with agentAddress := [], agentPort := [] }
      let options ← discoverAgents library ipv6 found options
      match options.impl with
      | none => .error .nullDereference
      | some params =>
          .ok (if params.agentAddress.length > 0 then .ok else .timeout, some options)
  | _, _, _ => .ok (.invalidArgument, options)

end RmwMicroxrcedds
