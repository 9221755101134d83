import RmwMicroxrcedds.Library.Outcome
import RmwMicroxrcedds.Model.Options

/-! # What the options keep of an address

The limits of the transport parameters are the sizes of their arrays, which also hold the
NUL. A text as long as the limit is accepted and loses its last character, and some
functions do not check at all; a port of five digits never fits.
-/

namespace RmwMicroxrcedds

open Outcome

variable {cfg : TransportConfig} {library : DiscoveryLibrary} {ipv6 : Bool}
variable {options options' : RmwInitOptions} {params : TransportParams}

/-- The options have the parameters. -/
def Keeps (options : Option RmwInitOptions) (params : TransportParams) : Prop :=
  ∃ written, options = some written ∧ written.impl = some params

/-- The client library writes the whole address of a locator, when it writes one, and not
beyond the end of the buffer. -/
def DiscoveryLibrary.Correct (library : DiscoveryLibrary) : Prop :=
  ∀ locator size ip, library.locatorToIp locator size = some ip →
    ip = locator.address ∧ Within size ip

/-- An agent that `on_agent_found` accepts: a session can be created with it. -/
def DiscoveryLibrary.accepts (library : DiscoveryLibrary) (ipv6 : Bool) (key : BitVec 32)
    (locator : Locator) : Bool :=
  match library.locatorToIp locator (maxIpLen ipv6) with
  | none => false
  | some ip =>
      let portStr := snprintfText maxPortLen (decimal locator.port.toNat)
      library.initUdpTransport ip portStr && library.createSession ip portStr key

/-- The buffer of the port takes numbers of up to four digits. -/
theorem within_decimal {number : Nat} :
    Within maxPortLen (decimal number) ↔ number < 10000 := by
  rw [Within, decimal, List.length_map]
  exact Nat.length_toDigits_le_iff (by decide) (by decide)

/-- A change of the parameters that returns has changed them. -/
theorem impl_of_modifyParams {change : TransportParams → TransportParams}
    (returned : options.modifyParams change = .ok options') :
    ∃ params, options.impl = some params ∧ options'.impl = some (change params) := by
  unfold RmwInitOptions.modifyParams at returned
  split at returned
  · rename_i params isImpl
    cases returned
    exact ⟨params, isImpl, rfl⟩
  · cases returned

/-- A device that is accepted is stored as far as it fits. -/
theorem setSerialDevice_stores {dev : Option CString}
    (returned : setSerialDevice dev options = .ok (.ok, options')) :
    ∃ device params, dev = some device ∧ options'.impl = some params ∧
      params.serialDevice = snprintfText maxSerialDevice device := by
  cases dev with
  | none => cases returned
  | some device =>
      unfold setSerialDevice at returned
      dsimp only at returned
      split at returned
      · obtain ⟨stored, writes, returned⟩ := bind_eq_ok.mp returned
        cases returned
        obtain ⟨params, -, isImpl⟩ := impl_of_modifyParams writes
        exact ⟨device, _, rfl, isImpl, rfl⟩
      · cases returned

/-- An address and a port that are accepted are stored as far as they fit. -/
theorem setUdpAddress_stores {ip port : Option CString}
    (returned : setUdpAddress ipv6 ip port options = .ok (.ok, options')) :
    ∃ address portText params, ip = some address ∧ port = some portText ∧
      options'.impl = some params ∧
      params.agentAddress = snprintfText (maxIpLen ipv6) address ∧
      params.agentPort = snprintfText maxPortLen portText := by
  cases ip with
  | none => cases returned
  | some address =>
      unfold setUdpAddress at returned
      dsimp only at returned
      split at returned
      · obtain ⟨stored, writes, returned⟩ := bind_eq_ok.mp returned
        obtain ⟨params, -, isImpl⟩ := impl_of_modifyParams writes
        cases port with
        | none => cases returned
        | some portText =>
            dsimp only at returned
            split at returned
            · obtain ⟨last, writes', returned⟩ := bind_eq_ok.mp returned
              cases returned
              obtain ⟨params', isParams, isImpl'⟩ := impl_of_modifyParams writes'
              cases isImpl.symm.trans isParams
              exact ⟨address, portText, _, rfl, rfl, isImpl', rfl, rfl⟩
            · cases returned
      · cases returned

/-- An agent that is accepted is stored with its whole address, and one that is not leaves the
options as they are. -/
theorem onAgentFound_stores {locator : Locator} {accepted : Bool} (correct : library.Correct)
    (isImpl : options.impl = some params)
    (returned : onAgentFound library ipv6 locator options = .ok (accepted, options')) :
    accepted = library.accepts ipv6 params.clientKey locator ∧
      if accepted then ∃ params', options'.impl = some params' ∧
        params'.agentPort = snprintfText maxPortLen (decimal locator.port.toNat) ∧
        params'.agentAddress = locator.address
      else options' = options := by
  unfold onAgentFound at returned
  unfold DiscoveryLibrary.accepts
  cases isIp : library.locatorToIp locator (maxIpLen ipv6) with
  | none =>
      rw [isIp] at returned
      cases returned
  | some ip =>
      obtain ⟨rfl, fits⟩ := correct _ _ _ isIp
      rw [isIp] at returned
      dsimp only at returned ⊢
      split at returned
      · rename_i opened
        rw [isImpl] at returned
        dsimp only at returned
        split at returned
        · rename_i created
          obtain ⟨stored, writes, returned⟩ := bind_eq_ok.mp returned
          cases returned
          obtain ⟨params', -, isImpl'⟩ := impl_of_modifyParams writes
          refine ⟨by rw [opened, created, Bool.and_true], _, isImpl', rfl, ?_⟩
          exact snprintfText_eq_iff.mpr fits
        · rename_i refused
          cases returned
          exact ⟨by simp [refused], rfl⟩
      · rename_i closed
        cases returned
        exact ⟨by simp [closed], rfl⟩

/-- What is configured by default is stored as far as it fits. -/
theorem initTransport_stores (returned : initTransport cfg options = .ok (.ok, options')) :
    ∃ params, options'.impl = some params ∧
      match cfg.transport with
      | .serial => params.serialDevice = snprintfText maxSerialDevice cfg.defaultSerialDevice
      | .udp ipv6 => params.agentAddress = snprintfText (maxIpLen ipv6) cfg.defaultUdpIp ∧
          params.agentPort = snprintfText maxPortLen cfg.defaultUdpPort
      | .custom => params.custom = cfg.transportDefaultParams := by
  unfold initTransport at returned
  cases isTransport : cfg.transport with
  | serial =>
      rw [isTransport] at returned
      obtain ⟨device, params, isDevice, isImpl, stored⟩ := setSerialDevice_stores returned
      cases isDevice
      exact ⟨params, isImpl, stored⟩
  | udp ipv6 =>
      rw [isTransport] at returned
      obtain ⟨address, portText, params, isAddress, isPort, isImpl, stored⟩ :=
        setUdpAddress_stores returned
      cases isAddress
      cases isPort
      exact ⟨params, isImpl, stored⟩
  | custom =>
      rw [isTransport] at returned
      obtain ⟨stored, writes, returned⟩ := bind_eq_ok.mp returned
      cases returned
      obtain ⟨params, -, isImpl⟩ := impl_of_modifyParams writes
      exact ⟨_, isImpl, rfl⟩

/-- Discovery stores the first agent that is accepted, if any. -/
theorem discoverAgents_stores {found : List Locator} (correct : library.Correct)
    (isImpl : options.impl = some params)
    (returned : discoverAgents library ipv6 found options = .ok options') :
    options' = options ∨ ∃ locator params',
      found.find? (library.accepts ipv6 params.clientKey) = some locator ∧
      options'.impl = some params' ∧
      params'.agentPort = snprintfText maxPortLen (decimal locator.port.toNat) ∧
      params'.agentAddress = locator.address := by
  induction found with
  | nil =>
      cases returned
      exact Or.inl rfl
  | cons locator rest ih =>
      obtain ⟨⟨accepted, next⟩, called, went⟩ := bind_eq_ok.mp returned
      obtain ⟨isAccepted, stores⟩ := onAgentFound_stores correct isImpl called
      rw [List.find?_cons, ← isAccepted]
      cases accepted with
      | true =>
          cases went
          obtain ⟨params', isImpl', isPort, isAddress⟩ := stores
          exact Or.inr ⟨locator, params', rfl, isImpl', isPort, isAddress⟩
      | false =>
          obtain rfl : next = options := stores
          exact ih went

/-- `rmw_uros_options_set_udp_address` keeps an address and a port that are shorter than their
arrays. -/
theorem setUdpAddress_lossless_iff {ip port : Option CString}
    {options options' : Option RmwInitOptions}
    (returned : rmwUrosOptionsSetUdpAddress cfg ip port options = .ok (.ok, options')) :
    ∃ ipv6 address portText params, cfg.transport = .udp ipv6 ∧ ip = some address ∧
      port = some portText ∧ Keeps options' params ∧
      (params.agentAddress = address ∧ params.agentPort = portText ↔
        Within (maxIpLen ipv6) address ∧ Within maxPortLen portText) := by
  unfold rmwUrosOptionsSetUdpAddress at returned
  split at returned
  · rename_i ipv6 given isUdp
    obtain ⟨⟨ret, stored⟩, sets, returned⟩ := bind_eq_ok.mp returned
    cases returned
    obtain ⟨address, portText, params, rfl, rfl, isImpl, isAddress, isPort⟩ :=
      setUdpAddress_stores sets
    refine ⟨ipv6, address, portText, params, isUdp, rfl, rfl, ⟨stored, rfl, isImpl⟩, ?_⟩
    rw [isAddress, isPort, snprintfText_eq_iff, snprintfText_eq_iff]
  · cases returned

/-- `rmw_uros_options_set_serial_device` keeps a device that is shorter than its array. -/
theorem setSerialDevice_lossless_iff {dev : Option CString}
    {options options' : Option RmwInitOptions}
    (returned : rmwUrosOptionsSetSerialDevice cfg dev options = .ok (.ok, options')) :
    ∃ device params, dev = some device ∧ Keeps options' params ∧
      (params.serialDevice = device ↔ Within maxSerialDevice device) := by
  unfold rmwUrosOptionsSetSerialDevice at returned
  split at returned
  · obtain ⟨⟨ret, stored⟩, sets, returned⟩ := bind_eq_ok.mp returned
    cases returned
    obtain ⟨device, params, rfl, isImpl, isDevice⟩ := setSerialDevice_stores sets
    refine ⟨device, params, rfl, ⟨stored, rfl, isImpl⟩, ?_⟩
    rw [isDevice, snprintfText_eq_iff]
  · cases returned

/-- `rmw_uros_init_options` keeps the texts of the command line that are shorter than their
arrays. -/
theorem initOptions_lossless_iff {argv : List CString} {options options' : Option RmwInitOptions}
    (returned : rmwUrosInitOptions cfg argv options = .ok (.ok, options')) :
    match cfg.transport with
    | .serial => ∃ program device rest params, argv = program :: device :: rest ∧
        Keeps options' params ∧ (params.serialDevice = device ↔ Within maxSerialDevice device)
    | .udp ipv6 => ∃ program address portText rest params,
        argv = program :: address :: portText :: rest ∧ Keeps options' params ∧
        (params.agentAddress = address ∧ params.agentPort = portText ↔
          Within (maxIpLen ipv6) address ∧ Within maxPortLen portText)
    | .custom => options' = options := by
  unfold rmwUrosInitOptions at returned
  split at returned
  · cases returned
  · split at returned
    · rename_i program device rest isSerial
      obtain ⟨stored, writes, returned⟩ := bind_eq_ok.mp returned
      cases returned
      obtain ⟨params, -, isImpl⟩ := impl_of_modifyParams writes
      simp only [isSerial]
      exact ⟨program, device, rest, _, rfl, ⟨stored, rfl, isImpl⟩, snprintfText_eq_iff⟩
    · rename_i ipv6 program address portText rest isUdp
      obtain ⟨stored, writes, returned⟩ := bind_eq_ok.mp returned
      cases returned
      obtain ⟨params, -, isImpl⟩ := impl_of_modifyParams writes
      simp only [isUdp]
      exact ⟨program, address, portText, rest, _, rfl, ⟨stored, rfl, isImpl⟩,
        and_congr snprintfText_eq_iff snprintfText_eq_iff⟩
    · rename_i isCustom
      cases returned
      simp only [isCustom]
    · cases returned

/-- `rmw_init_options_init` keeps the defaults that are shorter than their arrays. -/
theorem initOptionsInit_lossless_iff {options options' : Option RmwInitOptions} {valid : Bool}
    {block : Option TransportParams} {keys : List (BitVec 32)}
    (returned : rmwInitOptionsInit cfg options valid block keys = .ok (.ok, options')) :
    ∃ params, Keeps options' params ∧
      match cfg.transport with
      | .serial => params.serialDevice = cfg.defaultSerialDevice ↔
          Within maxSerialDevice cfg.defaultSerialDevice
      | .udp ipv6 =>
          params.agentAddress = cfg.defaultUdpIp ∧ params.agentPort = cfg.defaultUdpPort ↔
            Within (maxIpLen ipv6) cfg.defaultUdpIp ∧ Within maxPortLen cfg.defaultUdpPort
      | .custom => params.custom = cfg.transportDefaultParams := by
  unfold rmwInitOptionsInit at returned
  split at returned
  · cases returned
  · split at returned
    · obtain ⟨⟨ret, stored⟩, sets, returned⟩ := bind_eq_ok.mp returned
      dsimp only at returned
      split at returned
      · rename_i isOk
        subst isOk
        split at returned
        · obtain ⟨last, writes, returned⟩ := bind_eq_ok.mp returned
          cases returned
          obtain ⟨params, isStored, isImpl⟩ := impl_of_modifyParams writes
          obtain ⟨params', isStored', stores⟩ := initTransport_stores sets
          cases isStored.symm.trans isStored'
          refine ⟨_, ⟨last, rfl, isImpl⟩, ?_⟩
          cases isTransport : cfg.transport with
          | serial =>
              simp only [isTransport] at stores
              simp only [stores, snprintfText_eq_iff]
          | udp ipv6 =>
              simp only [isTransport] at stores
              simp only [stores, snprintfText_eq_iff]
          | custom =>
              simp only [isTransport] at stores
              exact stores
        · cases returned
      · rename_i notOk
        cases returned
        exact absurd rfl notOk
    · cases returned

/-- Discovery keeps an agent whose port has at most four digits. -/
theorem discoverAgent_lossless_iff {found : List Locator} {options options' : Option RmwInitOptions}
    (correct : library.Correct)
    (returned : rmwUrosDiscoverAgent cfg library found options = .ok (.ok, options')) :
    ∃ ipv6 params before locator, cfg.transport = .udp ipv6 ∧ Keeps options before ∧
      found.find? (library.accepts ipv6 before.clientKey) = some locator ∧
      Keeps options' params ∧
      (params.agentPort = decimal locator.port.toNat ∧ params.agentAddress = locator.address ↔
        locator.port.toNat < 10000) := by
  unfold rmwUrosDiscoverAgent at returned
  split at returned
  · rename_i ipv6 given isUdp _
    obtain ⟨cleared, clears, returned⟩ := bind_eq_ok.mp returned
    obtain ⟨discovered, discovers, returned⟩ := bind_eq_ok.mp returned
    obtain ⟨before, isBefore, isCleared⟩ := impl_of_modifyParams clears
    split at returned
    · cases returned
    · rename_i params isImpl
      split at returned
      · rename_i nonempty
        cases returned
        rcases discoverAgents_stores correct isCleared discovers with same |
          ⟨locator, params', isFound, isImpl', isPort, isAddress⟩
        · rw [same] at isImpl
          cases isCleared.symm.trans isImpl
          cases nonempty
        · cases isImpl.symm.trans isImpl'
          refine ⟨ipv6, params, before, locator, isUdp, ⟨given, rfl, isBefore⟩, isFound,
            ⟨discovered, rfl, isImpl⟩, ?_⟩
          rw [isPort, isAddress, snprintfText_eq_iff, within_decimal, and_iff_left rfl]
      · cases returned
  · cases returned

/-- For every build and every text: what a function that returns success has stored is the text it
was given, or the default, exactly when that is shorter than its array, and what discovery has
stored is the agent it found exactly when the port has at most four digits. -/
theorem options_lossless_iff (cfg : TransportConfig) :
    (∀ ip port options options',
      rmwUrosOptionsSetUdpAddress cfg ip port options = .ok (.ok, options') →
      ∃ ipv6 address portText params, cfg.transport = .udp ipv6 ∧ ip = some address ∧
        port = some portText ∧ Keeps options' params ∧
        (params.agentAddress = address ∧ params.agentPort = portText ↔
          Within (maxIpLen ipv6) address ∧ Within maxPortLen portText)) ∧
    (∀ dev options options', rmwUrosOptionsSetSerialDevice cfg dev options = .ok (.ok, options') →
      ∃ device params, dev = some device ∧ Keeps options' params ∧
        (params.serialDevice = device ↔ Within maxSerialDevice device)) ∧
    (∀ argv options options', rmwUrosInitOptions cfg argv options = .ok (.ok, options') →
      match cfg.transport with
      | .serial => ∃ program device rest params, argv = program :: device :: rest ∧
          Keeps options' params ∧ (params.serialDevice = device ↔ Within maxSerialDevice device)
      | .udp ipv6 => ∃ program address portText rest params,
          argv = program :: address :: portText :: rest ∧ Keeps options' params ∧
          (params.agentAddress = address ∧ params.agentPort = portText ↔
            Within (maxIpLen ipv6) address ∧ Within maxPortLen portText)
      | .custom => options' = options) ∧
    (∀ options valid block keys options',
      rmwInitOptionsInit cfg options valid block keys = .ok (.ok, options') →
      ∃ params, Keeps options' params ∧
        match cfg.transport with
        | .serial => params.serialDevice = cfg.defaultSerialDevice ↔
            Within maxSerialDevice cfg.defaultSerialDevice
        | .udp ipv6 =>
            params.agentAddress = cfg.defaultUdpIp ∧ params.agentPort = cfg.defaultUdpPort ↔
              Within (maxIpLen ipv6) cfg.defaultUdpIp ∧ Within maxPortLen cfg.defaultUdpPort
        | .custom => params.custom = cfg.transportDefaultParams) ∧
    ∀ library found options options', library.Correct →
      rmwUrosDiscoverAgent cfg library found options = .ok (.ok, options') →
      ∃ ipv6 params before locator, cfg.transport = .udp ipv6 ∧ Keeps options before ∧
        found.find? (library.accepts ipv6 before.clientKey) = some locator ∧
        Keeps options' params ∧
        (params.agentPort = decimal locator.port.toNat ∧ params.agentAddress = locator.address ↔
          locator.port.toNat < 10000) :=
  ⟨fun _ _ _ _ => setUdpAddress_lossless_iff, fun _ _ _ => setSerialDevice_lossless_iff,
    fun _ _ _ => initOptions_lossless_iff, fun _ _ _ _ _ => initOptionsInit_lossless_iff,
    fun _ _ _ _ => discoverAgent_lossless_iff⟩

namespace Small

/-- A build for UDP over IPv4 with discovery. -/
def udpConfig : TransportConfig where
  transport := .udp false
  discovery := true
  defaultSerialDevice := []
  defaultUdpIp := cstr "127.0.0.1"
  defaultUdpPort := cstr "8888"
  transportDefaultParams := {}

/-- Options whose block is allocated. -/
def udpOptions : RmwInitOptions where
  implementationIdentifier := some eprosimaMicroxrceddsIdentifier
  impl := some { clientKey := 1 }

/-- A client library with which every address of the right length can be reached. -/
def posixLibrary : DiscoveryLibrary where
  locatorToIp := fun locator size =>
    if locator.address.length < size then some locator.address else none
  initUdpTransport := fun _ _ => true
  createSession := fun _ _ _ => true

theorem posixLibrary_correct : posixLibrary.Correct := by
  intro locator size ip written
  simp only [posixLibrary] at written
  split at written
  · rename_i fits
    cases written
    exact ⟨rfl, Nat.le_sub_one_of_lt fits⟩
  · cases written

/-- An agent with a port of four digits, and one with five. -/
def agent : Locator := ⟨cstr "10.0.0.2", 2018⟩

def otherAgent : Locator := ⟨cstr "10.0.0.2", 11888⟩

end Small

/-- An agent at port 2018 that is discovered, and an address that is set. -/
theorem options_lossless_small :
    (∃ options' ipv6 params before locator,
      rmwUrosDiscoverAgent Small.udpConfig Small.posixLibrary [Small.agent]
      (some Small.udpOptions) =
        .ok (.ok, options') ∧ Small.udpConfig.transport = .udp ipv6 ∧
        Keeps (some Small.udpOptions) before ∧
        [Small.agent].find? (Small.posixLibrary.accepts ipv6 before.clientKey) = some locator ∧
        Keeps options' params ∧
        (params.agentPort = decimal locator.port.toNat ∧ params.agentAddress = locator.address ↔
          locator.port.toNat < 10000)) ∧
    ∃ options' ipv6 address portText params,
      rmwUrosOptionsSetUdpAddress Small.udpConfig (some (cstr "10.0.0.2")) (some (cstr "2018"))
        (some Small.udpOptions) = .ok (.ok, options') ∧ Small.udpConfig.transport = .udp ipv6 ∧
        some (cstr "10.0.0.2") = some address ∧ some (cstr "2018") = some portText ∧
        Keeps options' params ∧
        (params.agentAddress = address ∧ params.agentPort = portText ↔
          Within (maxIpLen ipv6) address ∧ Within maxPortLen portText) := by
  obtain ⟨sets, -, -, -, discovers⟩ := options_lossless_iff Small.udpConfig
  constructor
  · obtain ⟨ipv6, params, before, locator, found⟩ := discovers Small.posixLibrary [Small.agent]
      (some Small.udpOptions) _ Small.posixLibrary_correct rfl
    exact ⟨_, ipv6, params, before, locator, rfl, found⟩
  · obtain ⟨ipv6, address, portText, params, stored⟩ := sets (some (cstr "10.0.0.2"))
      (some (cstr "2018")) (some Small.udpOptions) _ rfl
    exact ⟨_, ipv6, address, portText, params, rfl, stored⟩

/-- A port of five digits loses its last one, whether it is set or discovered. -/
theorem fifth_digit_is_lost :
    (∃ options' params, rmwUrosOptionsSetUdpAddress Small.udpConfig (some (cstr "10.0.0.2"))
        (some (cstr "11888")) (some Small.udpOptions) = .ok (.ok, options') ∧
      Keeps options' params ∧ params.agentPort = cstr "1188") ∧
    ∃ options' params, rmwUrosDiscoverAgent Small.udpConfig Small.posixLibrary [Small.otherAgent]
        (some Small.udpOptions) = .ok (.ok, options') ∧
      Keeps options' params ∧ params.agentPort = cstr "1188" :=
  ⟨⟨_, _, rfl, ⟨_, rfl, rfl⟩, rfl⟩, _, _, rfl, ⟨_, rfl, rfl⟩, rfl⟩

end RmwMicroxrcedds
