import RmwMicroxrcedds.Properties.LosslessOptions

/-! # Rejected changes of the options

A function that rejects its arguments has not always left the options alone: the address is
written before the port is looked at, and discovery clears both before it asks for agents.
-/

namespace RmwMicroxrcedds

open Outcome

variable {cfg : TransportConfig} {library : DiscoveryLibrary} {ipv6 : Bool}
variable {options options' : RmwInitOptions} {params : TransportParams} {ret : RmwRet}

/-- The transport parameters behind a pointer to options. -/
def transportParams (options : Option RmwInitOptions) : Option TransportParams :=
  options.bind RmwInitOptions.impl

/-- A call that returns anything but success leaves all transport parameters as they are. -/
def Atomic (options : Option RmwInitOptions) (outcome : Exec (RmwRet × Option RmwInitOptions)) :
    Prop :=
  ∀ ret options', outcome = .ok (ret, options') → ret ≠ .ok →
    transportParams options' = transportParams options

/-- An address that is accepted and is not the one in the options yet comes with a port that is
null or too long. -/
structure HalfAccepted (cfg : TransportConfig) (ip port : Option CString) (ipv6 : Bool)
    (address : CString) (params : TransportParams) : Prop where
  built : cfg.transport = .udp ipv6
  given : ip = some address
  accepted : address.length ≤ maxIpLen ipv6
  new : snprintfText (maxIpLen ipv6) address ≠ params.agentAddress
  refused : ∀ text, port = some text → maxPortLen < text.length

/-- The addresses of all agents that answer are written, and no session can be created with any
of them. -/
def DiscoveryLibrary.Refuses (library : DiscoveryLibrary) (ipv6 : Bool) (key : BitVec 32)
    (found : List Locator) : Prop :=
  ∀ locator ∈ found, (library.locatorToIp locator (maxIpLen ipv6)).isSome = true ∧
    library.accepts ipv6 key locator = false

/-- No agent is accepted in a build with discovery, and the options have an address or a port to
lose. -/
structure LosesAgent (cfg : TransportConfig) (library : DiscoveryLibrary) (found : List Locator)
    (ipv6 : Bool) (params : TransportParams) : Prop where
  built : cfg.transport = .udp ipv6
  discovery : cfg.discovery = true
  refuses : library.Refuses ipv6 params.clientKey found
  had : params.agentAddress ≠ [] ∨ params.agentPort ≠ []

/-- The client library never writes an empty address. -/
def DiscoveryLibrary.Names (library : DiscoveryLibrary) : Prop :=
  ∀ locator size ip, library.locatorToIp locator size = some ip → ip ≠ []

/-- An outcome that is a rejection with the options as they were, or no rejection. -/
theorem atomic_of_unchanged {options : Option RmwInitOptions}
    {outcome : Exec (RmwRet × Option RmwInitOptions)}
    (unchanged : ∀ ret options', outcome = .ok (ret, options') → ret = .ok ∨ options' = options) :
    Atomic options outcome := by
  intro ret options' returned rejected
  rcases unchanged ret options' returned with isOk | same
  · exact absurd isOk rejected
  · rw [same]

/-- With an implementation a change of the parameters returns. -/
theorem modifyParams_of_impl {change : TransportParams → TransportParams}
    (isImpl : options.impl = some params) :
    options.modifyParams change = .ok { options with impl := some (change params) } := by
  rw [RmwInitOptions.modifyParams, isImpl]

/-- A serial device that is rejected is not stored. -/
theorem setSerialDevice_rejects {dev : Option CString}
    (returned : setSerialDevice dev options = .ok (ret, options')) :
    ret = .ok ∨ options' = options := by
  cases dev with
  | none =>
      cases returned
      exact Or.inr rfl
  | some device =>
      unfold setSerialDevice at returned
      dsimp only at returned
      split at returned
      · obtain ⟨stored, -, returned⟩ := bind_eq_ok.mp returned
        cases returned
        exact Or.inl rfl
      · cases returned
        exact Or.inr rfl

/-- An address and a port that are rejected: nothing is stored, or the address alone. -/
theorem setUdpAddress_rejects {ip port : Option CString}
    (returned : setUdpAddress ipv6 ip port options = .ok (ret, options')) (rejected : ret ≠ .ok) :
    options' = options ∨ ∃ address params, ip = some address ∧ address.length ≤ maxIpLen ipv6 ∧
      (∀ text, port = some text → maxPortLen < text.length) ∧ options.impl = some params ∧
      options'.impl =
        some { params with agentAddress := snprintfText (maxIpLen ipv6) address } := by
  cases ip with
  | none =>
      cases returned
      exact Or.inl rfl
  | some address =>
      unfold setUdpAddress at returned
      dsimp only at returned
      split at returned
      · rename_i accepted
        obtain ⟨stored, writes, returned⟩ := bind_eq_ok.mp returned
        obtain ⟨params, isImpl, isStored⟩ := impl_of_modifyParams writes
        cases port with
        | none =>
            cases returned
            refine Or.inr ⟨address, params, rfl, accepted, fun text absurd => ?_, isImpl, isStored⟩
            cases absurd
        | some text =>
            dsimp only at returned
            split at returned
            · obtain ⟨last, -, returned⟩ := bind_eq_ok.mp returned
              cases returned
              exact absurd rfl rejected
            · rename_i long
              cases returned
              refine Or.inr ⟨address, params, rfl, accepted, fun text' same => ?_, isImpl, isStored⟩
              cases same
              exact Nat.lt_of_not_le long
      · cases returned
        exact Or.inl rfl

/-- A port that is refused comes after the address was stored. -/
theorem setUdpAddress_of_refused {address : CString} {port : Option CString}
    (isImpl : options.impl = some params) (accepted : address.length ≤ maxIpLen ipv6)
    (refused : ∀ text, port = some text → maxPortLen < text.length) :
    setUdpAddress ipv6 (some address) port options = .ok (.invalidArgument,
      { options with
        impl := some { params with agentAddress := snprintfText (maxIpLen ipv6) address } }) := by
  simp only [setUdpAddress, if_pos accepted, modifyParams_of_impl isImpl, ok_bind]
  cases port with
  | none => rfl
  | some text => simp only [if_neg (Nat.not_le_of_lt (refused text rfl))]

/-- Discovery in which every agent is refused changes nothing. -/
theorem discoverAgents_of_refuses {found : List Locator} (isImpl : options.impl = some params)
    (refuses : library.Refuses ipv6 params.clientKey found) :
    discoverAgents library ipv6 found options = .ok options := by
  induction found with
  | nil => rfl
  | cons locator rest ih =>
      obtain ⟨converted, refused⟩ := refuses locator List.mem_cons_self
      obtain ⟨ip, isIp⟩ := Option.isSome_iff_exists.mp converted
      have passed : onAgentFound library ipv6 locator options = .ok (false, options) := by
        simp only [DiscoveryLibrary.accepts, isIp, Bool.and_eq_false_iff] at refused
        simp only [onAgentFound, isIp]
        rcases refused with closed | failed
        · simp only [closed, Bool.false_eq_true, ↓reduceIte]
        · split
          · simp only [isImpl, failed, Bool.false_eq_true, ↓reduceIte]
          · rfl
      simp only [discoverAgents, passed, ok_bind, Bool.false_eq_true, ↓reduceIte]
      exact ih fun locator inside => refuses locator (List.mem_cons_of_mem _ inside)

/-- Discovery that returns has refused every agent, or stored one with an address. -/
theorem discoverAgents_refuses {found : List Locator} (names : library.Names)
    (isImpl : options.impl = some params)
    (returned : discoverAgents library ipv6 found options = .ok options') :
    options' = options ∧ library.Refuses ipv6 params.clientKey found ∨
      ∃ params', options'.impl = some params' ∧ params'.agentAddress ≠ [] := by
  induction found with
  | nil =>
      cases returned
      exact Or.inl ⟨rfl, fun locator inside => by cases inside⟩
  | cons locator rest ih =>
      obtain ⟨⟨accepted, next⟩, called, went⟩ := bind_eq_ok.mp returned
      cases isIp : library.locatorToIp locator (maxIpLen ipv6) with
      | none =>
          rw [onAgentFound, isIp] at called
          cases called
      | some ip =>
          have passes : accepted = false → library.accepts ipv6 params.clientKey locator = false →
              next = options → options' = options ∧
                library.Refuses ipv6 params.clientKey (locator :: rest) ∨
              ∃ params', options'.impl = some params' ∧ params'.agentAddress ≠ [] := by
            intro notAccepted refused same
            subst notAccepted same
            cases ih went with
            | inl kept =>
                refine Or.inl ⟨kept.1, fun other inside => ?_⟩
                rcases List.mem_cons.mp inside with rfl | later
                · exact ⟨by rw [isIp]; rfl, refused⟩
                · exact kept.2 other later
            | inr stored => exact Or.inr stored
          simp only [onAgentFound, isIp, isImpl] at called
          simp only [DiscoveryLibrary.accepts, isIp] at passes
          split at called
          · rename_i opened
            split at called
            · rename_i created
              rw [modifyParams_of_impl isImpl] at called
              cases called
              cases went
              refine Or.inr ⟨_, rfl, ?_⟩
              -- both arrays have room for more than the NUL
              have room : maxIpLen ipv6 - 1 ≠ 0 := by cases ipv6 <;> decide
              simpa [snprintfText, room] using names _ _ _ isIp
            · rename_i refused
              cases called
              exact passes rfl (by simp [refused]) rfl
          · rename_i closed
            cases called
            exact passes rfl (by simp [closed]) rfl

/-- `rmw_uros_init_options` stores what it was given only where it succeeds. -/
theorem initOptions_atomic {argv : List CString} {options : Option RmwInitOptions} :
    Atomic options (rmwUrosInitOptions cfg argv options) := by
  apply atomic_of_unchanged
  intro ret options' returned
  unfold rmwUrosInitOptions at returned
  split at returned
  · cases returned
    exact Or.inr rfl
  · split at returned
    · obtain ⟨stored, -, returned⟩ := bind_eq_ok.mp returned
      cases returned
      exact Or.inl rfl
    · obtain ⟨stored, -, returned⟩ := bind_eq_ok.mp returned
      cases returned
      exact Or.inl rfl
    · cases returned
      exact Or.inl rfl
    · cases returned
      exact Or.inr rfl

/-- So does `rmw_uros_options_set_serial_device`. -/
theorem setSerialDevice_atomic {dev : Option CString} {options : Option RmwInitOptions} :
    Atomic options (rmwUrosOptionsSetSerialDevice cfg dev options) := by
  apply atomic_of_unchanged
  intro ret options' returned
  unfold rmwUrosOptionsSetSerialDevice at returned
  split at returned
  · obtain ⟨outcome, sets, returned⟩ := bind_eq_ok.mp returned
    cases returned
    cases setSerialDevice_rejects sets with
    | inl isOk => exact Or.inl isOk
    | inr same => exact Or.inr (congrArg some same)
  · cases returned
    exact Or.inr rfl

/-- And `rmw_uros_options_set_client_key`. -/
theorem setClientKey_atomic {key : BitVec 32} {options : Option RmwInitOptions} :
    Atomic options (rmwUrosOptionsSetClientKey key options) := by
  apply atomic_of_unchanged
  intro ret options' returned
  unfold rmwUrosOptionsSetClientKey at returned
  split at returned
  · cases returned
    exact Or.inr rfl
  · obtain ⟨stored, -, returned⟩ := bind_eq_ok.mp returned
    cases returned
    exact Or.inl rfl

/-- `rmw_uros_options_set_udp_address` stores an address of which it rejects the port. -/
theorem setUdpAddress_atomic_iff {ip port : Option CString} {options : Option RmwInitOptions} :
    Atomic options (rmwUrosOptionsSetUdpAddress cfg ip port options) ↔
      ∀ ipv6 address params, transportParams options = some params →
        ¬ HalfAccepted cfg ip port ipv6 address params := by
  constructor
  · intro atomic ipv6 address params isParams half
    obtain ⟨given, rfl, isImpl⟩ := Option.bind_eq_some_iff.mp isParams
    have sets := setUdpAddress_of_refused isImpl half.accepted half.refused
    have returned : rmwUrosOptionsSetUdpAddress cfg ip port (some given) =
        .ok (.invalidArgument, some { given with
          impl :=
            some { params with agentAddress := snprintfText (maxIpLen ipv6) address } }) := by
      simp only [rmwUrosOptionsSetUdpAddress, half.built, half.given, sets, ok_bind]
    have same := atomic _ _ returned (by decide)
    rw [isParams] at same
    exact half.new (congrArg TransportParams.agentAddress (Option.some.inj same))
  · intro whole ret options' returned rejected
    unfold rmwUrosOptionsSetUdpAddress at returned
    split at returned
    · rename_i ipv6 given built
      obtain ⟨outcome, sets, returned⟩ := bind_eq_ok.mp returned
      cases returned
      cases setUdpAddress_rejects sets rejected with
      | inl same => rw [same]
      | inr half =>
          obtain ⟨address, params, isIp, accepted, refused, isImpl, written⟩ := half
          have old : snprintfText (maxIpLen ipv6) address = params.agentAddress := by
            by_contra new
            exact whole ipv6 address params isImpl ⟨built, isIp, accepted, new, refused⟩
          rw [old] at written
          exact written.trans isImpl.symm
    · cases returned
      rfl

/-- Options without an address and a port have nothing that discovery clears. -/
theorem cleared_eq (bare : ¬ (params.agentAddress ≠ [] ∨ params.agentPort ≠ [])) :
    { params with agentAddress := [], agentPort := [] } = params := by
  obtain ⟨serialDevice, agentAddress, agentPort, custom, clientKey⟩ := params
  have address : agentAddress = [] := by_contra fun had => bare (Or.inl had)
  have port : agentPort = [] := by_contra fun had => bare (Or.inr had)
  rw [address, port]

/-- `rmw_uros_discover_agent` clears the address and the port before it asks for agents. -/
theorem discoverAgent_atomic_iff {found : List Locator} {options : Option RmwInitOptions}
    (names : library.Names) :
    Atomic options (rmwUrosDiscoverAgent cfg library found options) ↔
      ∀ ipv6 params, transportParams options = some params →
        ¬ LosesAgent cfg library found ipv6 params := by
  constructor
  · intro atomic ipv6 params isParams loses
    obtain ⟨given, rfl, isImpl⟩ := Option.bind_eq_some_iff.mp isParams
    let bare : TransportParams := { params with agentAddress := [], agentPort := [] }
    have discovers : discoverAgents library ipv6 found { given with impl := some bare } = _ :=
      discoverAgents_of_refuses rfl loses.refuses
    have returned : rmwUrosDiscoverAgent cfg library found (some given) =
        .ok (.timeout, some { given with impl := some bare }) := by
      simp only [rmwUrosDiscoverAgent, loses.built, loses.discovery, modifyParams_of_impl isImpl,
        ok_bind]
      rw [discovers]
      rfl
    have same := atomic _ _ returned (by decide)
    rw [isParams] at same
    have cleared : bare = params := Option.some.inj same
    cases loses.had with
    | inl address => exact address (congrArg TransportParams.agentAddress cleared).symm
    | inr port => exact port (congrArg TransportParams.agentPort cleared).symm
  · intro keeps ret options' returned rejected
    unfold rmwUrosDiscoverAgent at returned
    split at returned
    · rename_i ipv6 given built discovery
      obtain ⟨cleared, clears, returned⟩ := bind_eq_ok.mp returned
      obtain ⟨discovered, discovers, ends⟩ := bind_eq_ok.mp returned
      obtain ⟨before, isBefore, isCleared⟩ := impl_of_modifyParams clears
      rcases discoverAgents_refuses names isCleared discovers with ⟨same, refuses⟩ |
        ⟨params', isStored, named⟩
      · -- nothing was stored, and nothing was there to be cleared
        rw [same, isCleared] at ends
        cases ends
        have kept := cleared_eq fun had => keeps ipv6 before isBefore
          ⟨built, discovery, refuses, had⟩
        rw [kept] at isCleared
        exact isCleared.trans isBefore.symm
      · rw [isStored] at ends
        cases ends
        have succeeds : params'.agentAddress.length > 0 := List.length_pos_iff_ne_nil.mpr named
        exact absurd (if_pos succeeds) rejected
    · cases returned
      rfl

/-- For every build, all options and all arguments: which rejected calls leave the parameters as
they were. The two functions that do not always do so fail to when an address is accepted and
its port is not, and when discovery finds no agent for options that had one. -/
theorem rejected_options_iff (cfg : TransportConfig) :
    (∀ argv options, Atomic options (rmwUrosInitOptions cfg argv options)) ∧
    (∀ dev options, Atomic options (rmwUrosOptionsSetSerialDevice cfg dev options)) ∧
    (∀ key options, Atomic options (rmwUrosOptionsSetClientKey key options)) ∧
    (∀ ip port options, Atomic options (rmwUrosOptionsSetUdpAddress cfg ip port options) ↔
      ∀ ipv6 address params, transportParams options = some params →
        ¬ HalfAccepted cfg ip port ipv6 address params) ∧
    ∀ library found options, library.Names →
      (Atomic options (rmwUrosDiscoverAgent cfg library found options) ↔
        ∀ ipv6 params, transportParams options = some params →
          ¬ LosesAgent cfg library found ipv6 params) :=
  ⟨fun _ _ => initOptions_atomic, fun _ _ => setSerialDevice_atomic,
    fun _ _ => setClientKey_atomic, fun _ _ _ => setUdpAddress_atomic_iff,
    fun _ _ _ => discoverAgent_atomic_iff⟩

namespace Small

/-- Options with an address and a port. -/
def addressed : RmwInitOptions where
  implementationIdentifier := some eprosimaMicroxrceddsIdentifier
  impl := some { agentAddress := cstr "10.0.0.2", agentPort := cstr "2018", clientKey := 1 }

/-- A client library with which no session can be created. -/
def silentLibrary : DiscoveryLibrary where
  locatorToIp := fun locator size =>
    if locator.address = [] then none
    else if locator.address.length < size then some locator.address else none
  initUdpTransport := fun _ _ => true
  createSession := fun _ _ _ => false

theorem silentLibrary_names : silentLibrary.Names := by
  intro locator size ip written
  simp only [silentLibrary] at written
  split at written
  · cases written
  · rename_i named
    split at written
    · cases written
      exact named
    · cases written

end Small

/-- Discovery for options with an address, with an agent that does not answer. -/
theorem rejected_options_small :
    Atomic (some Small.addressed)
        (rmwUrosDiscoverAgent Small.udpConfig Small.silentLibrary [Small.agent]
          (some Small.addressed)) ↔
      ∀ ipv6 params, transportParams (some Small.addressed) = some params →
        ¬ LosesAgent Small.udpConfig Small.silentLibrary [Small.agent] ipv6 params :=
  (rejected_options_iff Small.udpConfig).2.2.2.2 Small.silentLibrary [Small.agent]
    (some Small.addressed) Small.silentLibrary_names

/-- An address without a port is rejected and stored, and discovery that times out has cleared
the address and the port. -/
theorem rejected_address_is_stored :
    (∃ options', rmwUrosOptionsSetUdpAddress Small.udpConfig (some (cstr "10.0.0.9")) none
        (some Small.addressed) = .ok (.invalidArgument, options') ∧
      (transportParams options').map TransportParams.agentAddress = some (cstr "10.0.0.9") ∧
      (transportParams options').map TransportParams.agentPort = some (cstr "2018") ∧
      ¬ Atomic (some Small.addressed) (rmwUrosOptionsSetUdpAddress Small.udpConfig
        (some (cstr "10.0.0.9")) none (some Small.addressed))) ∧
    ∃ options', rmwUrosDiscoverAgent Small.udpConfig Small.silentLibrary [Small.agent]
        (some Small.addressed) = .ok (.timeout, options') ∧
      (transportParams options').map TransportParams.agentAddress = some [] ∧
      ¬ Atomic (some Small.addressed) (rmwUrosDiscoverAgent Small.udpConfig Small.silentLibrary
        [Small.agent] (some Small.addressed)) := by
  refine ⟨⟨_, rfl, by decide, by decide, ?_⟩, _, rfl, by decide, ?_⟩
  · intro atomic
    have same := atomic _ _ rfl (by decide)
    exact absurd same (by decide)
  · intro atomic
    have same := atomic _ _ rfl (by decide)
    exact absurd same (by decide)

end RmwMicroxrcedds
