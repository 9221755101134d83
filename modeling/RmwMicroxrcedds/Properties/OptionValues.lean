import RmwMicroxrcedds.Refinement.OptionsMemory

/-! # Options are values

Whatever is done to options in memory, by any number of variables and in any order, is what is
done to values: no call on one variable is seen through another one. And as long as options are
initialised before they are used, with the default allocator when they are to be finalised,
none of the functions on them faults, and nothing is left on the heap when all are finalised.
-/

namespace RmwMicroxrcedds

open Component Ownership Outcome OptionsMemory

variable {cfg : TransportConfig} {m : OptionsMemory} {o : OptionValues}
variable {calls : List (OptionsCall × OptionsAnswer)} {allowed : OptionsMemory → OptionsCall → Prop}

theorem represents_start : ({} : OptionsMemory).Represents {} := ⟨owned_start, rfl⟩

/-- The memory after a run is owned, and has the values after the same run on values. -/
theorem represents_of_trace (run : (optionsInMemory cfg allowed).Trace {} calls m) :
    (optionsAsValues cfg).Trace {} calls m.values ∧ m.Owned := by
  obtain ⟨o, trace, represents⟩ := (optionsInMemory_simulates allowed).trace run represents_start
  exact ⟨represents.values ▸ trace, represents.owned⟩

/-- In every run from zeroed options, each call of `rmw_init_options_init`,
`rmw_init_options_copy`, `rmw_init_options_fini`, `rmw_uros_set_custom_transport` and of the
functions that change the parameters returns what it returns on values, and each `rmw_init` goes
on with the same parameters; the next call, too, goes as it goes on values, fault or not. -/
theorem options_are_values (run : (optionsInMemory cfg allowed).Trace {} calls m) :
    (optionsAsValues cfg).Trace {} calls m.values ∧
      ∀ call : OptionsCall, call.Sound m →
        (m.call cfg call).map (Prod.map id OptionsMemory.values) = m.values.call cfg call := by
  obtain ⟨trace, owned⟩ := represents_of_trace run
  refine ⟨trace, fun call sound => ?_⟩
  have alike := @options_call_alike cfg m m.values call owned.represents sound
  generalize isValue : m.values.call cfg call = outcome at alike ⊢
  cases returns : m.call cfg call with
  | error fault =>
      rw [returns] at alike
      cases alike
      rfl
  | ok outcome' =>
      rw [returns] at alike
      cases alike with
      | returns both => rw [← both.values]; rfl

/-- The options are zeroed, or `rmw_init_options_init` or `rmw_init_options_copy` has allocated a
block for them. -/
def OptionsRecord.Initialised (record : OptionsRecord ImplBlock) : Prop :=
  record = {} ∨ record.implementationIdentifier = some eprosimaMicroxrceddsIdentifier ∧
    record.allocator.isValid = true ∧ record.impl.isSome = true

/-- What the functions on options take for granted: an allocation that succeeds, a random number
other than zero, options that were initialised, and that the block to be freed is one of the
default allocator. -/
def OptionsCall.Proper (o : OptionValues) : OptionsCall → Prop
  | .init _ _ allocation keys => allocation.isSome = true ∧ ∃ key ∈ keys, key ≠ 0
  | .copy src _ allocation => allocation.isSome = true ∧ ∀ options, src = some options →
      (o.values options).implementationIdentifier.isSome = true
  | .fini options => ∀ index block, options = some index → (o.values index).impl = some block →
      block.heap = rcutilsGetDefaultAllocator.heap
  | .setCustomTransport _ | .rmwInit _ => True
  | .change edit options =>
      (∀ index, options = some index → (o.values index).implementationIdentifier.isSome = true) ∧
      match edit with
      | .discoverAgent library found =>
          ∀ locator ∈ found, ∀ size, (library.locatorToIp locator size).isSome = true
      | _ => True

/-- A function on options returns where there is a block, and leaves it there. -/
def Returns {Result : Type} (run : RmwInitOptions → Exec (Result × RmwInitOptions)) : Prop :=
  ∀ options, options.impl.isSome = true →
    Yields (run options) fun outcome => outcome.2.impl.isSome = true

/-- A change of the parameters keeps the implementation. -/
theorem yields_modifyParams {options : RmwInitOptions} (isSome : options.impl.isSome = true)
    (change : TransportParams → TransportParams) :
    Yields (options.modifyParams change) fun after => after.impl.isSome = true := by
  obtain ⟨params, isParams⟩ := Option.isSome_iff_exists.mp isSome
  exact ⟨_, by rw [RmwInitOptions.modifyParams, isParams], rfl⟩

/-- Setting the device returns, and keeps the implementation. -/
theorem returns_setSerialDevice (dev : Option CString) : Returns (setSerialDevice dev) := by
  intro options isSome
  unfold setSerialDevice
  split
  · split
    · exact (yields_modifyParams isSome _).bind fun after isSome' => yields_ok.mpr isSome'
    · exact yields_ok.mpr isSome
  · exact yields_ok.mpr isSome

/-- So does setting the address. -/
theorem returns_setUdpAddress (ipv6 : Bool) (ip port : Option CString) :
    Returns (setUdpAddress ipv6 ip port) := by
  intro options isSome
  unfold setUdpAddress
  split
  · split
    · refine (yields_modifyParams isSome _).bind fun after isSome' => ?_
      split
      · split
        · exact (yields_modifyParams isSome' _).bind fun last isSome'' => yields_ok.mpr isSome''
        · exact yields_ok.mpr isSome'
      · exact yields_ok.mpr isSome'
    · exact yields_ok.mpr isSome
  · exact yields_ok.mpr isSome

/-- So does opening the transport. -/
theorem returns_initTransport (cfg : TransportConfig) : Returns (initTransport cfg) := by
  intro options isSome
  unfold initTransport
  split
  · exact returns_setSerialDevice _ options isSome
  · exact returns_setUdpAddress _ _ _ options isSome
  · exact (yields_modifyParams isSome _).bind fun after isSome' => yields_ok.mpr isSome'

/-- So does an agent that is found, if its address can be written. -/
theorem returns_onAgentFound {library : DiscoveryLibrary} {locator : Locator} (ipv6 : Bool)
    (writes : ∀ size, (library.locatorToIp locator size).isSome = true) :
    Returns (onAgentFound library ipv6 locator) := by
  intro options isSome
  obtain ⟨params, isParams⟩ := Option.isSome_iff_exists.mp isSome
  obtain ⟨ip, isIp⟩ := Option.isSome_iff_exists.mp (writes (maxIpLen ipv6))
  simp only [onAgentFound, isIp, isParams]
  split
  · split
    · exact (yields_modifyParams isSome _).bind fun after isSome' => yields_ok.mpr isSome'
    · exact yields_ok.mpr isSome
  · exact yields_ok.mpr isSome

/-- So do all agents that are found. -/
theorem yields_discoverAgents {library : DiscoveryLibrary} {found : List Locator} (ipv6 : Bool)
    (writes : ∀ locator ∈ found, ∀ size, (library.locatorToIp locator size).isSome = true)
    {options : RmwInitOptions} (isSome : options.impl.isSome = true) :
    Yields (discoverAgents library ipv6 found options) fun after => after.impl.isSome = true := by
  induction found generalizing options with
  | nil => exact yields_ok.mpr isSome
  | cons locator rest ih =>
      refine (returns_onAgentFound ipv6 (writes locator List.mem_cons_self) options isSome).bind
        fun outcome isSome' => ?_
      dsimp only
      split
      · exact yields_ok.mpr isSome'
      · exact ih (fun other inside => writes other (List.mem_cons_of_mem _ inside)) isSome'

/-- The functions that change the parameters return where there is a block. -/
theorem yields_change {edit : OptionsChange} {index : Nat}
    (proper : (OptionsCall.change edit (some index)).Proper o) {options : RmwInitOptions}
    (isSome : options.impl.isSome = true) :
    Yields (edit.run cfg (some options)) fun outcome =>
      (outcome.2.getD options).impl.isSome = true := by
  cases edit with
  | initOptions argv =>
      simp only [OptionsChange.run, rmwUrosInitOptions]
      split
      · exact (yields_modifyParams isSome _).bind fun after isSome' => yields_ok.mpr isSome'
      · exact (yields_modifyParams isSome _).bind fun after isSome' => yields_ok.mpr isSome'
      · exact yields_ok.mpr isSome
      · exact yields_ok.mpr isSome
  | setSerialDevice dev =>
      simp only [OptionsChange.run, rmwUrosOptionsSetSerialDevice]
      cases cfg.transport with
      | serial =>
          exact (returns_setSerialDevice dev options isSome).bind fun after isSome' =>
            yields_ok.mpr isSome'
      | udp | custom => exact yields_ok.mpr isSome
  | setUdpAddress ip port =>
      simp only [OptionsChange.run, rmwUrosOptionsSetUdpAddress]
      cases cfg.transport with
      | udp ipv6 =>
          exact (returns_setUdpAddress ipv6 ip port options isSome).bind fun after isSome' =>
            yields_ok.mpr isSome'
      | serial | custom => exact yields_ok.mpr isSome
  | setClientKey key =>
      exact (yields_modifyParams isSome _).bind fun after isSome' => yields_ok.mpr isSome'
  | discoverAgent library found =>
      simp only [OptionsChange.run, rmwUrosDiscoverAgent]
      cases cfg.transport with
      | serial | custom => exact yields_ok.mpr isSome
      | udp ipv6 =>
          cases cfg.discovery with
          | false => exact yields_ok.mpr isSome
          | true =>
              refine (yields_modifyParams isSome _).bind fun cleared isSome' => ?_
              refine (yields_discoverAgents ipv6 proper.2 isSome').bind fun after isSome'' => ?_
              obtain ⟨params, isParams⟩ := Option.isSome_iff_exists.mp isSome''
              simp only [isParams]
              exact yields_ok.mpr isSome''

/-- They refuse a null pointer. -/
theorem yields_change_null (edit : OptionsChange) :
    Yields (edit.run cfg none) fun _ => True := by
  cases edit with
  | initOptions | setClientKey => exact yields_ok.mpr trivial
  | setSerialDevice =>
      simp only [OptionsChange.run, rmwUrosOptionsSetSerialDevice]
      cases cfg.transport <;> exact yields_ok.mpr trivial
  | setUdpAddress =>
      simp only [OptionsChange.run, rmwUrosOptionsSetUdpAddress]
      cases cfg.transport <;> exact yields_ok.mpr trivial
  | discoverAgent =>
      simp only [OptionsChange.run, rmwUrosDiscoverAgent]
      cases cfg.transport <;> cases cfg.discovery <;> exact yields_ok.mpr trivial

/-- Options are initialised with the block of an allocation. -/
theorem yields_init {keys : List (BitVec 32)} (cfg : TransportConfig) (params : TransportParams)
    (nonzero : ∃ key ∈ keys, key ≠ 0) :
    Yields (rmwInitOptionsInit cfg (some {}) true (some params) keys) fun outcome =>
      (outcome.2.bind RmwInitOptions.impl).isSome = true := by
  simp only [rmwInitOptionsInit, Option.isNone_none, Bool.and_self, if_true]
  refine (returns_initTransport cfg _ rfl).bind fun outcome isSome => ?_
  split
  · have found : (keys.find? (· ≠ 0)).isSome = true := by
      simpa [List.find?_isSome] using nonzero
    obtain ⟨key, isKey⟩ := Option.isSome_iff_exists.mp found
    simp only [isKey]
    exact (yields_modifyParams isSome _).bind fun after isSome' => yields_ok.mpr isSome'
  · exact yields_ok.mpr isSome

/-- All options are zeroed or initialised. -/
def OptionValues.Initialised (o : OptionValues) : Prop := ∀ options, (o.values options).Initialised

namespace OptionValues

variable {options : Nat}

/-- Variables stay initialised when one gets a record that is. -/
theorem Initialised.set {record : OptionsRecord ImplBlock} (initialised : o.Initialised)
    (isRecord : record.Initialised) : (o.set options record).Initialised := by
  intro other
  by_cases isHere : other = options
  · simpa [OptionValues.set, isHere] using isRecord
  · simpa [OptionValues.set, isHere] using initialised other

/-- Options with an identifier have a block. -/
theorem Initialised.block (initialised : o.Initialised)
    (named : (o.values options).implementationIdentifier.isSome = true) :
    (o.values options).implementationIdentifier = some eprosimaMicroxrceddsIdentifier ∧
      (o.values options).allocator.isValid = true ∧ (o.values options).impl.isSome = true := by
  rcases initialised options with zeroed | isRecord
  · rw [zeroed] at named
    cases named
  · exact isRecord

/-- A function that returns and leaves the block leaves options initialised. -/
theorem Initialised.access {Result : Type} {run : RmwInitOptions → Exec (Result × RmwInitOptions)}
    (initialised : o.Initialised)
    (named : (o.values options).implementationIdentifier.isSome = true)
    (returns : (o.values options).view.impl.isSome = true →
      Yields (run (o.values options).view) fun outcome => outcome.2.impl.isSome = true) :
    Yields (o.access run options) fun outcome => outcome.2.Initialised := by
  obtain ⟨ours, valid, block⟩ := initialised.block named
  obtain ⟨⟨result, after⟩, runs, isSome⟩ := returns (by simpa [OptionsRecord.view] using block)
  simp only [OptionValues.access, runs, ofExec, ok_bind]
  refine yields_ok.mpr (initialised.set (Or.inr ?_))
  obtain ⟨old, isOld⟩ := Option.isSome_iff_exists.mp block
  obtain ⟨new, isNew⟩ := Option.isSome_iff_exists.mp isSome
  dsimp only at isNew
  simp [OptionsRecord.write, isOld, isNew, OptionsRecord.withImpl, ours, valid]

/-- A run that returns yields what it returns. -/
theorem yields_ofExec {Result : Type} {run : Exec Result} {post : Result → Prop}
    (returns : Yields run post) : Yields (ofExec run) post := by
  obtain ⟨result, runs, holds⟩ := returns
  exact ⟨result, by rw [runs]; rfl, holds⟩

/-- The identifier of the layer passes its check. -/
theorem yields_check {identifier : Option String}
    (ours : identifier = some eprosimaMicroxrceddsIdentifier) :
    ofExec (checkTypeIdentifiersMatch identifier) = .ok true := by
  simp [ours, checkTypeIdentifiersMatch, ofExec]

end OptionValues

open OptionValues

/-- A proper call on options that are zeroed or initialised returns, and leaves all options
zeroed or initialised. -/
theorem yields_call {call : OptionsCall} (initialised : o.Initialised) (proper : call.Proper o) :
    Yields (o.call cfg call) fun outcome => outcome.2.Initialised := by
  cases call with
  | init options allocator allocation keys =>
      suffices Yields (o.init cfg options allocator (allocation.map Prod.snd) keys) fun outcome =>
          outcome.2.Initialised from this.bind fun outcome holds => yields_ok.mpr holds
      cases options with
      | none => exact yields_ok.mpr initialised
      | some options =>
          simp only [OptionValues.init]
          split
          · rename_i accepted
            rw [Bool.and_eq_true] at accepted
            obtain ⟨⟨address, params⟩, isAllocation⟩ := Option.isSome_iff_exists.mp proper.1
            rw [isAllocation]
            refine (yields_ofExec (yields_init (o.config cfg) params proper.2)).bind
              fun outcome isSome => yields_ok.mpr (initialised.set ?_)
            refine Or.inr ⟨rfl, accepted.1, ?_⟩
            rw [OptionsRecord.initial, Option.isSome_map]
            exact isSome
          · exact yields_ok.mpr initialised
  | copy src dst allocation =>
      suffices Yields (o.copy src dst allocation.isSome) fun outcome =>
          outcome.2.Initialised from this.bind fun outcome holds => yields_ok.mpr holds
      cases src with
      | none => exact yields_ok.mpr initialised
      | some src =>
          cases dst with
          | none => exact yields_ok.mpr initialised
          | some dst =>
              obtain ⟨ours, valid, block⟩ := initialised.block (proper.2 src rfl)
              obtain ⟨old, isOld⟩ := Option.isSome_iff_exists.mp block
              simp only [OptionValues.copy, yields_check ours, ok_bind, if_true]
              split
              · simp only [OptionValues.assign, isOld, proper.1]
                exact yields_ok.mpr (initialised.set (Or.inr ⟨ours, valid, rfl⟩))
              · exact yields_ok.mpr initialised
  | fini options =>
      suffices Yields (o.fini options) fun outcome => outcome.2.Initialised
        from this.bind fun outcome holds => yields_ok.mpr holds
      cases options with
      | none => exact yields_ok.mpr initialised
      | some options =>
          simp only [OptionValues.fini]
          split
          · rename_i valid
            rcases initialised options with zeroed | ⟨ours, -, -⟩
            · rw [zeroed] at valid
              cases valid
            · simp only [yields_check ours, ok_bind, if_true]
              rw [if_pos (proper options · rfl)]
              exact yields_ok.mpr (initialised.set (Or.inl rfl))
          · exact yields_ok.mpr initialised
  | setCustomTransport params =>
      have kept : (o.setCustomTransport params).2.Initialised := by
        unfold OptionValues.setCustomTransport
        split <;> exact initialised
      exact yields_ok.mpr kept
  | change edit options =>
      suffices Yields (o.change (edit.run (o.config cfg)) options) fun outcome =>
          outcome.2.Initialised from this.bind fun outcome holds => yields_ok.mpr holds
      cases options with
      | none =>
          unfold OptionValues.change
          exact (yields_ofExec (yields_change_null edit)).bind fun _ _ => yields_ok.mpr initialised
      | some options =>
          unfold OptionValues.change
          refine initialised.access (proper.1 options rfl) fun isSome => ?_
          exact (yields_change proper isSome).bind fun outcome isSome' => yields_ok.mpr isSome'
  | rmwInit options =>
      cases options with
      | none => exact yields_ok.mpr initialised
      | some options =>
          simp only [OptionValues.call, OptionValues.rmwInit]
          rcases initialised options with zeroed | ⟨ours, -, block⟩
          · rw [zeroed]
            exact yields_ok.mpr initialised
          · obtain ⟨old, isOld⟩ := Option.isSome_iff_exists.mp block
            simp only [isOld, yields_check ours, ok_bind, if_true]
            exact yields_ok.mpr initialised

/-- In a run of proper calls all options are zeroed or initialised. -/
theorem initialised_of_trace
    (run : (optionsInMemory cfg fun m call => call.Proper m.values).Trace {} calls m) :
    m.Owned ∧ m.values.Initialised := by
  have start : ({} : OptionsMemory).Owned ∧ ({} : OptionsMemory).values.Initialised :=
    ⟨owned_start, fun _ => Or.inl rfl⟩
  refine run.invariant (fun m => m.Owned ∧ m.values.Initialised) (fun _ => True)
    (fun _ _ => trivial) ?_ start
  rintro m call answer next ⟨owned, initialised⟩ ⟨sound, proper⟩ - returns
  have alike := @options_call_alike cfg m m.values call owned.represents sound
  obtain ⟨⟨answer', o⟩, isValue, kept⟩ := @yields_call cfg m.values call initialised proper
  have returned : m.call cfg call = .ok (answer, next) := returns
  rw [returned, isValue] at alike
  cases alike with
  | returns both => exact ⟨both.owned, both.values.symm ▸ kept⟩

/-- In every run of proper calls a proper call returns. Each block on the heap belongs to exactly
one variable, can be finalised if and only if it is from the heap of the default allocator, and
when all options are finalised there are none. -/
theorem proper_options_are_safe
    (run : (optionsInMemory cfg fun m call => call.Proper m.values).Trace {} calls m) :
    Owns m.pointers m.blocks ∧
      (∀ call : OptionsCall, call.Sound m → call.Proper m.values →
        (m.call cfg call).isOk = true) ∧
      (∀ options block, (m.read options).impl = some block →
        ((m.call cfg (.fini (some options))).isOk = true ↔
          block.heap = rcutilsGetDefaultAllocator.heap)) ∧
      ((∀ options, (m.options options).implementationIdentifier = none) →
        ∀ address, m.blocks address = none) := by
  obtain ⟨owned, initialised⟩ := initialised_of_trace run
  have returns : ∀ call : OptionsCall, call.Sound m → call.Proper m.values →
      (m.call cfg call).isOk = true := by
    intro call sound proper
    have alike := @options_call_alike cfg m m.values call owned.represents sound
    obtain ⟨outcome, isValue, -⟩ := @yields_call cfg m.values call initialised proper
    rw [isValue] at alike
    generalize m.call cfg call = outcome' at alike ⊢
    cases alike
    rfl
  refine ⟨owned.owns, returns, fun options block isImpl => ⟨fun isOk => ?_, fun isDefault => ?_⟩,
    fun zeroed => owned.owns.blocks_eq_none fun options => owned.null (zeroed options)⟩
  · -- the check of the allocator and that of the identifier pass, and the block is freed
    by_contra foreign
    have alike := @options_call_alike cfg m m.values (.fini (some options)) owned.represents trivial
    have record : (m.values.values options).impl = some block := isImpl
    rcases initialised options with zeroed | ⟨ours, valid, -⟩
    · rw [zeroed] at record
      cases record
    · have faults : m.values.call cfg (.fini (some options)) = .error .foreignBlock := by
        simp only [OptionValues.call, OptionValues.fini, valid, if_true, yields_check ours, ok_bind]
        rw [if_neg fun all => foreign (all block record)]
        rfl
      rw [faults] at alike
      generalize m.call cfg (.fini (some options)) = outcome at alike isOk
      cases alike
      cases isOk
  · refine returns _ trivial ?_
    rintro index other same isOther
    cases same
    cases isImpl.symm.trans isOther
    exact isDefault

namespace SmallOptions

/-- A build with UDP. -/
def udp : TransportConfig where
  transport := .udp false
  discovery := false
  defaultSerialDevice := []
  defaultUdpIp := cstr "127.0.0.1"
  defaultUdpPort := cstr "8888"
  transportDefaultParams := {}

/-- Options are initialised and copied, the copy gets another address, and the first are
finalised. -/
def made : List OptionsCall :=
  [.init (some 0) rcutilsGetDefaultAllocator (some (0, {})) [0, 7],
    .copy (some 0) (some 1) (some (1, {})),
    .change (.setUdpAddress (some (cstr "10.0.0.1")) (some (cstr "9"))) (some 1),
    .fini (some 0)]

def memory : OptionsMemory :=
  made.foldl (optionsInMemory udp fun m call => call.Proper m.values).next {}

theorem trace : (optionsInMemory udp fun m call => call.Proper m.values).Trace {}
    (made.map fun call => (call, (.ok, none))) memory :=
  .cons ⟨fun _ _ _ => rfl, rfl, 7, by decide, by decide⟩ rfl <|
    .cons ⟨fun address _ isAddress => by cases isAddress; rfl, rfl,
      fun _ same => by cases same; rfl⟩ rfl <|
    .cons ⟨trivial, fun _ same => by cases same; rfl, trivial⟩ rfl <|
    .cons ⟨trivial, fun _ block same isImpl => by cases same; cases isImpl; rfl⟩ rfl <| .nil _

end SmallOptions

theorem options_are_values_small :
    (optionsAsValues SmallOptions.udp).Trace {}
      (SmallOptions.made.map fun call => (call, (.ok, none))) SmallOptions.memory.values ∧
    ∀ call : OptionsCall, call.Sound SmallOptions.memory →
      (SmallOptions.memory.call SmallOptions.udp call).map (Prod.map id OptionsMemory.values) =
        SmallOptions.memory.values.call SmallOptions.udp call :=
  options_are_values SmallOptions.trace

theorem proper_options_are_safe_small :
    (SmallOptions.memory.call SmallOptions.udp (.fini (some 1))).isOk = true :=
  ((proper_options_are_safe SmallOptions.trace).2.2.1 1 _ rfl).mpr rfl

end RmwMicroxrcedds
