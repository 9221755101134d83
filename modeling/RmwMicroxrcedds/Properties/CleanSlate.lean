import RmwMicroxrcedds.Agent.Turns
import RmwMicroxrcedds.Properties.TopicOwnership

/-! # A clean slate

When no call that fails leaves anything behind, the sessions in use are those that are open, the
newest first; and once all of them are closed, no item of any pool of entities is in use, no
handle is left on the heap, and no context points at a session: the next run has the room the
first one had.
-/

namespace RmwMicroxrcedds

open Outcome Registry

variable {cfg : Config} {w w' : World} {s s' : Rmw} {op : Op} {pool : Pool} {room : Bool}
variable {node session handle slot : Nat} {result : Option Nat} {exit : CreateExit}

/-- A creation returns its handle or leaves nothing behind, and so does an initialisation. -/
structure Leakless (cfg : Config) (w : World) (op : Op) : Prop where
  tidy : Tidy cfg w op
  topics : op.exit cfg w.rmw ≠ some .topicLeaked
  sessions : ∀ call, op = .init call → initExit cfg call w.rmw ≠ .failed

/-- Such an operation keeps the topics of a tight registry. -/
theorem Leakless.keepsTopics (leakless : Leakless cfg w op) (sound : w.rmw.registry.Sound)
    (tight : w.rmw.registry.Tight fun _ => True) : KeepsTopics cfg w op where
  safe := leakless.tidy.safe sound tight
  topic := leakless.topics
  both := fun absurd => by rcases leakless.tidy _ absurd with same | same | same <;> cases same
  stale := fun _ absurd => by rcases leakless.tidy _ absurd with same | same | same <;> cases same

/-- What a run without leaks keeps. -/
theorem reachable_leakless (reachable : Reachable (layer cfg) (Leakless cfg) w) :
    w.rmw.Healthy cfg everyone ∧ w.rmw.registry.Sound ∧ (w.rmw.registry.Tight fun _ => True) ∧
      w.rmw.registry.TopicsOwned := by
  have keeps : Reachable (layer cfg) (KeepsTopics cfg) w := by
    induction reachable with
    | start => exact .start
    | step before enabled leakless steps ih =>
        obtain ⟨-, sound, tight⟩ := reachable_tight (before.mono fun _ _ => Leakless.tidy)
        exact .step ih enabled (leakless.keepsTopics sound tight) steps
  obtain ⟨healthy, sound, tight⟩ := reachable_tight (reachable.mono fun _ _ => Leakless.tidy)
  exact ⟨healthy, sound, tight, (topicsOwned_of_reachable keeps).1⟩

/-- No operation but `rmw_init` takes a session, and none changes the order of the others. -/
theorem exec_sessions (healthy : w.rmw.Healthy cfg everyone) (sound : w.rmw.registry.Sound)
    (enabled : Enabled cfg w op) (safe : Safe cfg w op) (notInit : ∀ call, op ≠ .init call)
    (returned : exec cfg op w = .ok w') :
    (w'.rmw.registry.allocated .session).Sublist (w.rmw.registry.allocated .session) := by
  have kept : ∀ {s' : Rmw}, s'.registry.allocated .session = w.rmw.registry.allocated .session →
      (s'.registry.allocated .session).Sublist (w.rmw.registry.allocated .session) := by
    intro s' same
    rw [same]
  cases exec_turn healthy sound enabled.1 enabled.2 safe returned with
  | opens call => exact absurd rfl (notInit call)
  | closes op context closed ret s' closes => exact closes.removal.order .session
  | refused => exact .refl _
  | creates op pool home result s' creates => exact kept creates.sessions
  | destroys op home gone s' destroys => exact destroys.removal.order .session
  | passes op s' undisturbed =>
      exact kept (congrArg (Registry.allocated · .session) undisturbed.registry)

/-- No operation but `rmw_init` opens a session, and those that close one keep the others in
their order. -/
theorem exec_opened (notInit : ∀ call, op ≠ .init call) (returned : exec cfg op w = .ok w') :
    w'.opened.Sublist w.opened := by
  cases op with
  | init call => exact absurd rfl (notInit call)
  | contextFini | shutdown =>
      obtain ⟨result, -, isReturned⟩ := bind_eq_ok.mp returned
      cases isReturned
      exact List.filter_sublist
  | _ =>
      obtain ⟨result, -, isReturned⟩ := bind_eq_ok.mp returned
      cases isReturned
      exact List.Sublist.refl _

/-- A part of a list without repetitions is made of the members it has. -/
theorem filter_mem_of_sublist {Member : Type*} [DecidableEq Member] {all part : List Member}
    (nodup : all.Nodup) (isPart : part.Sublist all) : all.filter (· ∈ part) = part := by
  induction isPart with
  | slnil => rfl
  | @cons part all head isPart ih =>
      obtain ⟨outside, nodup⟩ := List.nodup_cons.mp nodup
      rw [List.filter_cons_of_neg, ih nodup]
      simpa using fun inside => outside (isPart.subset inside)
  | @cons_cons part all head isPart ih =>
      obtain ⟨outside, nodup⟩ := List.nodup_cons.mp nodup
      rw [List.filter_cons_of_pos (by simp)]
      congr 1
      calc all.filter (· ∈ head :: part)
          = all.filter (· ∈ part) := List.filter_congr fun member inside => by
            have different : member ≠ head := by
              rintro rfl
              exact outside inside
            simp [different]
        _ = part := ih nodup

/-- A step that takes no session keeps those in use to the open ones. -/
theorem Change.mem_opened {leaks : List Pool} {gone : Pool → Nat → Prop}
    (change : Change cfg room leaks gone w w') (sound : w.rmw.registry.Sound)
    (sessions : (w'.rmw.registry.allocated .session).Sublist (w.rmw.registry.allocated .session))
    (same : w.rmw.registry.allocated .session = w.opened) :
    session ∈ w'.rmw.registry.allocated .session ↔ session ∈ w'.opened := by
  have grows : (∀ session ∈ w.rmw.registry.allocated .session,
      session ∈ w'.rmw.registry.allocated .session) → w'.opened = w.opened →
      (session ∈ w'.rmw.registry.allocated .session ↔ session ∈ w'.opened) := by
    intro grows opened
    rw [opened, ← same]
    exact ⟨fun inside => sessions.subset inside, grows session⟩
  cases change with
  | idle agrees advance returned opened =>
      apply grows _ opened
      rw [agrees.allocated]
      exact fun _ => id
  | leaked grown nonempty advance returned opened => exact grows (fun _ => grown.grows) opened
  | node session handle slot entity new inside agrees advance returned opened =>
      apply grows _ opened
      rw [agrees.sessions_of_addEntity (by decide)]
      exact fun _ => id
  | leaf pool node nodeHandle session handle slot entity base isLeaf new nodeBound context
      withTopic agrees advance returned opened =>
      obtain ⟨-, grown, -⟩ := withTopic.base sound
      apply grows _ opened
      rw [agrees.sessions_of_addEntity (Pool.session_ne_of_isLeaf isLeaf)]
      exact fun _ => grown.grows
  | removed removal advance returned opened =>
      rw [removal.kept (by decide), opened, same]
  | attached context taken objects attached =>
      refine absurd (sessions.subset ?_) attached.free
      simp [attached.registry]

/-- In a run without leaks the sessions in use are those that are open, the newest first. -/
theorem allocated_eq_opened (reachable : Reachable (layer cfg) (Leakless cfg) w) :
    w.rmw.registry.allocated .session = w.opened := by
  induction reachable with
  | start => exact allocated_start
  | @step w w' op before enabled leakless steps ih =>
      obtain ⟨healthy, sound, tight, -⟩ := reachable_leakless before
      have safe := leakless.tidy.safe sound tight
      by_cases isInit : ∃ call, op = .init call
      · obtain ⟨call, rfl⟩ := isInit
        obtain ⟨⟨ret, s'⟩, initialises, isReturned⟩ := bind_eq_ok.mp steps
        cases isReturned
        obtain ⟨-, initialisation⟩ := (rmwInit_spec healthy enabled.2).of_eq_ok initialises
        cases exit : initExit cfg call w.rmw with
        | rejected =>
            rw [exit] at initialisation
            obtain ⟨notOk, rfl⟩ := initialisation
            simpa [World.opening, notOk] using ih
        | exhausted =>
            rw [exit] at initialisation
            obtain ⟨notOk, same, -⟩ := initialisation
            simpa [World.opening, notOk, same] using ih
        | failed => exact absurd exit (leakless.sessions call rfl)
        | completed =>
            rw [exit] at initialisation
            obtain ⟨rfl, context, session, isContext, attached, -⟩ := initialisation
            have isImpl : (s'.contexts context).impl = some session := by
              have same : s'.registry.impl context = some session := by simp [attached.registry]
              exact same
            simp [World.opening, World.initialised, isContext, isImpl, attached.registry, ih]
      · have notInit : ∀ call, op ≠ .init call := fun call same => isInit ⟨call, same⟩
        have nodup : w.opened.Nodup := ih ▸ healthy.nodup
        have sessions := exec_sessions healthy sound enabled safe notInit steps
        obtain ⟨-, -, change⟩ := (exec_spec healthy sound enabled.1 enabled.2 safe).of_eq_ok steps
        calc w'.rmw.registry.allocated .session
            = w.opened.filter (· ∈ w'.rmw.registry.allocated .session) :=
              (filter_mem_of_sublist nodup (ih ▸ sessions)).symm
          _ = w.opened.filter (· ∈ w'.opened) := List.filter_congr fun session _ => by
              simp only [change.mem_opened sound sessions ih]
          _ = w'.opened := filter_mem_of_sublist nodup (exec_opened notInit steps)

/-- The sessions in use are those of the open contexts, the newest first. -/
theorem sessions_eq_opened (reachable : Reachable (layer cfg) (Leakless cfg) w) :
    w.rmw.allocated .session = w.opened := by
  rw [← allocated_eq_opened reachable, Rmw.registry_allocated (by decide)]

/-- No slot of a pool of entities is in use, and all of them can be taken again; no handle is
left on the heap, and no context points at a session. -/
structure GivenBack (cfg : Config) (s : Rmw) : Prop where
  unused : ∀ pool, pool ≠ .staticBuffer → s.allocated pool = []
  room : ∀ pool, pool ≠ .staticBuffer → (s.memory pool).isInitialized = true →
    (s.free pool).Perm (List.range (cfg.poolSize pool))
  handles : ∀ pool handle, (s.handles pool).block handle = none
  contexts : ∀ context, (s.contexts context).impl = none

/-- Without sessions, nothing is in use. -/
theorem GivenBack.of_no_session (healthy : s.Healthy cfg everyone) (sound : s.registry.Sound)
    (tight : s.registry.Tight fun _ => True) (topics : s.registry.TopicsOwned)
    (none : s.registry.allocated .session = []) : GivenBack cfg s := by
  have unbound : ∀ pool handle slot, ¬ s.registry.Bound pool handle slot := by
    intro pool handle slot bound
    obtain ⟨session, inside, -⟩ := sound.session_of_held (Or.inl ⟨_, bound⟩)
    rw [none] at inside
    cases inside
  have unused : ∀ pool, pool ≠ .staticBuffer → s.allocated pool = [] := by
    intro pool entities
    rw [← Rmw.registry_allocated entities]
    refine List.eq_nil_iff_forall_not_mem.mpr fun slot inside => ?_
    cases handles : pool.hasHandle with
    | true =>
        obtain ⟨handle, bound⟩ := tight pool slot trivial handles inside
        exact unbound _ _ _ bound
    | false =>
        cases pool with
        | session =>
            rw [none] at inside
            cases inside
        | topic =>
            obtain ⟨pool, handle, owner, -, bound, -⟩ := topics.used slot inside
            exact unbound _ _ _ bound
        | staticBuffer => exact entities rfl
        | node | publisher | subscription | service | client => cases handles
  refine ⟨unused, fun pool entities initialized => ?_, fun pool handle => ?_, fun context => ?_⟩
  · have wf := healthy.wf pool
    have size : (s.memory pool).size = cfg.poolSize pool := by
      rcases healthy.sized pool with zeroed | ⟨-, size⟩
      · rw [zeroed] at initialized
        cases initialized
      · exact size
    refine (List.perm_ext_iff_of_nodup (List.nodup_append.mp wf.nodup).1 List.nodup_range).mpr
      fun item => ?_
    have cover := wf.cover item
    rw [show (s.memory pool).allocated = [] from unused pool entities, List.append_nil, size]
      at cover
    exact cover.trans List.mem_range.symm
  · refine Option.eq_none_iff_forall_ne_some.mpr fun contents isBlock => ?_
    have isData : s.registry.data pool handle = some contents.data := by
      simp [Rmw.registry, isBlock]
    cases data : contents.data with
    | none => exact sound.filled (isData.trans (congrArg some data))
    | some slot => exact unbound pool handle slot (isData.trans (congrArg some data))
  · refine Option.eq_none_iff_forall_ne_some.mpr fun session isImpl => ?_
    have inside := sound.impl isImpl
    rw [none] at inside
    cases inside

/-- In every run in which the calls that fail leave nothing behind, whatever contexts, nodes and
entities come and go, the sessions in use are the open ones, the newest first; every handle leads
into one of them; and whenever the last one is closed, everything has been given back. -/
theorem clean_slate (reachable : Reachable (layer cfg) (Leakless cfg) w) :
    w.rmw.allocated .session = w.opened ∧
      (∀ pool handle slot, w.rmw.registry.Bound pool handle slot →
        ∃ session ∈ w.opened, w.rmw.registry.sessionOf pool slot = some session) ∧
      (w.opened = [] → GivenBack cfg w.rmw) := by
  obtain ⟨healthy, sound, tight, topics⟩ := reachable_leakless reachable
  have sessions := allocated_eq_opened reachable
  exact ⟨sessions_eq_opened reachable, fun pool handle slot bound => sessions ▸
    sound.session_of_held (Or.inl ⟨_, bound⟩), fun closed =>
      .of_no_session healthy sound tight topics (sessions.trans closed)⟩

namespace Small

/-- The layer after the context of the publisher is closed. -/
def closed : World := (layer config).next (.contextFini 0 {}) withPublisher

/-- An operation of the small run leaves nothing behind. -/
theorem leakless_of_exit {w : World} {op : Op} (exit : op.exit config w.rmw = some .created) :
    Leakless config w op where
  tidy := fun _ isExit => Or.inl (Option.some.inj (isExit.symm.trans exit))
  topics := by
    rw [exit]
    decide
  sessions := by
    rintro call rfl
    cases exit

theorem withPublisher_leakless : Reachable (layer config) (Leakless config) withPublisher := by
  refine withPublisher_reachable ⟨?_, ?_, ?_⟩ (leakless_of_exit rfl) (leakless_of_exit rfl)
  · exact fun _ absurd => by cases absurd
  · exact fun absurd => by cases absurd
  · rintro call isCall
    cases isCall
    decide

theorem closed_leakless : Reachable (layer config) (Leakless config) closed := by
  refine .next withPublisher_leakless ⟨rfl, ?_⟩ ⟨?_, ?_, ?_⟩ rfl
  · exact fun _ _ => ContextTeardown.acceptable_of_quiet (fun _ => {}) rfl
  · exact fun _ absurd => by cases absurd
  · exact fun absurd => by cases absurd
  · rintro call absurd
    cases absurd

end Small

/-- After the context is closed, with its node and its publisher in use, nothing is left. -/
theorem Small.closed_clean : GivenBack config closed.rmw :=
  (clean_slate closed_leakless).2.2 rfl

end RmwMicroxrcedds
