import Mathlib.Data.Nat.Prime.Basic
import RmwMicroxrcedds.Machine.Run
import RmwMicroxrcedds.Refinement.Waiting

/-! # The timeouts of a wait

`rmw_wait` converts its timeout to milliseconds, saturating at `INT_MAX`, and divides it among
the sessions. The conversion never wraps around. The division counts the sessions in eight
bits, and takes the sentinel of an infinite wait for a number.
-/

namespace RmwMicroxrcedds

open Outcome Arithmetic

variable {cfg : Config} {admits : Admission} {w : Waitable}

/-- The requested time in milliseconds, capped at `INT_MAX`. -/
def RmwTime.milliseconds (time : RmwTime) : Nat :=
  min intMax (time.sec.toNat * 1000 + time.nsec.toNat / 1000000)

theorem toNat_intMaxWord : intMaxWord.toNat = intMax := by decide

theorem toNat_uint64Max : uint64Max.toNat = 2 ^ 64 - 1 := by decide

/-- The conversion, with operations that wrap around, as the tests it makes. -/
theorem timeoutOf_some (time : RmwTime) : timeoutOf (some time) =
    if time.sec ≥ uint64Max / 1000 then intMaxWord
    else if uint64Max - time.sec * 1000 ≤ time.nsec / 1000000 then intMaxWord
    else if time.sec * 1000 + time.nsec / 1000000 > intMaxWord then intMaxWord
    else time.sec * 1000 + time.nsec / 1000000 := by
  simp only [timeoutOf, timeoutIn, wrapping, Id.run, bind, pure]
  rfl

/-- The conversion, with operations that refuse to wrap around, has a result: the capped sum. -/
theorem timeoutIn_exact (time : RmwTime) :
    timeoutIn (exact 64) time = some (timeoutOf (some time)) ∧
      (timeoutOf (some time)).toNat = time.milliseconds := by
  have thousand : (1000 : BitVec 64).toNat = 1000 := by decide
  have limit : (uint64Max / 1000).toNat = (2 ^ 64 - 1) / 1000 := by
    rw [BitVec.toNat_udiv, toNat_uint64Max, thousand]
  have literal : (1000000 : BitVec 64).toNat = 1000000 := by decide
  have million : (time.nsec / 1000000).toNat = time.nsec.toNat / 1000000 := by
    rw [BitVec.toNat_udiv, literal]
  have nsecBound : time.nsec.toNat < 2 ^ 64 := time.nsec.isLt
  rw [timeoutOf_some]
  unfold timeoutIn RmwTime.milliseconds
  by_cases huge : time.sec ≥ uint64Max / 1000
  · have huge' : (2 ^ 64 - 1) / 1000 ≤ time.sec.toNat := limit ▸ BitVec.le_def.mp huge
    rw [if_pos huge, if_pos huge, toNat_intMaxWord, intMax]
    exact ⟨rfl, by omega⟩
  · have small : time.sec.toNat < (2 ^ 64 - 1) / 1000 := by
      rw [← limit]
      exact Nat.lt_of_not_le fun le => huge (BitVec.le_def.mpr le)
    -- below the limit the seconds in milliseconds are a word
    have fits : time.sec.toNat * (1000 : BitVec 64).toNat < 2 ^ 64 := by
      rw [thousand]
      omega
    obtain ⟨product, isProduct⟩ := exact_mul fits
    rw [thousand] at isProduct
    have ordered : (time.sec * 1000).toNat ≤ uint64Max.toNat := by
      rw [isProduct, toNat_uint64Max]
      omega
    obtain ⟨difference, room⟩ := exact_sub ordered
    rw [isProduct, toNat_uint64Max] at room
    rw [if_neg huge, if_neg huge, product, Option.bind_eq_bind, Option.bind_some]
    dsimp only
    rw [difference, Option.bind_some]
    by_cases full : uint64Max - time.sec * 1000 ≤ time.nsec / 1000000
    · have full' := BitVec.le_def.mp full
      rw [room, million] at full'
      rw [if_pos full, if_pos full, toNat_intMaxWord, intMax]
      exact ⟨rfl, by omega⟩
    · have notFull := Nat.lt_of_not_le fun le => full (BitVec.le_def.mpr le)
      rw [room, million] at notFull
      have fits' : (time.sec * 1000).toNat + (time.nsec / 1000000).toNat < 2 ^ 64 := by
        rw [isProduct, million]
        omega
      obtain ⟨sum, isSum⟩ := exact_add fits'
      rw [isProduct, million] at isSum
      rw [if_neg full, if_neg full, sum, Option.bind_some]
      by_cases large : time.sec * 1000 + time.nsec / 1000000 > intMaxWord
      · have large' := BitVec.lt_def.mp large
        rw [isSum, toNat_intMaxWord] at large'
        rw [if_pos large, if_pos large, toNat_intMaxWord]
        exact ⟨rfl, by omega⟩
      · have within := Nat.le_of_not_lt fun lt => large (BitVec.lt_def.mpr lt)
        rw [isSum, toNat_intMaxWord] at within
        rw [if_neg large, if_neg large, isSum]
        exact ⟨rfl, by omega⟩

/-- The conversion to milliseconds saturates exactly, without any operation that wraps around,
and is monotone in the seconds and in the nanoseconds. -/
theorem timeout_saturates (time : RmwTime) :
    (timeoutOf (some time)).toNat =
        min intMax (time.sec.toNat * 1000 + time.nsec.toNat / 1000000) ∧
      timeoutIn (exact 64) time = some (timeoutOf (some time)) ∧
      ∀ later : RmwTime, time.sec ≤ later.sec → time.nsec ≤ later.nsec →
        timeoutOf (some time) ≤ timeoutOf (some later) := by
  obtain ⟨exactly, value⟩ := timeoutIn_exact time
  refine ⟨value, exactly, fun later seconds nanoseconds => ?_⟩
  have seconds' := BitVec.le_def.mp seconds
  have nanoseconds' : time.nsec.toNat / 1000000 ≤ later.nsec.toNat / 1000000 :=
    Nat.div_le_div_right (BitVec.le_def.mp nanoseconds)
  rw [BitVec.le_def, value, (timeoutIn_exact later).2]
  unfold RmwTime.milliseconds
  omega

/-- What the division among `n` sessions should hand to each: an infinite wait stays infinite,
and a finite one is divided so that the waits together do not exceed it. -/
def Shares (waitTimeout : Option RmwTime) (n : Nat) (timeout : BitVec 32) : Prop :=
  match waitTimeout with
  | none => timeout = uxrTimeoutInf
  | some time => 0 ≤ timeout.toInt ∧ timeout.toInt ≤ intMax ∧
      timeout.toInt = (time.milliseconds / n : Nat) ∧ n * timeout.toInt ≤ time.milliseconds

/-- The number of sessions, counted in eight bits, divides the wait as the number itself. -/
def Divides (waitTimeout : Option RmwTime) (n : Nat) : Prop :=
  match waitTimeout with
  | none => n % 256 ∣ 2 ^ 64
  | some time => n < 256 ∨ time.milliseconds < n % 256

/-- The largest word, divided, has all its lower bits set if and only if the divisor divides the
number of words. -/
theorem lower_bits_iff {m : Nat} (positive : 0 < m) (small : m < 2 ^ 8) :
    (2 ^ 64 - 1) / m % 2 ^ 32 = 2 ^ 32 - 1 ↔ m ∣ 2 ^ 64 := by
  have below : m * ((2 ^ 64 - 1) / m) ≤ 2 ^ 64 - 1 := Nat.mul_div_le _ _
  have above : 2 ^ 64 - 1 < m * ((2 ^ 64 - 1) / m + 1) := Nat.lt_mul_div_succ _ positive
  constructor
  · intro ones
    -- the quotient and one is a multiple of 2 ^ 32, and so is its product with the divisor
    obtain ⟨k, isMultiple⟩ : 2 ^ 32 ∣ (2 ^ 64 - 1) / m + 1 := by omega
    have product : m * ((2 ^ 64 - 1) / m + 1) = 2 ^ 32 * (m * k) := by
      rw [isMultiple, Nat.mul_left_comm]
    rw [Nat.mul_succ] at above product
    refine ⟨(2 ^ 64 - 1) / m + 1, ?_⟩
    rw [Nat.mul_succ]
    omega
  · intro divides
    obtain ⟨k, isPower⟩ := divides
    have quotient : (2 ^ 64 - 1) / m = k - 1 := by
      apply Nat.div_eq_of_lt_le
      · rw [Nat.sub_mul, Nat.mul_comm k, ← isPower]
        omega
      · rw [Nat.succ_mul, Nat.sub_mul, Nat.mul_comm k, ← isPower]
        omega
    obtain ⟨i, -, isM⟩ := (Nat.dvd_prime_pow Nat.prime_two).mp ⟨k, isPower⟩
    have few : i < 8 := (Nat.pow_lt_pow_iff_right (by decide)).mp (isM ▸ small)
    have isK : k = 2 ^ (64 - i) := by
      apply Nat.eq_of_mul_eq_mul_left positive
      rw [← isPower, isM, ← Nat.pow_add]
      congr 1
      omega
    have some : 0 < k := isK ▸ Nat.two_pow_pos _
    obtain ⟨j, isMultiple⟩ : 2 ^ 32 ∣ k := by
      rw [isK]
      exact Nat.pow_dvd_pow 2 (by omega)
    omega

/-- The sessions counted in eight bits, when there are any. -/
theorem toNat_ofNat_eight (n : Nat) : (BitVec.ofNat 8 n).toNat = n % 256 := by
  rw [BitVec.toNat_ofNat]

/-- A quotient below two to the 31, as an `int`. -/
theorem toInt_quotient {value : Nat} (small : value ≤ intMax) :
    ((BitVec.ofNat 64 value).setWidth 32).toInt = value := by
  have bound : value < 2 ^ 31 := Nat.lt_of_le_of_lt small (by decide)
  have value' : ((BitVec.ofNat 64 value).setWidth 32).toNat = value := by
    rw [BitVec.toNat_setWidth, BitVec.toNat_ofNat]
    omega
  rw [BitVec.toInt_eq_toNat_of_lt (by rw [value']; omega), value']

/-- A finite wait divided among sessions. -/
theorem shares_finite {time : RmwTime} {n m : Nat} (positive : 0 < m) (least : m ≤ n)
    (counted : m = n % 256) :
    Shares (some time) n ((BitVec.ofNat 64 (time.milliseconds / m)).setWidth 32) ↔
      Divides (some time) n := by
  have capped : time.milliseconds ≤ intMax := Nat.min_le_left _ _
  have quotient : time.milliseconds / m ≤ intMax :=
    Nat.le_trans (Nat.div_le_self _ _) capped
  simp only [Shares, Divides, toInt_quotient quotient]
  have total := Nat.mul_div_le time.milliseconds n
  constructor
  · intro shares
    obtain ⟨-, -, same, -⟩ := shares
    have same' : time.milliseconds / m = time.milliseconds / n := by exact_mod_cast same
    by_cases few : n < 256
    · exact Or.inl few
    · refine Or.inr (counted ▸ Nat.lt_of_not_le fun enough => ?_)
      -- a quotient of one and more would have to be divided out by both
      have some : 1 ≤ time.milliseconds / m := (Nat.one_le_div_iff positive).mpr enough
      have above := Nat.lt_mul_div_succ time.milliseconds positive
      rw [same', Nat.mul_succ] at above
      rw [same'] at some
      have apart : m + 256 ≤ n := by omega
      have more : (m + 256) * (time.milliseconds / n) ≤ n * (time.milliseconds / n) :=
        Nat.mul_le_mul_right _ apart
      rw [Nat.add_mul] at more
      have few' : m < 256 := by omega
      omega
  · intro divides
    have same : time.milliseconds / m = time.milliseconds / n := by
      rcases divides with few | less
      · rw [counted, Nat.mod_eq_of_lt few]
      · rw [← counted] at less
        rw [Nat.div_eq_of_lt less, Nat.div_eq_of_lt (Nat.lt_of_lt_of_le less least)]
    rw [same]
    exact ⟨Int.natCast_nonneg _, by exact_mod_cast same ▸ quotient, rfl, by exact_mod_cast total⟩

/-- An infinite wait divided among sessions. -/
theorem shares_infinite {n m : Nat} (positive : 0 < m) (counted : m = n % 256) :
    Shares none n ((BitVec.ofNat 64 ((2 ^ 64 - 1) / m)).setWidth 32) ↔ Divides none n := by
  have small : m < 2 ^ 8 := counted ▸ Nat.mod_lt _ (by decide)
  have word : (2 ^ 64 - 1) / m < 2 ^ 64 := Nat.lt_of_le_of_lt (Nat.div_le_self _ _) (by decide)
  have sentinel : uxrTimeoutInf.toNat = 2 ^ 32 - 1 := by decide
  unfold Shares Divides
  rw [← counted, ← lower_bits_iff positive small, ← BitVec.toNat_inj, sentinel,
    BitVec.toNat_setWidth, BitVec.toNat_ofNat, Nat.mod_eq_of_lt word]

/-- The share a call hands to each of the sessions, whatever a quotient without a value is. -/
theorem shares_perSessionTimeout (call : WaitArguments) {n : Nat} (positive : 0 < n) :
    (∀ unspecified, Shares call.waitTimeout n
      (WaitArguments.perSessionTimeout { call with unspecified := unspecified }
        (BitVec.ofNat 8 n))) ↔ Divides call.waitTimeout n := by
  unfold WaitArguments.perSessionTimeout floatQuotient
  by_cases none : n % 256 = 0
  · -- as many sessions as are counted as none
    have zero : BitVec.ofNat 8 n = 0 := by
      apply BitVec.eq_of_toNat_eq
      rw [toNat_ofNat_eight, none]
      rfl
    simp only [if_pos zero]
    constructor
    · intro shares
      cases given : call.waitTimeout with
      | none =>
          have wrong : (0 : BitVec 64).setWidth 32 = uxrTimeoutInf := by
            have share := shares 0
            rw [given] at share
            exact share
          exact absurd wrong (by decide)
      | some time =>
          have negative : 0 ≤ ((-1 : BitVec 64).setWidth 32).toInt := by
            have share := shares (-1)
            rw [given] at share
            exact share.1
          exact absurd negative (by decide)
    · intro divides
      cases given : call.waitTimeout with
      | none =>
          rw [given, Divides, none] at divides
          exact absurd divides (by decide)
      | some time =>
          rw [given, Divides, none] at divides
          omega
  · have counted : (BitVec.ofNat 8 n).toNat = n % 256 := toNat_ofNat_eight n
    have nonzero : BitVec.ofNat 8 n ≠ 0 := by
      intro zero
      rw [zero] at counted
      exact none counted.symm
    have some : 0 < n % 256 := Nat.pos_of_ne_zero none
    simp only [if_neg nonzero, counted]
    cases given : call.waitTimeout with
    | none =>
        have infinite : (timeoutOf Option.none).toNat = 2 ^ 64 - 1 := by decide
        rw [infinite, ← shares_infinite some rfl]
        exact forall_const _
    | some time =>
        rw [(timeoutIn_exact time).2, ← shares_finite some (Nat.mod_le _ _) rfl]
        exact forall_const _

/-- `rmw_wait` divides its timeout among the sessions as it should if and only if the number of
sessions, counted in eight bits, does: below 256 a finite wait is divided right, and an infinite
one stays infinite if the number counted is a power of two. -/
theorem timeouts_shared_iff {call : WaitArguments} {addresses : List Nat}
    (healthy : w.rmw.Healthy cfg admits) (acceptable : call.Acceptable cfg admits w.rmw.registry)
    (lists : w.guards.Lists call.guardConditions addresses)
    (positive : 0 < (w.rmw.allocated .session).length) :
    (∀ unspecified, ∃ result w',
      w.rmwWait cfg { call with unspecified := unspecified } = .ok (result, w') ∧
      result.timeouts.map Prod.fst = w.rmw.allocated .session ∧
      ∀ run ∈ result.timeouts,
        Shares call.waitTimeout (w.rmw.allocated .session).length run.2) ↔
      Divides call.waitTimeout (w.rmw.allocated .session).length := by
  rw [← shares_perSessionTimeout call positive]
  apply forall_congr'
  intro unspecified
  obtain ⟨s', -, -, -, waits⟩ := @Waitable.rmwWait_spec cfg admits w addresses healthy
    { call with unspecified := unspecified } (acceptable.arriving _ _) lists
  rw [waits]
  constructor
  · intro returned
    obtain ⟨result, w', same, sessions, shares⟩ := returned
    cases same
    obtain ⟨session, held⟩ := List.exists_mem_of_length_pos positive
    exact shares _ (List.mem_map.mpr ⟨session, held, rfl⟩)
  · intro share
    refine ⟨_, _, rfl, ?_, fun run inside => ?_⟩
    · simp [WaitArguments.returns, Function.comp_def]
    · obtain ⟨session, -, rfl⟩ := List.mem_map.mp inside
      exact share

namespace Small

/-- A build with room for three sessions. -/
def threeConfig : Config := { config with maxSessions := 3 }

/-- `rmw_init` on a context, with every step succeeding. -/
def initOf (context : Nat) : Op := .init { init with context := some context }

/-- The layer after `rmw_init` on three contexts. -/
def threeSessions : World :=
  (layer threeConfig).next (initOf 2)
    ((layer threeConfig).next (initOf 1) ((layer threeConfig).next (initOf 0) {}))

theorem threeSessions_reachable :
    Reachable (layer threeConfig) (Safe threeConfig) threeSessions := by
  have quiet : ∀ w context, (layer threeConfig).enabled w (initOf context) :=
    fun _ _ => ⟨trivial, fun _ _ _ inside => by cases inside⟩
  have first : Reachable (layer threeConfig) (Safe threeConfig)
      ((layer threeConfig).next (initOf 0) {}) :=
    .next .start (quiet _ _) ⟨by decide, by decide, trivial⟩ rfl
  have second : Reachable (layer threeConfig) (Safe threeConfig)
      ((layer threeConfig).next (initOf 1) ((layer threeConfig).next (initOf 0) {})) :=
    .next first (quiet _ _) ⟨by decide, by decide, trivial⟩ rfl
  exact .next second (quiet _ _) ⟨by decide, by decide, trivial⟩ rfl

/-- A wait without a timeout. -/
def endless (unspecified : BitVec 64) : WaitArguments where
  unspecified := unspecified

theorem endless_acceptable {unspecified : BitVec 64} {r : Registry} :
    (endless unspecified).Acceptable threeConfig everyone r :=
  fun _ _ _ arrives => by cases arrives

end Small

/-- An endless wait on three sessions. -/
theorem timeouts_shared_iff_small :
    (∀ unspecified, ∃ result w',
      Waitable.rmwWait Small.threeConfig (Small.endless unspecified)
        { rmw := Small.threeSessions.rmw } = .ok (result, w') ∧
      result.timeouts.map Prod.fst = Small.threeSessions.rmw.allocated .session ∧
      ∀ run ∈ result.timeouts,
        Shares none (Small.threeSessions.rmw.allocated .session).length run.2) ↔
      Divides none (Small.threeSessions.rmw.allocated .session).length := by
  obtain ⟨healthy, -⟩ := reachable_sound Small.threeSessions_reachable fun _ _ => id
  exact @timeouts_shared_iff _ _ { rmw := Small.threeSessions.rmw } (Small.endless 0) []
    healthy Small.endless_acceptable ⟨rfl, List.nodup_nil, fun _ => nofun⟩ (by decide)

/-- An endless wait on three sessions hands a finite time to each of them. -/
theorem endless_wait_ends :
    Reachable (layer Small.threeConfig) (Safe Small.threeConfig) Small.threeSessions ∧
    ∃ result w', Waitable.rmwWait Small.threeConfig (Small.endless 0)
        { rmw := Small.threeSessions.rmw } = .ok (result, w') ∧
      result.timeouts = [(0, 0x55555555), (1, 0x55555555), (2, 0x55555555)] ∧
      ¬ ∀ run ∈ result.timeouts, Shares none 3 run.2 := by
  refine ⟨Small.threeSessions_reachable, _, _, rfl, rfl, fun shares => ?_⟩
  have wrong : (0x55555555 : BitVec 32) = uxrTimeoutInf := shares (0, _) List.mem_cons_self
  exact absurd wrong (by decide)

end RmwMicroxrcedds
