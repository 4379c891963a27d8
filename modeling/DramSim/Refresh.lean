import DramSim.Frame

/-! # The refresh schedule

`update()` checks only the countdown of `refreshRank`, while the countdowns of all ranks go
down every cycle. The constructor staggers the ranks `Q = P / NUM_RANKS` apart, where `P`
is the value a countdown is re-armed with. When `P ≥ NUM_RANKS` the ranks fall due one at
a time and in order, each exactly when it is the one checked: rank `r` is asked for a
refresh at updates `Q·(r+1) + m·P` and at no others, and no countdown goes below 0.
-/

namespace DramSim

variable (cfg : Config)

/-- `Q`, the spacing of the ranks' first refreshes. -/
def Config.refreshStagger : Nat := cfg.refreshPeriod / cfg.NUM_RANKS

/-- The update at which rank `r` is first due: the constructor's countdown `Q·(r+1)`. -/
def Config.firstRefresh (r : Nat) : Nat := cfg.refreshStagger * (r + 1)

/-- Rank `r`'s refresh countdown at the start of update number `k`, as the rank alone would
run it: the stagger, one decrement per update, re-armed with the period at 0. -/
def refreshCountdownAt (r : Nat) : Nat → Nat
  | 0 => cfg.firstRefresh r
  | k + 1 =>
      (if refreshCountdownAt r k = 0 then cfg.refreshPeriod else refreshCountdownAt r k) - 1

/-- `refreshRank` at the start of update number `k`: the gate moves it on whenever the
rank it points at is due. -/
def refreshRankAt : Nat → Nat
  | 0 => 0
  | k + 1 =>
      if refreshCountdownAt cfg (refreshRankAt k) k = 0 then
        (if refreshRankAt k + 1 = cfg.NUM_RANKS then 0 else refreshRankAt k + 1)
      else refreshRankAt k

/-- The `needRefresh` calls of the first `k` updates, as (update, rank) pairs. -/
def refreshCalls : Nat → List (Nat × Nat)
  | 0 => []
  | k + 1 => refreshCalls k ++
      if refreshCountdownAt cfg (refreshRankAt cfg k) k = 0 then [(k, refreshRankAt cfg k)]
      else []

/-- The invariant of the refresh machine at update `k`: the pointer is a rank, and every
rank's countdown is the pointer's plus `Q` per rank ahead of it, a period less for the
ranks behind it. -/
def RefreshOrder (k : Nat) : Prop :=
  refreshRankAt cfg k < cfg.NUM_RANKS ∧ ∀ i < cfg.NUM_RANKS,
    refreshCountdownAt cfg i k + cfg.refreshStagger * refreshRankAt cfg k =
      refreshCountdownAt cfg (refreshRankAt cfg k) k + cfg.refreshStagger * i +
        (if i < refreshRankAt cfg k then cfg.refreshPeriod else 0)

/-- The update and rank of a `needRefresh` call. -/
def Effect.refreshCall : Effect → Option (Nat × Nat)
  | .needRefresh c r => some (c, r)
  | _ => none

/-- The rank a `needRefresh` call is for. -/
def Effect.refreshedRank (e : Effect) : Option Nat := e.refreshCall.map Prod.snd

variable {cfg}

/-! ## One rank's countdown -/

theorem refreshCountdownAt_succ_of_pos {r k : Nat} (h : 0 < refreshCountdownAt cfg r k) :
    refreshCountdownAt cfg r (k + 1) = refreshCountdownAt cfg r k - 1 := by
  rw [refreshCountdownAt, if_neg (Nat.pos_iff_ne_zero.mp h)]

theorem refreshCountdownAt_succ_of_eq_zero {r k : Nat} (h : refreshCountdownAt cfg r k = 0) :
    refreshCountdownAt cfg r (k + 1) = cfg.refreshPeriod - 1 := by
  rw [refreshCountdownAt, if_pos h]

section Countdown

variable {r : Nat}

theorem refreshCountdownAt_of_le {k : Nat} (hk : k ≤ cfg.firstRefresh r) :
    refreshCountdownAt cfg r k = cfg.firstRefresh r - k := by
  induction k with
  | zero => rfl
  | succ k ih =>
      rw [refreshCountdownAt, ih (by omega), if_neg (by omega)]
      omega

/-- After a zero the countdown runs down the whole period. -/
theorem refreshCountdownAt_add_of_eq_zero {k : Nat} (hzero : refreshCountdownAt cfg r k = 0) :
    ∀ i, 0 < i → i ≤ cfg.refreshPeriod →
      refreshCountdownAt cfg r (k + i) = cfg.refreshPeriod - i
  | 0, hi, _ => absurd hi (Nat.lt_irrefl 0)
  | 1, _, _ => by rw [refreshCountdownAt, hzero, if_pos rfl]
  | i + 2, _, hle => by
      show refreshCountdownAt cfg r (k + (i + 1) + 1) = _
      rw [refreshCountdownAt, refreshCountdownAt_add_of_eq_zero hzero (i + 1) (by omega) (by omega),
        if_neg (by omega)]
      omega

theorem refreshCountdownAt_firstRefresh_add_mul (m : Nat) :
    refreshCountdownAt cfg r (cfg.firstRefresh r + m * cfg.refreshPeriod) = 0 := by
  induction m with
  | zero => rw [Nat.zero_mul, Nat.add_zero, refreshCountdownAt_of_le (Nat.le_refl _), Nat.sub_self]
  | succ m ih =>
      rcases Nat.eq_zero_or_pos cfg.refreshPeriod with hP | hP
      · rw [hP, Nat.mul_zero, Nat.add_zero, refreshCountdownAt_of_le (Nat.le_refl _), Nat.sub_self]
      · rw [Nat.succ_mul, ← Nat.add_assoc,
          refreshCountdownAt_add_of_eq_zero ih _ hP (Nat.le_refl _), Nat.sub_self]

/-- Rank `r` is due exactly at the updates `Q·(r+1) + m·P`. -/
theorem refreshCountdownAt_eq_zero_iff (hP : 0 < cfg.refreshPeriod) {k : Nat} :
    refreshCountdownAt cfg r k = 0 ↔ ∃ m, k = cfg.firstRefresh r + m * cfg.refreshPeriod := by
  constructor
  · intro hzero
    rcases Nat.lt_or_ge k (cfg.firstRefresh r) with hk | hk
    · rw [refreshCountdownAt_of_le (Nat.le_of_lt hk)] at hzero
      omega
    · obtain ⟨d, rfl⟩ := Nat.exists_eq_add_of_le hk
      have hsplit := Nat.div_add_mod' d cfg.refreshPeriod
      have hbase := @refreshCountdownAt_firstRefresh_add_mul cfg r (d / cfg.refreshPeriod)
      rcases Nat.eq_zero_or_pos (d % cfg.refreshPeriod) with hi | hi
      · exact ⟨d / cfg.refreshPeriod, by omega⟩
      · have hlt := Nat.mod_lt d hP
        rw [← hsplit, ← Nat.add_assoc,
          refreshCountdownAt_add_of_eq_zero hbase _ hi (Nat.le_of_lt hlt)] at hzero
        omega
  · rintro ⟨m, rfl⟩
    exact refreshCountdownAt_firstRefresh_add_mul m

/-- The number of updates below `K` at which rank `r` is due. -/
theorem length_filter_refreshCountdownAt_eq_zero (hP : 0 < cfg.refreshPeriod) (K : Nat) :
    ((List.range K).filter fun k => refreshCountdownAt cfg r k = 0).length =
      if cfg.firstRefresh r < K then (K - 1 - cfg.firstRefresh r) / cfg.refreshPeriod + 1
      else 0 := by
  induction K with
  | zero => simp
  | succ K ih =>
      rw [List.range_succ, List.filter_append, List.length_append, ih]
      by_cases hzero : refreshCountdownAt cfg r K = 0
      · obtain ⟨m, hm⟩ := (refreshCountdownAt_eq_zero_iff hP).mp hzero
        have hone : ([K].filter fun k => refreshCountdownAt cfg r k = 0).length = 1 := by
          simp [hzero]
        have hright : (K + 1 - 1 - cfg.firstRefresh r) / cfg.refreshPeriod = m := by
          rw [hm, Nat.add_sub_cancel, Nat.add_sub_cancel_left, Nat.mul_div_cancel _ hP]
        rw [hone, if_pos (show cfg.firstRefresh r < K + 1 by omega), hright]
        rcases m with _ | m
        · rw [Nat.zero_mul, Nat.add_zero] at hm
          rw [if_neg (show ¬ cfg.firstRefresh r < K by omega)]
        · rw [Nat.succ_mul] at hm
          have hleft : (K - 1 - cfg.firstRefresh r) / cfg.refreshPeriod = m :=
            Nat.div_eq_of_lt_le (by omega) (by rw [Nat.succ_mul]; omega)
          rw [if_pos (show cfg.firstRefresh r < K by omega), hleft]
      · have hnone : ([K].filter fun k => refreshCountdownAt cfg r k = 0).length = 0 := by
          simp [hzero]
        rw [hnone, Nat.add_zero]
        by_cases hlt : cfg.firstRefresh r < K
        · have hndvd : ¬ cfg.refreshPeriod ∣ (K - 1 - cfg.firstRefresh r) + 1 := by
            rintro ⟨m, hm⟩
            exact hzero ((refreshCountdownAt_eq_zero_iff hP).mpr
              ⟨m, by rw [Nat.mul_comm]; omega⟩)
          rw [if_pos hlt, if_pos (show cfg.firstRefresh r < K + 1 by omega),
            show K + 1 - 1 - cfg.firstRefresh r =
            K - 1 - cfg.firstRefresh r + 1 by omega, Nat.succ_div_of_not_dvd hndvd]
        · have hne : K ≠ cfg.firstRefresh r := by
            rintro rfl
            exact hzero ((refreshCountdownAt_eq_zero_iff hP).mpr ⟨0, by simp⟩)
          rw [if_neg hlt, if_neg (show ¬ cfg.firstRefresh r < K + 1 by omega)]

end Countdown

/-! ## What one update does to the refresh bookkeeping -/

section Gate

variable (s : State)

theorem refreshGate_refreshRank : (refreshGate cfg s).1.refreshRank =
    if s.refreshCountdown s.refreshRank = 0 then
      (if s.refreshRank + 1 = cfg.NUM_RANKS then 0 else s.refreshRank + 1)
    else s.refreshRank := by
  unfold refreshGate
  dsimp only
  split
  · simp_all
  · split <;> simp_all

theorem refreshGate_refreshCountdown : (refreshGate cfg s).1.refreshCountdown =
    if s.refreshCountdown s.refreshRank = 0 then
      Function.update s.refreshCountdown s.refreshRank cfg.refreshPeriod
    else s.refreshCountdown := by
  unfold refreshGate
  dsimp only
  split
  · simp_all
  · split <;> simp_all

theorem refreshGate_effects : (refreshGate cfg s).2 =
    if s.refreshCountdown s.refreshRank = 0 then
      [.needRefresh s.currentClockCycle s.refreshRank]
    else [] := by
  unfold refreshGate
  dsimp only
  split
  · simp_all
  · split <;> simp_all

end Gate


/-- Only the refresh gate asks for refreshes during an `update()`. -/
theorem update_refresh {input : UpdateInput} {s : State} {r : State × List Effect}
    (h : update cfg input s = .ok r) :
    r.1.refreshRank = (refreshGate cfg s).1.refreshRank ∧
    r.1.refreshCountdown = (decrementRefresh cfg (refreshGate cfg s).1).refreshCountdown ∧
    r.1.currentClockCycle = s.currentClockCycle ∧
    r.2.filterMap Effect.refreshCall = (refreshGate cfg s).2.filterMap Effect.refreshCall := by
  obtain ⟨written, issued, admitted, returned, hw, hi, ha, hr, rfl⟩ := update_eq_ok h
  have hwritten : written.refreshCountdown = s.refreshCountdown ∧
      written.refreshRank = s.refreshRank ∧ written.currentClockCycle = s.currentClockCycle := by
    obtain ⟨_, _, _, _, _, _, rfl⟩ := sendWriteData_shape hw
    obtain ⟨_, _, hd⟩ := sendData_shape (sendCommand (updateBankStates cfg s).1).1
    obtain ⟨_, _, hc⟩ := sendCommand_shape (updateBankStates cfg s).1
    rw [hd, hc]
    exact ⟨rfl, rfl, rfl⟩
  have hreturned : returned.1.refreshCountdown = (refreshGate cfg written).1.refreshCountdown ∧
      returned.1.refreshRank = (refreshGate cfg written).1.refreshRank ∧
      returned.1.currentClockCycle = written.currentClockCycle := by
    obtain ⟨_, _, _, hr'⟩ := returnPath_shape hr
    obtain ⟨_, _, ha'⟩ := admitTransaction_shape ha
    obtain ⟨_, _, _, _, _, _, _, _, _, hi'⟩ := issuePopped_shape hi
    obtain ⟨_, _, _, hg⟩ := @refreshGate_shape cfg written
    rw [hr', ha', hi', hg]
    exact ⟨rfl, rfl, rfl⟩
  obtain ⟨hwc, hwr, hwk⟩ := hwritten
  obtain ⟨hrc, hrr, hrk⟩ := hreturned
  have hquiet : ∀ l : List Effect, (∀ e ∈ l, e.refreshCall = none) →
      l.filterMap Effect.refreshCall = [] := fun _ => List.filterMap_eq_nil_iff.mpr
  refine ⟨?_, ?_, hrk.trans hwk, ?_⟩
  · exact hrr.trans (by rw [refreshGate_refreshRank, refreshGate_refreshRank, hwc, hwr])
  · funext i
    simp only [decrementRefresh, hrc, refreshGate_refreshCountdown, hwc, hwr]
  · simp only [List.filterMap_append, refreshGate_effects, hwc, hwr, hwk,
      hquiet (updateBankStates cfg s).2 fun e he => by
        obtain ⟨_, _, _, _, _, rfl⟩ := mem_updateBankStates_effects he; rfl,
      hquiet (sendCommand (updateBankStates cfg s).1).2 fun e he => by
        obtain ⟨_, _, rfl⟩ := mem_sendCommand_effects he; rfl,
      hquiet (sendData (sendCommand (updateBankStates cfg s).1).1).2 fun e he => by
        obtain ⟨_, _, rfl | rfl⟩ := mem_sendData_effects he <;> rfl,
      hquiet _ fun e he => by obtain ⟨_, _, rfl⟩ := mem_issuePopped_effects hi he; rfl,
      hquiet _ fun e he => by
        obtain ⟨_, rfl⟩ | ⟨_, rfl⟩ := mem_admitTransaction_effects ha he <;> rfl,
      hquiet (lowPower cfg input.isEmpty admitted.1).2 fun e he => by
        obtain ⟨_, _, ⟨_, rfl⟩ | ⟨_, rfl⟩⟩ := mem_lowPower_effects he <;> rfl,
      hquiet _ fun e he => by obtain ⟨_, rfl⟩ := mem_returnPath_effects hr he; rfl,
      List.nil_append, List.append_nil]

end DramSim

namespace DramSim

variable {cfg : Config}

/-! ## The refresh machine keeps its ranks in order -/

/-- Moving the pointer on is adding one modulo `NUM_RANKS`. -/
theorem next_rank_eq_mod {N : Nat} (hN : 0 < N) (a : Nat) :
    (if a % N + 1 = N then 0 else a % N + 1) = (a + 1) % N := by
  rw [Nat.add_mod]
  have hlt := Nat.mod_lt a hN
  generalize a % N = m at hlt ⊢
  rcases Nat.lt_or_ge 1 N with h1 | h1
  · rw [Nat.mod_eq_of_lt h1]
    split
    · rw [‹m + 1 = N›, Nat.mod_self]
    · rw [Nat.mod_eq_of_lt (by omega)]
  · obtain rfl : N = 1 := by omega
    obtain rfl : m = 0 := by omega
    rfl

section Order

variable (hN : cfg.NUM_RANKS ≤ cfg.refreshPeriod)
include hN

theorem refreshStagger_pos : 0 < cfg.refreshStagger := Nat.div_pos hN cfg.numRanks_pos

/-- Under the order, only the rank the pointer is at can be due. -/
theorem RefreshOrder.pos_of_ne {k i : Nat} (h : RefreshOrder cfg k) (hi : i < cfg.NUM_RANKS)
    (hne : i ≠ refreshRankAt cfg k) : 0 < refreshCountdownAt cfg i k := by
  obtain ⟨hlt, hrel⟩ := h
  have hQ := refreshStagger_pos hN
  have hrel_i := hrel i hi
  have hmul := Nat.mul_add_one cfg.refreshStagger (refreshRankAt cfg k)
  rcases Nat.lt_or_gt_of_ne hne with hbehind | hahead
  · -- the pointer is at most the last rank, and `Q·NUM_RANKS ≤ P`
    have hle : cfg.refreshStagger * (refreshRankAt cfg k + 1) ≤ cfg.refreshPeriod :=
      Nat.le_trans (Nat.mul_le_mul_left _ hlt) (Nat.div_mul_le_self _ _)
    rw [if_pos hbehind] at hrel_i
    omega
  · have hle : cfg.refreshStagger * (refreshRankAt cfg k + 1) ≤ cfg.refreshStagger * i :=
      Nat.mul_le_mul_left _ hahead
    rw [if_neg (by omega)] at hrel_i
    omega

omit hN in
/-- The order holds before the first update: rank `i` is due `Q·(i+1)` updates in. -/
theorem refreshOrder_zero : RefreshOrder cfg 0 :=
  ⟨cfg.numRanks_pos, fun i _ => by
    simp only [refreshRankAt, refreshCountdownAt, Config.firstRefresh, Nat.mul_zero,
      Nat.not_lt_zero, if_false, Nat.add_zero, Nat.zero_add, Nat.mul_one, Nat.mul_add_one,
      Nat.add_comm]⟩

/-- One update keeps the order: the due rank is re-armed for a full period and the pointer
moves on, or nobody is due and every countdown goes down by one. -/
theorem RefreshOrder.succ {k : Nat} (h : RefreshOrder cfg k) : RefreshOrder cfg (k + 1) := by
  have hpos : ∀ i < cfg.NUM_RANKS, i ≠ refreshRankAt cfg k → 0 < refreshCountdownAt cfg i k :=
    fun _ hi hne => h.pos_of_ne hN hi hne
  obtain ⟨hlt, hrel⟩ := h
  have hQ := refreshStagger_pos hN
  have hP : 0 < cfg.refreshPeriod := Nat.lt_of_lt_of_le cfg.numRanks_pos hN
  have hnext := fun i hi hne => refreshCountdownAt_succ_of_pos (hpos i hi hne)
  by_cases hz : refreshCountdownAt cfg (refreshRankAt cfg k) k = 0
  · have hnext_rr := refreshCountdownAt_succ_of_eq_zero hz
    unfold RefreshOrder
    rw [refreshRankAt, if_pos hz]
    split
    · -- the pointer wraps around to rank 0
      refine ⟨cfg.numRanks_pos, fun i hi => ?_⟩
      simp only [Nat.mul_zero, Nat.add_zero, Nat.not_lt_zero, if_false]
      rcases Nat.eq_zero_or_pos (refreshRankAt cfg k) with h0 | h0
      · obtain rfl : i = 0 := by omega
        simp
      · have hc0 := hrel 0 (by omega)
        rw [if_pos h0, Nat.mul_zero] at hc0
        have hpos0 := hpos 0 (by omega) (by omega)
        rw [hnext 0 (by omega) (by omega)]
        rcases eq_or_ne i (refreshRankAt cfg k) with rfl | hne
        · rw [hnext_rr]
          omega
        · have hci := hrel i hi
          rw [if_pos (by omega)] at hci
          have := hpos i hi hne
          rw [hnext i hi hne]
          omega
    · -- the pointer moves to the next rank, which is due in `Q` updates
      refine ⟨by omega, fun i hi => ?_⟩
      have hmul := Nat.mul_add_one cfg.refreshStagger (refreshRankAt cfg k)
      have hnr := hrel (refreshRankAt cfg k + 1) (by omega)
      rw [if_neg (by omega)] at hnr
      have := hpos (refreshRankAt cfg k + 1) (by omega) (by omega)
      rw [hnext (refreshRankAt cfg k + 1) (by omega) (by omega)]
      rcases eq_or_ne i (refreshRankAt cfg k) with rfl | hne
      · rw [hnext_rr, if_pos (Nat.lt_succ_self _)]
        omega
      · have hci := hrel i hi
        have := hpos i hi hne
        rw [hnext i hi hne]
        split_ifs at hci ⊢ <;> omega
  · -- nobody is due: every countdown goes down by one
    have hnext_all : ∀ i < cfg.NUM_RANKS,
        refreshCountdownAt cfg i (k + 1) = refreshCountdownAt cfg i k - 1 := fun i hi => by
      rcases eq_or_ne i (refreshRankAt cfg k) with rfl | hne
      · exact refreshCountdownAt_succ_of_pos (Nat.pos_of_ne_zero hz)
      · exact hnext i hi hne
    have hrank : refreshRankAt cfg (k + 1) = refreshRankAt cfg k := by
      rw [refreshRankAt, if_neg hz]
    refine ⟨hrank ▸ hlt, fun i hi => ?_⟩
    rw [hrank, hnext_all i hi, hnext_all _ hlt]
    rcases eq_or_ne i (refreshRankAt cfg k) with rfl | hne
    · rw [if_neg (Nat.lt_irrefl _), Nat.add_zero]
    · have hci := hrel i hi
      have := hpos i hi hne
      omega

theorem refreshOrder : ∀ k, RefreshOrder cfg k
  | 0 => refreshOrder_zero
  | k + 1 => (refreshOrder k).succ hN

/-- A rank is due at update `k` only when the pointer is at it. -/
theorem eq_refreshRankAt_of_due {k i : Nat} (hi : i < cfg.NUM_RANKS)
    (hdue : refreshCountdownAt cfg i k = 0) : i = refreshRankAt cfg k :=
  Classical.byContradiction fun hne =>
    Nat.lt_irrefl 0 (hdue ▸ (refreshOrder hN k).pos_of_ne hN hi hne)

/-- The machine calls for rank `r` at update `k` exactly when `r`'s countdown is 0. -/
theorem mem_refreshCalls {K k r : Nat} :
    (k, r) ∈ refreshCalls cfg K ↔
      k < K ∧ r < cfg.NUM_RANKS ∧ refreshCountdownAt cfg r k = 0 := by
  induction K with
  | zero => simp [refreshCalls]
  | succ K ih =>
      rw [refreshCalls, List.mem_append, ih]
      constructor
      · rintro (⟨hk, hr, hdue⟩ | hnew)
        · exact ⟨by omega, hr, hdue⟩
        · split at hnew
          · obtain ⟨rfl, rfl⟩ := Prod.mk.inj (List.mem_singleton.mp hnew)
            exact ⟨Nat.lt_succ_self _, (refreshOrder hN k).1, ‹_›⟩
          · simp at hnew
      · rintro ⟨hk, hr, hdue⟩
        rcases Nat.lt_succ_iff_lt_or_eq.mp hk with hk | rfl
        · exact .inl ⟨hk, hr, hdue⟩
        · obtain rfl := eq_refreshRankAt_of_due hN hr hdue
          exact .inr (by rw [if_pos hdue]; exact List.mem_singleton_self _)

/-- The number of calls for rank `r` among the first `K` updates is the number of updates
below `K` at which `r` is due. -/
theorem count_refreshCalls {r : Nat} (hr : r < cfg.NUM_RANKS) (K : Nat) :
    ((refreshCalls cfg K).map Prod.snd).count r =
      ((List.range K).filter fun k => refreshCountdownAt cfg r k = 0).length := by
  induction K with
  | zero => rfl
  | succ K ih =>
      rw [refreshCalls, List.map_append, List.count_append, ih, List.range_succ,
        List.filter_append, List.length_append]
      congr 1
      by_cases hdue : refreshCountdownAt cfg r K = 0
      · obtain rfl := eq_refreshRankAt_of_due hN hr hdue
        simp [hdue]
      · split
        · have hne : refreshRankAt cfg K ≠ r := fun he => hdue (he ▸ ‹_›)
          simp [List.count_singleton, hne, hdue]
        · simp [hdue]

end Order

/-- The calls go round the ranks in order, and the pointer is the next rank to call. -/
theorem refreshCalls_ranks (K : Nat) :
    (refreshCalls cfg K).map Prod.snd =
        (List.range (refreshCalls cfg K).length).map (· % cfg.NUM_RANKS) ∧
      refreshRankAt cfg K = (refreshCalls cfg K).length % cfg.NUM_RANKS := by
  induction K with
  | zero => exact ⟨rfl, (Nat.zero_mod _).symm⟩
  | succ K ih =>
      obtain ⟨hranks, hrank⟩ := ih
      rw [refreshCalls, refreshRankAt]
      split
      · rw [List.length_append, List.length_singleton, List.map_append, hranks, List.range_succ,
          List.map_append, hrank, next_rank_eq_mod cfg.numRanks_pos]
        exact ⟨rfl, rfl⟩
      · rw [List.append_nil]
        exact ⟨hranks, hrank⟩

/-! ## The controller runs the refresh machine -/

theorem mem_filterMap_refreshCall {log : List Effect} {k r : Nat} :
    (k, r) ∈ log.filterMap Effect.refreshCall ↔ Effect.needRefresh k r ∈ log := by
  rw [List.mem_filterMap]
  constructor
  · rintro ⟨e, he, hcall⟩
    cases e <;> cases hcall
    exact he
  · exact fun h => ⟨_, h, rfl⟩

variable (cfg) in
/-- The controller's refresh fields are the refresh machine's at the current clock, and
its `needRefresh` calls are the machine's. -/
def RefreshAgrees (s : State) (log : List Effect) : Prop :=
  s.refreshRank = refreshRankAt cfg s.currentClockCycle ∧
    (∀ i < cfg.NUM_RANKS, s.refreshCountdown i = refreshCountdownAt cfg i s.currentClockCycle) ∧
    log.filterMap Effect.refreshCall = refreshCalls cfg s.currentClockCycle

section Agree

variable (hN : cfg.NUM_RANKS ≤ cfg.refreshPeriod)
include hN

/-- One `update()` moves the controller's refresh fields one update along the machine. -/
theorem refreshAgrees_update {input : UpdateInput} {s : State} {log : List Effect}
    {r : State × List Effect} (h : RefreshAgrees cfg s log) (hu : update cfg input s = .ok r) :
    RefreshAgrees cfg { r.1 with currentClockCycle := r.1.currentClockCycle + 1 }
      (log ++ r.2) := by
  obtain ⟨hrank, hcount, hcalls⟩ := h
  obtain ⟨hr1, hr2, hr3, hr4⟩ := update_refresh hu
  obtain ⟨hlt, -⟩ := refreshOrder hN s.currentClockCycle
  have hP : 0 < cfg.refreshPeriod := Nat.lt_of_lt_of_le cfg.numRanks_pos hN
  have hgate := hcount _ hlt
  rw [← hrank] at hlt hgate
  refine ⟨?_, fun i hi => ?_, ?_⟩
  · rw [hr1, hr3, refreshGate_refreshRank, refreshRankAt, ← hrank, hgate]
    simp only [Int.ofNat_eq_zero]
  · rw [hr2, hr3]
    simp only [decrementRefresh, if_pos hi, refreshGate_refreshCountdown, hgate,
      Int.ofNat_eq_zero]
    by_cases hz : refreshCountdownAt cfg s.refreshRank s.currentClockCycle = 0
    · rw [if_pos hz]
      rcases eq_or_ne i s.refreshRank with rfl | hne
      · rw [Function.update_same, refreshCountdownAt_succ_of_eq_zero hz]
        omega
      · have hpos := (refreshOrder hN _).pos_of_ne hN hi (hrank ▸ hne)
        rw [Function.update_noteq hne, hcount i hi, refreshCountdownAt_succ_of_pos hpos]
        omega
    · have hpos : 0 < refreshCountdownAt cfg i s.currentClockCycle := by
        rcases eq_or_ne i s.refreshRank with rfl | hne
        · rw [hrank]; exact Nat.pos_of_ne_zero (hrank ▸ hz)
        · exact (refreshOrder hN _).pos_of_ne hN hi (hrank ▸ hne)
      rw [if_neg hz, hcount i hi, refreshCountdownAt_succ_of_pos hpos]
      omega
  · rw [hr3, List.filterMap_append, hcalls, hr4, refreshGate_effects, hgate, refreshCalls,
      ← hrank]
    simp only [Int.ofNat_eq_zero]
    split <;> rfl

/-- Along every run the controller runs the refresh machine. -/
theorem refreshAgrees_of_run {allowed : State → List Effect → Event → Bool} {s : State}
    {log : List Effect} (hrun : Run cfg allowed s log) : RefreshAgrees cfg s log := by
  refine hrun.invariant (RefreshAgrees cfg) ⟨rfl, fun _ _ => rfl, rfl⟩ ?_
  intro s log e s' out h _ hexec
  by_cases he : ∃ input, e = .update input
  · obtain ⟨input, rfl⟩ := he
    obtain ⟨r, hu, rfl, rfl⟩ := exec_update_eq_ok hexec
    exact refreshAgrees_update hN h hu
  · obtain ⟨⟨_, _, _, _, _, _, _, _, _, rfl⟩, hout⟩ :=
      exec_eq_ok_of_ne_update (fun input he' => he ⟨input, he'⟩) hexec
    refine ⟨h.1, h.2.1, ?_⟩
    rw [List.filterMap_append, h.2.2, List.filterMap_eq_nil_iff.mpr, List.append_nil]
    intro x hx
    obtain ⟨_, rfl⟩ | ⟨_, rfl⟩ | ⟨_, rfl⟩ := hout x hx <;> rfl

end Agree

variable (cfg) in
/-- The refresh schedule at a state and its history, with `P = refreshPeriod`,
`Q = P / NUM_RANKS` and `K` updates served. -/
structure RefreshSchedule (s : State) (log : List Effect) : Prop where
  /-- `refreshRank` is a rank. -/
  rank_lt : s.refreshRank < cfg.NUM_RANKS
  /-- `refreshRank` is the rank after the last one asked for. -/
  rank_eq : s.refreshRank = (log.filterMap Effect.refreshedRank).length % cfg.NUM_RANKS
  /-- The ranks are asked for in order: 0, 1, …, `NUM_RANKS - 1`, 0, … -/
  ranks_in_order : log.filterMap Effect.refreshedRank =
    (List.range (log.filterMap Effect.refreshedRank).length).map (· % cfg.NUM_RANKS)
  /-- No countdown has gone below 0. -/
  countdown_nonneg : ∀ i < cfg.NUM_RANKS, 0 ≤ s.refreshCountdown i
  /-- Rank `r` is asked for at update `k` exactly when `k = Q·(r+1) + m·P`. -/
  mem_needRefresh : ∀ k r, Effect.needRefresh k r ∈ log ↔
    k < s.currentClockCycle ∧ r < cfg.NUM_RANKS ∧
      ∃ m, k = cfg.firstRefresh r + m * cfg.refreshPeriod
  /-- After `K` updates rank `r` has been asked for `⌊(K - 1 - Q·(r+1)) / P⌋ + 1` times
  when `K > Q·(r+1)`, and never otherwise. -/
  count_needRefresh : ∀ r < cfg.NUM_RANKS, (log.filterMap Effect.refreshedRank).count r =
    if cfg.firstRefresh r < s.currentClockCycle then
      (s.currentClockCycle - 1 - cfg.firstRefresh r) / cfg.refreshPeriod + 1
    else 0

/-- With at least one update per rank in a period, every run keeps the refresh schedule. -/
theorem refresh_schedule (hN : cfg.NUM_RANKS ≤ cfg.refreshPeriod)
    {allowed : State → List Effect → Event → Bool} {s : State} {log : List Effect}
    (hrun : Run cfg allowed s log) : RefreshSchedule cfg s log := by
  obtain ⟨hrank, hcount, hcalls⟩ := refreshAgrees_of_run hN hrun
  have hP : 0 < cfg.refreshPeriod := Nat.lt_of_lt_of_le cfg.numRanks_pos hN
  have hranks : log.filterMap Effect.refreshedRank =
      (refreshCalls cfg s.currentClockCycle).map Prod.snd := by
    rw [← hcalls, List.map_filterMap]
    rfl
  have hlen : (log.filterMap Effect.refreshedRank).length =
      (refreshCalls cfg s.currentClockCycle).length := by
    rw [hranks, List.length_map]
  obtain ⟨horder, hpointer⟩ := @refreshCalls_ranks cfg s.currentClockCycle
  exact {
    rank_lt := hrank ▸ (refreshOrder hN _).1
    rank_eq := by rw [hrank, hpointer, hlen]
    ranks_in_order := by rw [hlen, hranks, horder]
    countdown_nonneg := fun i hi => hcount i hi ▸ Int.ofNat_nonneg _
    mem_needRefresh := fun k r => by
      rw [← mem_filterMap_refreshCall, hcalls, mem_refreshCalls hN,
        refreshCountdownAt_eq_zero_iff hP]
    count_needRefresh := fun r hr => by
      rw [hranks, count_refreshCalls hN hr, length_filter_refreshCountdownAt_eq_zero hP] }

set_option maxRecDepth 100000 in
/-- With a refresh period of 3 cycles over two ranks the stagger is 1: five updates ask for a
refresh of rank 0 at updates 1 and 4 and of rank 1 at update 2. -/
theorem refresh_schedule_sample :
    { Config.sample with refreshPeriod := 3 }.NUM_RANKS ≤
      { Config.sample with refreshPeriod := 3 }.refreshPeriod ∧
    ∃ s log, Run { Config.sample with refreshPeriod := 3 } (fun _ _ _ => true) s log ∧
      log.filterMap Effect.refreshCall = [(1, 0), (2, 1), (4, 0)] ∧
      RefreshSchedule { Config.sample with refreshPeriod := 3 } s log := by
  obtain ⟨s, log, hrun, hobserved⟩ := @exists_run_of_runEvents
    { Config.sample with refreshPeriod := 3 } (fun _ _ _ => true)
    (List.replicate 5 (.update ⟨none, fun _ _ => false, fun _ => false⟩))
    (fun _ log => decide (log.filterMap Effect.refreshCall = [(1, 0), (2, 1), (4, 0)]))
    (by decide) (by decide)
  exact ⟨by decide, s, log, hrun, of_decide_eq_true hobserved, refresh_schedule (by decide) hrun⟩

end DramSim
