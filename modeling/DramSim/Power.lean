import DramSim.Guards

/-! # The low-power protocol of a rank

The low-power loop of `update()` calls `powerDown()` on a rank whose queue is empty, with no
refresh waiting and every bank Idle, and `powerUp()` on a powered-down rank that something
waits for once bank 0's `nextPowerUp` is reached. The loop keeps no record of its own: it
reads the `powerDown` flag, the bank states and `nextPowerUp`, which the commands also write.

Over every run whose command queue pops only admitted commands, the calls to each rank follow
the clock-enable protocol of a DRAM: they alternate, starting with a power-down, at
increasing cycles; every power-up comes `tCKE` cycles after the power-down before it; and the
rank's `powerDown` flag is set exactly when its last call was a power-down.
-/

namespace DramSim

/-! ## The calls to one rank -/

/-- A call of the low-power loop to rank `i`, with its cycle. -/
def Effect.powerCall (i : Nat) : Effect → Option (PowerSwitch × Nat)
  | .powerDown c r => if r = i then some (.down, c) else none
  | .powerUp c r => if r = i then some (.up, c) else none
  | _ => none

/-- The calls to rank `i` in a history, in order. -/
def powerCalls (i : Nat) (log : List Effect) : List (PowerSwitch × Nat) :=
  log.filterMap (Effect.powerCall i)

@[simp] theorem powerCalls_nil {i : Nat} : powerCalls i [] = [] := rfl

@[simp] theorem powerCalls_append {i : Nat} {l₁ l₂ : List Effect} :
    powerCalls i (l₁ ++ l₂) = powerCalls i l₁ ++ powerCalls i l₂ :=
  List.filterMap_append _ _ _

variable (cfg : Config)

/-- Two consecutive calls to a rank: the second switches the other way at a later cycle, and
a power-up comes `tCKE` after the power-down before it. -/
def PowerStep (a b : PowerSwitch × Nat) : Prop :=
  a.1 ≠ b.1 ∧ a.2 < b.2 ∧ (a.1 = .down → a.2 + cfg.tCKE.toNat ≤ b.2)

/-- The low-power protocol over a history, rank by rank, and the flag it leaves. -/
structure PowerProtocol (s : State) (log : List Effect) : Prop where
  first_down : ∀ i, ∀ call ∈ (powerCalls i log).head?, call.1 = .down
  alternates : ∀ i, (powerCalls i log).Chain' (PowerStep cfg)
  flag : ∀ i, s.powerDown i = true ↔ ∃ c, (powerCalls i log).getLast? = some (.down, c)

/-- The protocol over the calls to rank `i`, with what the state remembers of them: every
call is in the past, and after a power-down bank 0 holds the rank down until `tCKE` has
passed. -/
structure RankPower (s : State) (i : Nat) (calls : List (PowerSwitch × Nat)) : Prop where
  first_down : ∀ call ∈ calls.head?, call.1 = .down
  alternates : calls.Chain' (PowerStep cfg)
  flag : s.powerDown i = true ↔ ∃ c, calls.getLast? = some (.down, c)
  past : ∀ call ∈ calls, call.2 < s.currentClockCycle
  wake : ∀ c, calls.getLast? = some (.down, c) →
    (s.bankStates i 0).nextPowerUp = c + cfg.tCKE.toNat

variable {cfg}

/-! ## The low-power loop -/

/-- The `powerDown` flag of a rank after its switch, given the flag before. -/
def poweredDownAfter (poweredDown : Bool) : Option PowerSwitch → Bool
  | some .down => true
  | some .up => false
  | none => poweredDown

/-- A loop over the ranks whose body only speaks for its own rank. -/
theorem filterMap_range_of_unique {β : Type} {f : Nat → Option β} {i : Nat}
    (hf : ∀ k, k ≠ i → f k = none) :
    ∀ n, (List.range n).filterMap f = if i < n then (f i).toList else []
  | 0 => rfl
  | n + 1 => by
      rw [List.range_succ, List.filterMap_append, filterMap_range_of_unique hf n]
      by_cases hn : n = i
      · subst hn
        cases hf : f n <;> simp [hf]
      · have hlt : i < n + 1 ↔ i < n := by omega
        simp [hf n hn, hlt]

section LowPower

variable {isEmpty : Nat → Bool} {t : State} {i : Nat}

/-- The switch the low-power loop makes at rank `i`, or none for an index past the ranks. -/
theorem lowPower_powerCalls :
    powerCalls i (lowPower cfg isEmpty t).2 =
      ((if i < cfg.NUM_RANKS then powerSwitch cfg (isEmpty i) t i else none).map
        (·, t.currentClockCycle)).toList := by
  simp only [powerCalls, lowPower, List.filterMap_filterMap]
  rw [@filterMap_range_of_unique _ _ i ?_ cfg.NUM_RANKS]
  · by_cases hi : i < cfg.NUM_RANKS
    · simp only [hi, if_true]
      rcases powerSwitch cfg (isEmpty i) t i with _ | _ | _ <;> simp [Effect.powerCall]
    · simp [hi]
  · intro k hk
    by_cases hk' : k < cfg.NUM_RANKS
    · simp only [hk', if_true]
      rcases powerSwitch cfg (isEmpty k) t k with _ | _ | _ <;> simp [Effect.powerCall, hk]
    · simp [hk']

/-- The flag the low-power loop leaves at rank `i`. -/
theorem lowPower_powerDown_eq :
    (lowPower cfg isEmpty t).1.powerDown i = poweredDownAfter (t.powerDown i)
      (if i < cfg.NUM_RANKS then powerSwitch cfg (isEmpty i) t i else none) := by
  unfold lowPower poweredDownAfter
  rfl

/-- Bank 0 of rank `i` after the low-power loop. -/
theorem lowPower_bank_zero {sw : Option PowerSwitch}
    (hsw : (if i < cfg.NUM_RANKS then powerSwitch cfg (isEmpty i) t i else none) = sw) :
    (lowPower cfg isEmpty t).1.bankStates i 0 =
      (t.bankStates i 0).switchPower cfg t.currentClockCycle sw := by
  rw [← hsw]
  simp [lowPower, cfg.numBanks_pos]

/-- A rank powers up only once bank 0's `nextPowerUp` is reached. -/
theorem powerSwitch_eq_up_reached {b : Bool} (h : powerSwitch cfg b t i = some .up) :
    (t.bankStates i 0).nextPowerUp ≤ t.currentClockCycle := by
  unfold powerSwitch at h
  split_ifs at h with hlow hwait hidle hup <;> cases h
  simp_all

end LowPower

/-- The countdowns leave `nextPowerUp` alone. -/
theorem popBanks_nextPowerUp {s : State} {i j : Nat} :
    (popBanks cfg s i j).nextPowerUp = (s.bankStates i j).nextPowerUp := by
  simp only [popBanks, forEachBank_apply, apply_ite BankState.nextPowerUp,
    BankState.countdown_nextPowerUp, ite_self]

/-- The low-power loop is the only block of `update()` that calls `powerDown()` or
`powerUp()`; it reads the bank table after the popped command. -/
theorem update_lowPower {input : UpdateInput} {s : State} {r : State × List Effect}
    (hu : update cfg input s = .ok r) :
    ∃ t, t.bankStates = poppedBanks cfg input.popped s.currentClockCycle (popBanks cfg s) ∧
      t.powerDown = s.powerDown ∧ t.currentClockCycle = s.currentClockCycle ∧
      r.1.bankStates = (lowPower cfg input.isEmpty t).1.bankStates ∧
      r.1.powerDown = (lowPower cfg input.isEmpty t).1.powerDown ∧
      ∀ i, powerCalls i r.2 = powerCalls i (lowPower cfg input.isEmpty t).2 := by
  obtain ⟨written, issued, admitted, returned, hw, hi, ha, hr, rfl⟩ := update_eq_ok hu
  obtain ⟨_, _, _, _, _, _, _, _, _, _, _, hgate⟩ := refreshGate_written_shape hw
  obtain ⟨hib, hip, -, hik⟩ := issuePopped_fields hi
  obtain ⟨_, _, ha'⟩ := admitTransaction_shape ha
  obtain ⟨_, _, _, hr'⟩ := returnPath_shape hr
  rw [hgate] at hib hip hik
  refine ⟨admitted.1, by rw [ha']; exact hib, by rw [ha']; exact hip, by rw [ha']; exact hik,
    by rw [hr']; rfl, by rw [hr']; rfl, fun i => ?_⟩
  have hquiet : ∀ l : List Effect, (∀ e ∈ l, e.powerCall i = none) → powerCalls i l = [] :=
    fun _ => List.filterMap_eq_nil_iff.mpr
  simp only [powerCalls_append,
    hquiet (updateBankStates cfg s).2 fun e he => by
      obtain ⟨_, _, _, _, _, rfl⟩ := mem_updateBankStates_effects he; rfl,
    hquiet (sendCommand (updateBankStates cfg s).1).2 fun e he => by
      obtain ⟨_, _, rfl⟩ := mem_sendCommand_effects he; rfl,
    hquiet (sendData (sendCommand (updateBankStates cfg s).1).1).2 fun e he => by
      obtain ⟨_, _, rfl | rfl⟩ := mem_sendData_effects he <;> rfl,
    hquiet (refreshGate cfg written).2 fun e he => by
      obtain ⟨_, rfl⟩ := mem_refreshGate_effects he; rfl,
    hquiet _ fun e he => by obtain ⟨_, _, rfl⟩ := mem_issuePopped_effects hi he; rfl,
    hquiet _ fun e he => by
      obtain ⟨_, rfl⟩ | ⟨_, rfl⟩ := mem_admitTransaction_effects ha he <;> rfl,
    hquiet _ fun e he => by obtain ⟨_, rfl⟩ := mem_returnPath_effects hr he; rfl,
    List.nil_append, List.append_nil]

/-! ## One rank through one step -/

section Rank

variable {s s' : State} {log out : List Effect} {i : Nat}

/-- A step that makes no call to rank `i` and leaves its flag and bank 0's `nextPowerUp`
keeps what the state remembers of the rank. -/
theorem RankPower.quiet (h : RankPower cfg s i (powerCalls i log)) (hcalls : powerCalls i out = [])
    (hflag : s'.powerDown i = s.powerDown i)
    (hwake : (s'.bankStates i 0).nextPowerUp = (s.bankStates i 0).nextPowerUp)
    (hclock : s.currentClockCycle ≤ s'.currentClockCycle) :
    RankPower cfg s' i (powerCalls i (log ++ out)) := by
  obtain ⟨hfirst, hchain, hflag₀, hpast, hwake₀⟩ := h
  rw [powerCalls_append, hcalls, List.append_nil]
  exact ⟨hfirst, hchain, hflag ▸ hflag₀, fun call hc => (hpast call hc).trans_le hclock,
    fun c hc => hwake ▸ hwake₀ c hc⟩

/-- A call at the current cycle keeps what the state remembers of the rank when it is a
power-down of a rank that is up, or a power-up of a rank that is down once `nextPowerUp` is
reached. -/
theorem RankPower.call (h : RankPower cfg s i (powerCalls i log)) {sw : PowerSwitch}
    (hcalls : powerCalls i out = [(sw, s.currentClockCycle)])
    (hflag : s'.powerDown i = decide (sw = .down))
    (hwake : sw = .down →
      (s'.bankStates i 0).nextPowerUp = s.currentClockCycle + cfg.tCKE.toNat)
    (hclock : s.currentClockCycle < s'.currentClockCycle)
    (hdown : sw = .down → s.powerDown i = false)
    (hup : sw = .up →
      s.powerDown i = true ∧ (s.bankStates i 0).nextPowerUp ≤ s.currentClockCycle) :
    RankPower cfg s' i (powerCalls i (log ++ out)) := by
  obtain ⟨hfirst, hchain, hflag₀, hpast, hwake₀⟩ := h
  rw [powerCalls_append, hcalls]
  -- the call before this one switched the other way, at an earlier cycle
  have hstep : ∀ a ∈ (powerCalls i log).getLast?, PowerStep cfg a (sw, s.currentClockCycle) := by
    intro a ha
    have hpa : a.2 < s.currentClockCycle := hpast a (List.mem_of_getLast?_eq_some ha)
    cases sw with
    | down =>
        obtain ⟨_ | _, c⟩ := a
        · have := hflag₀.mpr ⟨c, ha⟩
          simp [hdown rfl] at this
        · exact ⟨nofun, hpa, nofun⟩
    | up =>
        obtain ⟨hpd, hnext⟩ := hup rfl
        obtain ⟨c₀, hc₀⟩ := hflag₀.mp hpd
        obtain rfl : a = (.down, c₀) := Option.some.inj (ha.symm.trans hc₀)
        rw [hwake₀ c₀ hc₀] at hnext
        exact ⟨nofun, hpa, fun _ => hnext⟩
  refine ⟨fun call hc => ?_, hchain.append (List.chain'_singleton _) fun a ha _ _ => ?_,
    ?_, fun call hc => ?_, fun c hc => ?_⟩
  · rw [List.head?_append] at hc
    cases hh : (powerCalls i log).head? with
    | some x =>
        rw [hh] at hc
        exact hfirst call (hh ▸ hc)
    | none =>
        rw [hh] at hc
        obtain rfl : call = (sw, s.currentClockCycle) := Option.some.inj hc.symm
        cases sw with
        | down => rfl
        | up =>
            obtain ⟨c₀, hc₀⟩ := hflag₀.mp (hup rfl).1
            simp [List.head?_eq_none_iff.mp hh] at hc₀
  · obtain rfl := Option.some.inj ‹_ ∈ [(sw, s.currentClockCycle)].head?›
    exact hstep a ha
  · rw [hflag, List.getLast?_append, List.getLast?_singleton]
    cases sw <;> simp
  · rcases List.mem_append.mp hc with hc | hc
    · exact (hpast call hc).trans hclock
    · rw [List.mem_singleton.mp hc]
      exact hclock
  · rw [List.getLast?_append, List.getLast?_singleton, Option.or_some] at hc
    obtain ⟨rfl, rfl⟩ := Prod.mk.inj (Option.some.inj hc)
    exact hwake rfl

/-- One `update()` whose popped command is admitted keeps what the state remembers of each
rank: a rank powers down only while it is up, since a powered-down rank's banks stay
powered down through the countdowns and the command, and it powers up only while it is down
and bank 0's `nextPowerUp` is reached. -/
theorem RankPower.update {input : UpdateInput} {r : State × List Effect}
    (h : RankPower cfg s i (powerCalls i log)) (hs : BanksSettled cfg s)
    (hadmits : ∀ p, input.popped = some p → admits cfg (popBanks cfg s) p = true)
    (hu : update cfg input s = .ok r) :
    RankPower cfg { r.1 with currentClockCycle := r.1.currentClockCycle + 1 } i
      (powerCalls i (log ++ r.2)) := by
  obtain ⟨t, htb, htp, htk, hrb, hrp, hcalls⟩ := update_lowPower hu
  have hclock : r.1.currentClockCycle = s.currentClockCycle := (update_refresh hu).2.2.1
  have hwake : (t.bankStates i 0).nextPowerUp = (s.bankStates i 0).nextPowerUp := by
    rw [htb, poppedBanks_nextPowerUp, popBanks_nextPowerUp]
  generalize hsw : (if i < cfg.NUM_RANKS then powerSwitch cfg (input.isEmpty i) t i
    else none) = sw
  have hout : powerCalls i r.2 = (sw.map (·, s.currentClockCycle)).toList := by
    rw [hcalls, lowPower_powerCalls, hsw, htk]
  have hpd : r.1.powerDown i = poweredDownAfter (s.powerDown i) sw := by
    rw [hrp, lowPower_powerDown_eq, hsw, htp]
  have hbank := lowPower_bank_zero hsw
  rw [← hrb, htk] at hbank
  cases sw with
  | none =>
      refine h.quiet hout hpd (by rw [← hwake]; exact congrArg BankState.nextPowerUp hbank) ?_
      rw [hclock]
      exact Nat.le_succ _
  | some sw =>
      have hi : i < cfg.NUM_RANKS := by
        by_contra hi
        simp [hi] at hsw
      rw [if_pos hi] at hsw
      refine h.call hout (by rw [show _ = _ from hpd]; cases sw <;> rfl) (fun hdown => ?_)
        (by rw [hclock]; exact Nat.lt_succ_self _) (fun hdown => ?_) (fun hup => ?_)
      · rw [hbank, hdown]
        rfl
      · -- bank 0 is Idle after the command, so it was not powered down
        subst hdown
        have hidle := powerSwitch_eq_down hsw 0 cfg.numBanks_pos
        by_contra hpd
        have hdown := ((hs.powerDown_iff i hi).mp (Bool.eq_true_of_not_eq_false hpd)) 0
          cfg.numBanks_pos
        rw [← (banksSettled_before_lowPower hs hadmits htb hi cfg.numBanks_pos).2.1, hidle]
          at hdown
        cases hdown
      · subst hup
        refine ⟨htp ▸ powerSwitch_eq_up hsw, ?_⟩
        rw [← hwake, ← htk]
        exact powerSwitch_eq_up_reached hsw

/-- Every event of an environment whose command queue pops only admitted commands keeps what
the state remembers of rank `i`; the events other than `update()` make no call. -/
theorem RankPower.exec {e : Event} {s' : State} {out : List Effect}
    (h : RankPower cfg s i (powerCalls i log)) (hs : BanksSettled cfg s)
    (hallowed : admitted cfg s log e = true) (hexec : exec cfg e s = .ok (s', out)) :
    RankPower cfg s' i (powerCalls i (log ++ out)) := by
  by_cases he : ∃ input, e = .update input
  · obtain ⟨input, rfl⟩ := he
    obtain ⟨r, hu, rfl, rfl⟩ := exec_update_eq_ok hexec
    exact h.update hs (fun p hp => by simpa [admitted, popsOnly, hp] using hallowed) hu
  · obtain ⟨⟨_, _, _, _, _, _, _, _, _, rfl⟩, hout⟩ :=
      exec_eq_ok_of_ne_update (fun input he' => he ⟨input, he'⟩) hexec
    refine h.quiet (List.filterMap_eq_nil_iff.mpr fun x hx => ?_) rfl rfl le_rfl
    rcases hout x hx with ⟨_, rfl⟩ | ⟨_, rfl⟩ | ⟨_, rfl⟩ <;> rfl

end Rank

/-! ## Every run -/

/-- Along every run whose command queue pops only admitted commands, the calls to each rank
alternate, starting with a power-down, at increasing cycles; every power-up comes `tCKE`
cycles after the power-down before it; and a rank is flagged powered down exactly when its
last call was a power-down. -/
theorem power_protocol {s : State} {log : List Effect} (hrun : Run cfg (admitted cfg) s log) :
    PowerProtocol cfg s log := by
  have hrank : ∀ i, RankPower cfg s i (powerCalls i log) := by
    induction hrun with
    | init => exact fun i => ⟨nofun, List.chain'_nil, by simp [State.init], nofun, nofun⟩
    | step hrun hallowed hexec ih =>
        exact fun i => (ih i).exec (banksSettled_of_run hrun).1 hallowed hexec
  exact ⟨fun i => (hrank i).first_down, fun i => (hrank i).alternates, fun i => (hrank i).flag⟩

set_option maxRecDepth 100000 in
/-- With its queue empty rank 0 powers down at cycle 0; with a transaction waiting it powers
up at 4, once `tCKE` has passed. -/
theorem power_protocol_sample :
    ∃ s log, Run Config.sample (admitted Config.sample) s log ∧
      powerCalls 0 log = [(.down, 0), (.up, 4)] ∧ PowerProtocol Config.sample s log := by
  obtain ⟨s, log, hrun, hobserved⟩ := @exists_run_of_runEvents Config.sample
    (admitted Config.sample)
    (List.replicate 4 (.update ⟨none, fun _ _ => false, fun _ => true⟩) ++
      [.update ⟨none, fun _ _ => false, fun _ => false⟩])
    (fun _ log => decide (powerCalls 0 log = [(.down, 0), (.up, 4)]))
    (by decide) (by decide)
  exact ⟨s, log, hrun, of_decide_eq_true hobserved, power_protocol hrun⟩

/-! ## The exit latency

A power-up sets `nextActivate` of every bank of the rank to the cycle plus `tXP`. While that
bound has not passed, the command queue can pop nothing for the rank: its banks are Idle or
powered down, so no column command or PRECHARGE is admitted, and an ACTIVATE or REFRESH is
not due. -/

variable (cfg) in
/-- Every bank of rank `i` is Idle or powered down, and held until cycle `x`. -/
def Waking (s : State) (i x : Nat) : Prop :=
  ∀ j < cfg.NUM_BANKS, x ≤ (s.bankStates i j).nextActivate ∧
    ((s.bankStates i j).currentBankState = .Idle ∨
      (s.bankStates i j).currentBankState = .PowerDown)

variable (cfg) in
/-- What the state remembers of each power-up: it is in the past, of a rank that exists, and
until `tXP` has passed the rank is waking; and no command has been issued to a rank less than
`tXP` after it powered up. -/
structure ExitLedger (s : State) (log : List Effect) : Prop where
  woken : ∀ c i, Effect.powerUp c i ∈ log → c < s.currentClockCycle ∧ i < cfg.NUM_RANKS ∧
    (c + cfg.tXP.toNat ≤ s.currentClockCycle ∨ Waking cfg s i (c + cfg.tXP.toNat))
  exit : ∀ c c₂ p, [Effect.powerUp c p.rank, .issue c₂ p].Sublist log →
    c + cfg.tXP.toNat ≤ c₂

section Exit

variable {s : State} {i x : Nat}

/-- The countdowns leave a waking rank alone. -/
theorem Waking.countdown_eq (hw : Waking cfg s i x) (hs : BanksSettled cfg s)
    (hi : i < cfg.NUM_RANKS) {j : Nat} (hj : j < cfg.NUM_BANKS) :
    popBanks cfg s i j = s.bankStates i j := by
  rw [popBanks_apply hi hj]
  exact BankState.countdown_of_quiet ((hs.settled i hi j hj).quiet (hw j hj).2)

/-- A command the queue pops for a waking rank is admitted and due only once the rank's
bound has passed. -/
theorem Waking.le_of_due {p : BusPacket} (hw : Waking cfg s p.rank x) (hs : BanksSettled cfg s)
    (hadm : admits cfg (popBanks cfg s) p = true)
    (hdue : due cfg (popBanks cfg s) s.currentClockCycle p = true) :
    x ≤ s.currentClockCycle := by
  obtain ⟨hi, hj⟩ := admits_bounds hadm
  have hpop := fun j (hj : j < cfg.NUM_BANKS) => hw.countdown_eq hs hi hj
  have hactive : (popBanks cfg s p.rank p.bank).currentBankState ≠ .RowActive := by
    rw [hpop p.bank hj]
    rcases (hw p.bank hj).2 with h | h <;> simp [h]
  cases hty : p.busPacketType
  case ACTIVATE =>
    simp only [due, hty, decide_eq_true_eq, hpop p.bank hj] at hdue
    exact (hw p.bank hj).1.trans hdue
  case REFRESH =>
    simp only [due, hty, List.all_eq_true, List.mem_range, decide_eq_true_eq] at hdue
    have h0 := hdue 0 cfg.numBanks_pos
    rw [hpop 0 cfg.numBanks_pos] at h0
    exact (hw 0 cfg.numBanks_pos).1.trans h0
  all_goals simp [admits, hty, hactive] at hadm

/-- A command to another rank changes no bank of rank `i` that has no open row. -/
theorem poppedBanks_of_other_rank {popped : Option BusPacket} {c j : Nat}
    {banks : Nat → Nat → BankState} (hrank : ∀ p, popped = some p → p.rank ≠ i)
    (hb : (banks i j).currentBankState ≠ .RowActive) :
    poppedBanks cfg popped c banks i j = banks i j := by
  rcases popped with _ | p
  · rfl
  have hne : i ≠ p.rank := fun h => hrank p rfl h.symm
  cases hty : p.busPacketType <;>
    simp [poppedBanks, hty, readBanks, writeBanks, activateBanks, prechargeBanks, refreshBanks,
      setBank_apply, forEachBank_apply, readGuards, writeGuards, hne, hb]

variable {input : UpdateInput} {r : State × List Effect}

/-- A rank stays waking through an `update()` whose popped command is admitted and due,
while its bound is still ahead: nothing is issued to it, and the low-power loop at most
powers it down or wakes it again. -/
theorem Waking.update (hw : Waking cfg s i x) (hs : BanksSettled cfg s)
    (hi : i < cfg.NUM_RANKS) (hx : x ≤ s.currentClockCycle + cfg.tXP.toNat)
    (hahead : s.currentClockCycle < x)
    (hadm : ∀ p, input.popped = some p → admits cfg (popBanks cfg s) p = true)
    (hdue : ∀ p, input.popped = some p → due cfg (popBanks cfg s) s.currentClockCycle p = true)
    (hu : DramSim.update cfg input s = .ok r) : Waking cfg r.1 i x := by
  obtain ⟨t, -, -, htb, -, htk, hrb, -, -, -, -, -⟩ := update_anatomy hu
  have hrank : ∀ p, input.popped = some p → p.rank ≠ i := fun p hp hpi => by
    subst hpi
    exact absurd (hw.le_of_due hs (hadm p hp) (hdue p hp)) (Nat.not_le.mpr hahead)
  intro j hj
  have ht : t.bankStates i j = s.bankStates i j := by
    rw [htb, poppedBanks_of_other_rank hrank, hw.countdown_eq hs hi hj]
    rw [hw.countdown_eq hs hi hj]
    rcases (hw j hj).2 with h | h <;> simp [h]
  rw [hrb, lowPower_bankStates hi hj, ht, htk]
  rcases powerSwitch cfg (input.isEmpty i) t i with _ | _ | _
  · exact hw j hj
  · exact ⟨(hw j hj).1, .inr rfl⟩
  · exact ⟨hx, .inl rfl⟩

/-- A power-up of `update()` is at the current cycle, of a rank that exists, which it leaves
waking for `tXP`. -/
theorem update_powerUp (hu : DramSim.update cfg input s = .ok r) {c : Nat}
    (he : Effect.powerUp c i ∈ r.2) :
    c = s.currentClockCycle ∧ i < cfg.NUM_RANKS ∧ Waking cfg r.1 i (c + cfg.tXP.toNat) := by
  obtain ⟨t, pre, post, -, -, htk, hrb, -, hout, hpre, hpost, -⟩ := update_anatomy hu
  rw [hout] at he
  simp only [List.mem_append] at he
  rcases he with (he | he) | he
  · rcases hpre _ he with ⟨_, _, _, _, _, h⟩ | ⟨_, h⟩ | ⟨_, h⟩ | ⟨_, h⟩ <;> cases h
  · cases hp : input.popped <;> simp [hp] at he
  · rcases hpost _ he with he | ⟨_, h⟩ | ⟨_, h⟩ | ⟨_, h⟩
    · obtain ⟨i', hi', ⟨-, h⟩ | ⟨hsw, h⟩⟩ := mem_lowPower_effects he <;> cases h
      refine ⟨htk, hi', fun j hj => ?_⟩
      rw [hrb, lowPower_bankStates hi' hj, hsw]
      exact ⟨le_rfl, .inl rfl⟩
    all_goals cases h

/-- Within one `update()` no command is issued after a power-up: the pop step comes before
the low-power loop. -/
theorem update_not_issue_after_powerUp (hu : DramSim.update cfg input s = .ok r)
    {c c₂ : Nat} {p : BusPacket} : ¬ [Effect.powerUp c i, .issue c₂ p].Sublist r.2 := by
  obtain ⟨t, pre, post, -, -, -, -, -, hout, hpre, hpost, -⟩ := update_anatomy hu
  have hfirst :
      Effect.powerUp c i ∉ pre ++ (input.popped.map (.issue s.currentClockCycle)).toList :=
    fun he => by
      rcases List.mem_append.mp he with he | he
      · rcases hpre _ he with ⟨_, _, _, _, _, h⟩ | ⟨_, h⟩ | ⟨_, h⟩ | ⟨_, h⟩ <;> cases h
      · cases hp : input.popped <;> simp [hp] at he
  intro h
  rw [hout] at h
  rcases sublist_pair_append h with h | ⟨he, -⟩ | h
  · exact hfirst (h.subset (List.mem_cons_self _ _))
  · exact hfirst he
  · rcases hpost _ (h.subset (List.mem_cons_of_mem _ (List.mem_singleton_self _))) with
      he | ⟨_, h⟩ | ⟨_, h⟩ | ⟨_, h⟩
    · obtain ⟨_, _, ⟨_, h⟩ | ⟨_, h⟩⟩ := mem_lowPower_effects he <;> cases h
    all_goals cases h

end Exit

/-- A command the queue pops no earlier than its guard is in particular admitted. -/
theorem admitted_of_admittedDue {s : State} {log : List Effect} {e : Event}
    (h : admittedDue cfg s log e = true) : admitted cfg s log e = true := by
  rcases e with _ | _ | _ | _ | input
  any_goals rfl
  simp only [admittedDue, admitted, popsOnly] at h ⊢
  cases hp : input.popped <;> simp_all

section ExitRun

variable {s : State} {log : List Effect}

/-- One `update()` whose popped command is admitted and due keeps the exit ledger. -/
theorem ExitLedger.update {input : UpdateInput} {r : State × List Effect}
    (h : ExitLedger cfg s log) (hs : BanksSettled cfg s)
    (hadm : ∀ p, input.popped = some p → admits cfg (popBanks cfg s) p = true)
    (hdue : ∀ p, input.popped = some p → due cfg (popBanks cfg s) s.currentClockCycle p = true)
    (hu : DramSim.update cfg input s = .ok r) :
    ExitLedger cfg { r.1 with currentClockCycle := r.1.currentClockCycle + 1 } (log ++ r.2) := by
  have hclock : r.1.currentClockCycle = s.currentClockCycle := (update_refresh hu).2.2.1
  refine ⟨fun c i he => ?_, fun c c₂ p hsub => ?_⟩
  · show c < r.1.currentClockCycle + 1 ∧ _ ∧
      (_ ≤ r.1.currentClockCycle + 1 ∨ Waking cfg r.1 i _)
    rw [hclock]
    rcases List.mem_append.mp he with he | he
    · obtain ⟨hc, hi, hw⟩ := h.woken c i he
      refine ⟨by omega, hi, ?_⟩
      by_cases hdone : c + cfg.tXP.toNat ≤ s.currentClockCycle + 1
      · exact .inl hdone
      · refine .inr ((hw.resolve_left (by omega)).update hs hi (by omega) (by omega) hadm hdue hu)
    · obtain ⟨rfl, hi, hw⟩ := update_powerUp hu he
      exact ⟨by omega, hi, .inr hw⟩
  · rcases sublist_pair_append hsub with hsub | ⟨hup, hissue⟩ | hsub
    · exact h.exit c c₂ p hsub
    · -- the command popped in this update is the one issued
      obtain ⟨hp, rfl⟩ := update_issue hu hissue
      rcases (h.woken c p.rank hup).2.2 with hdone | hw
      · exact hdone
      · exact hw.le_of_due hs (hadm p hp) (hdue p hp)
    · exact absurd hsub (update_not_issue_after_powerUp hu)

/-- Every event of an environment whose command queue pops only admitted commands, each no
earlier than its guard, keeps the exit ledger; the events other than `update()` neither
power a rank up nor issue a command. -/
theorem ExitLedger.exec {e : Event} {s' : State} {out : List Effect}
    (h : ExitLedger cfg s log) (hs : BanksSettled cfg s)
    (hallowed : admittedDue cfg s log e = true) (hexec : exec cfg e s = .ok (s', out)) :
    ExitLedger cfg s' (log ++ out) := by
  by_cases he : ∃ input, e = .update input
  · obtain ⟨input, rfl⟩ := he
    obtain ⟨r, hu, rfl, rfl⟩ := exec_update_eq_ok hexec
    have hok : ∀ p, input.popped = some p → admits cfg (popBanks cfg s) p = true ∧
        due cfg (popBanks cfg s) s.currentClockCycle p = true :=
      fun p hp => by simpa [admittedDue, popsOnly, hp] using hallowed
    exact h.update hs (fun p hp => (hok p hp).1) (fun p hp => (hok p hp).2) hu
  · obtain ⟨⟨_, _, _, _, _, _, _, _, _, rfl⟩, hout⟩ :=
      exec_eq_ok_of_ne_update (fun input he' => he ⟨input, he'⟩) hexec
    have hup : ∀ c i, Effect.powerUp c i ∉ out := fun _ _ hx => by
      rcases hout _ hx with ⟨_, h⟩ | ⟨_, h⟩ | ⟨_, h⟩ <;> cases h
    have hissue : ∀ c₂ p, Effect.issue c₂ p ∉ out := fun _ _ hx => by
      rcases hout _ hx with ⟨_, h⟩ | ⟨_, h⟩ | ⟨_, h⟩ <;> cases h
    refine ⟨fun c i he => h.woken c i ((List.mem_append.mp he).resolve_right (hup c i)),
      fun c c₂ p hsub => ?_⟩
    rcases sublist_pair_append hsub with hsub | ⟨-, hx⟩ | hsub
    · exact h.exit c c₂ p hsub
    · exact absurd hx (hissue c₂ p)
    · exact absurd (hsub.subset (List.mem_cons_self _ _)) (hup c p.rank)

end ExitRun

/-- After a rank powers up at cycle `c`, no command is issued to it before `c + tXP`, along
every run whose command queue pops only admitted commands, each no earlier than its guard,
in either technology. -/
theorem power_up_exit_latency {s : State} {log : List Effect}
    (hrun : Run cfg (admittedDue cfg) s log) {c c₂ : Nat} {p : BusPacket}
    (h : [Effect.powerUp c p.rank, .issue c₂ p].Sublist log) : c + cfg.tXP.toNat ≤ c₂ := by
  have hledger : ExitLedger cfg s log := by
    clear h
    induction hrun with
    | init => exact ⟨fun _ _ he => (nomatch he), fun _ _ _ hsub => by simp at hsub⟩
    | step hrun hallowed hexec ih =>
        have hs := (banksSettled_of_run (hrun.mono fun _ _ _ => admitted_of_admittedDue)).1
        exact ih.exec hs hallowed hexec
  exact hledger.exit c c₂ p h

set_option maxRecDepth 100000 in
/-- Rank 0 powers down at cycle 0 and up at 4, when its queue fills; an ACTIVATE to it is
issued at 8, exactly `tXP` later. -/
theorem power_up_exit_latency_sample :
    ∃ s log, Run Config.sample (admittedDue Config.sample) s log ∧
      [Effect.powerUp 4 0, .issue 8 ⟨.ACTIVATE, 0, 0, 0, 0, 0⟩].Sublist log ∧
      4 + Config.sample.tXP.toNat ≤ 8 := by
  obtain ⟨s, log, hrun, hobserved⟩ := @exists_run_of_runEvents Config.sample
    (admittedDue Config.sample)
    (List.replicate 4 (.update ⟨none, fun _ _ => false, fun _ => true⟩) ++
      List.replicate 4 (.update ⟨none, fun _ _ => false, fun _ => false⟩) ++
      [.update ⟨some ⟨.ACTIVATE, 0, 0, 0, 0, 0⟩, fun _ _ => false, fun _ => false⟩])
    (fun _ log =>
      decide ([Effect.powerUp 4 0, .issue 8 ⟨.ACTIVATE, 0, 0, 0, 0, 0⟩].Sublist log))
    (by decide) (by decide)
  have hsub := of_decide_eq_true hobserved
  exact ⟨s, log, hrun, hsub,
    power_up_exit_latency hrun (p := ⟨.ACTIVATE, 0, 0, 0, 0, 0⟩) hsub⟩

/-! ## Waking a rank for its refresh -/

/-- The refresh gate asks a powered-down refresh rank to wake when its refresh is due within
`tXP` cycles, but not now. -/
theorem refreshGate_refreshWaiting {s : State} (hdue : s.refreshCountdown s.refreshRank ≠ 0)
    (hpd : s.powerDown s.refreshRank = true)
    (hsoon : intAsUnsigned (s.refreshCountdown s.refreshRank) ≤ cfg.tXP.toNat) :
    (refreshGate cfg s).1.refreshWaiting s.refreshRank = true := by
  simp [refreshGate, hdue, hpd, hsoon]

/-- With low power on, an `update()` that starts with the refresh rank powered down, its
refresh due within `tXP` cycles but not now and bank 0's `nextPowerUp` reached, powers that rank
up in the same cycle, whatever the command queue pops or answers: the refresh gate's request
overrides an empty queue in the low-power loop. -/
theorem update_wakes_for_refresh (hlow : cfg.USE_LOW_POWER = true) {input : UpdateInput}
    {s : State} {r : State × List Effect} (hu : update cfg input s = .ok r)
    (hrank : s.refreshRank < cfg.NUM_RANKS) (hpd : s.powerDown s.refreshRank = true)
    (hdue : s.refreshCountdown s.refreshRank ≠ 0)
    (hsoon : intAsUnsigned (s.refreshCountdown s.refreshRank) ≤ cfg.tXP.toNat)
    (hwake : (s.bankStates s.refreshRank 0).nextPowerUp ≤ s.currentClockCycle) :
    Effect.powerUp s.currentClockCycle s.refreshRank ∈ r.2 := by
  obtain ⟨written, issued, admitted, returned, hw, hi, ha, hr, rfl⟩ := update_eq_ok hu
  -- the refresh gate reads the refresh fields and the flags the update started with
  have hwritten : written.refreshCountdown = s.refreshCountdown ∧
      written.refreshRank = s.refreshRank ∧ written.powerDown = s.powerDown := by
    obtain ⟨_, _, _, _, _, _, rfl⟩ := sendWriteData_shape hw
    obtain ⟨_, _, hd⟩ := sendData_shape (sendCommand (updateBankStates cfg s).1).1
    obtain ⟨_, _, hc⟩ := sendCommand_shape (updateBankStates cfg s).1
    rw [hd, hc]
    exact ⟨rfl, rfl, rfl⟩
  obtain ⟨hcd, hrk, hpdw⟩ := hwritten
  have hwaiting := @refreshGate_refreshWaiting cfg written (by rw [hcd, hrk]; exact hdue)
    (by rw [hpdw, hrk]; exact hpd) (by rw [hcd, hrk]; exact hsoon)
  rw [hrk] at hwaiting
  -- and the low-power loop sees that request, the flag and bank 0 as they were
  obtain ⟨_, _, _, _, _, _, _, _, _, _, _, hgate⟩ := refreshGate_written_shape hw
  obtain ⟨hib, hip, hiw, hik⟩ := issuePopped_fields hi
  obtain ⟨_, _, ha'⟩ := admitTransaction_shape ha
  have hclock : admitted.1.currentClockCycle = s.currentClockCycle := by rw [ha', hik, hgate]
  have hsw : powerSwitch cfg (input.isEmpty s.refreshRank) admitted.1 s.refreshRank =
      some .up := by
    have hflag : admitted.1.refreshWaiting s.refreshRank = true := by
      rw [ha']
      show issued.1.refreshWaiting _ = true
      rw [hiw]
      exact hwaiting
    have hdown : admitted.1.powerDown s.refreshRank = true := by
      rw [ha']
      show issued.1.powerDown _ = true
      rw [hip, hgate]
      exact hpd
    have hnext : (admitted.1.bankStates s.refreshRank 0).nextPowerUp =
        (s.bankStates s.refreshRank 0).nextPowerUp := by
      rw [ha']
      show (issued.1.bankStates _ _).nextPowerUp = _
      rw [hib, poppedBanks_nextPowerUp, hgate]
      exact popBanks_nextPowerUp
    simp [powerSwitch, hlow, hflag, hdown, hclock, hnext, hwake]
  have hmem := mem_lowPower_powerUp hrank hsw
  rw [hclock] at hmem
  exact List.mem_append_left _ (List.mem_append_right _ hmem)

/-- Both ranks powered down with their refreshes 3 cycles away, within `tXP`, and an empty
queue: the update at cycle 0 powers rank 0 up. -/
theorem update_wakes_for_refresh_sample :
    ∃ r, DramSim.update Config.sample ⟨none, fun _ _ => false, fun _ => true⟩
        { State.init Config.sample with
          bankStates := fun _ _ => { BankState.init with currentBankState := .PowerDown }
          powerDown := fun _ => true
          refreshCountdown := fun _ => 3 } = .ok r ∧
      Effect.powerUp 0 0 ∈ r.2 := by
  obtain ⟨r, hu⟩ : ∃ r, DramSim.update Config.sample ⟨none, fun _ _ => false, fun _ => true⟩
      { State.init Config.sample with
        bankStates := fun _ _ => { BankState.init with currentBankState := .PowerDown }
        powerDown := fun _ => true
        refreshCountdown := fun _ => 3 } = .ok r := ⟨_, rfl⟩
  exact ⟨r, hu, update_wakes_for_refresh rfl hu (by decide) rfl (by decide) (by decide)
    (by decide)⟩

end DramSim
