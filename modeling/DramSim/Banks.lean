import DramSim.Frame

/-! # The banks' state machine

Every bank runs a small state machine: an ACTIVATE opens a row, a PRECHARGE or the end of
an auto-precharge closes it, a REFRESH and a power-down take the bank out of service, and
a countdown ends each transient state. `BankMode` is the part of a bank this machine holds
and `BankMode.command` is what a command does to its target; the controller's bank table
runs this machine bank by bank. Over every run whose command queue pops only what a bank's
state admits the machine stays settled: an Idle or powered-down bank has no transition
pending, a rank is powered down exactly when all its banks are, and an open row is the row
of the bank's last ACTIVATE, with nothing that closes it since.
-/

namespace DramSim

/-- The part of a bank the state machine reads and writes; the timing guards are left
out. -/
structure BankMode where
  currentBankState : CurrentBankState
  openRowAddress : Nat
  lastCommand : BusPacketType
  stateChangeCountdown : Nat
  deriving DecidableEq, Repr

/-- A bank's state machine. -/
def BankState.mode (b : BankState) : BankMode :=
  ⟨b.currentBankState, b.openRowAddress, b.lastCommand, b.stateChangeCountdown⟩

variable (cfg : Config)

/-- What a command does to the state machine of a bank it targets. -/
def BankMode.command (busPacketType : BusPacketType) (row : Nat) (m : BankMode) : BankMode :=
  match busPacketType with
  | .ACTIVATE =>
      { m with currentBankState := .RowActive, openRowAddress := row, lastCommand := .ACTIVATE }
  | .READ => { m with lastCommand := .READ }
  | .READ_P =>
      { m with lastCommand := .READ_P, stateChangeCountdown := cfg.READ_TO_PRE_DELAY.toNat }
  | .WRITE => { m with lastCommand := .WRITE }
  | .WRITE_P =>
      { m with lastCommand := .WRITE_P, stateChangeCountdown := cfg.WRITE_TO_PRE_DELAY.toNat }
  | .PRECHARGE =>
      if cfg.isSmartMRAM then
        { m with currentBankState := .Idle, lastCommand := .PRECHARGE, stateChangeCountdown := 0 }
      else
        { m with currentBankState := .Precharging, lastCommand := .PRECHARGE,
                 stateChangeCountdown := cfg.tRP.toNat }
  | .REFRESH =>
      { m with currentBankState := .Refreshing, lastCommand := .REFRESH,
               stateChangeCountdown := cfg.tRFC.toNat }
  | .DATA => m

/-- Whether bank `(i, j)` is a target of the packet: its own bank, or any bank of its rank
for a REFRESH. -/
def BusPacket.Touches (p : BusPacket) (i j : Nat) : Prop :=
  p.rank = i ∧ (p.bank = j ∨ p.busPacketType = .REFRESH)

variable {cfg}

/-! ## The bank table runs the machine -/

section Refinement

variable {p : BusPacket} {c rank i j : Nat} {b : BankState} {banks : Nat → Nat → BankState}

/-! The timing guards a command writes leave the state machine and the power-up cycle
alone. -/

@[simp] theorem readGuards_mode : (readGuards cfg c rank i b).mode = b.mode := by
  unfold readGuards; split_ifs <;> rfl

@[simp] theorem writeGuards_mode : (writeGuards cfg c rank i b).mode = b.mode := by
  unfold writeGuards; split_ifs <;> rfl

@[simp] theorem activateGuards_mode : (activateGuards cfg c b).mode = b.mode := by
  unfold activateGuards; split_ifs <;> rfl

@[simp] theorem readGuards_nextPowerUp :
    (readGuards cfg c rank i b).nextPowerUp = b.nextPowerUp := by
  unfold readGuards; split_ifs <;> rfl

@[simp] theorem writeGuards_nextPowerUp :
    (writeGuards cfg c rank i b).nextPowerUp = b.nextPowerUp := by
  unfold writeGuards; split_ifs <;> rfl

@[simp] theorem activateGuards_nextPowerUp :
    (activateGuards cfg c b).nextPowerUp = b.nextPowerUp := by
  unfold activateGuards; split_ifs <;> rfl

/-! Each command's bank table runs the machine at its targets and nowhere else. -/

theorem readBanks_mode :
    (readBanks cfg p c banks i j).mode =
      if i = p.rank ∧ j = p.bank then
        (banks i j).mode.command cfg (if p.busPacketType = .READ_P then .READ_P else .READ) p.row
      else (banks i j).mode := by
  simp only [readBanks, ite_apply, setBank_apply, forEachBank_apply]
  split_ifs <;> first | exact readGuards_mode | rfl

theorem writeBanks_mode :
    (writeBanks cfg p c banks i j).mode =
      if i = p.rank ∧ j = p.bank then
        (banks i j).mode.command cfg (if p.busPacketType = .WRITE_P then .WRITE_P else .WRITE) p.row
      else (banks i j).mode := by
  simp only [writeBanks, ite_apply, setBank_apply, forEachBank_apply]
  split_ifs <;> first | exact writeGuards_mode | rfl

theorem activateBanks_mode :
    (activateBanks cfg p c banks i j).mode =
      if i = p.rank ∧ j = p.bank then (banks i j).mode.command cfg .ACTIVATE p.row
      else (banks i j).mode := by
  simp only [activateBanks, setBank_apply]
  split_ifs <;> first | exact activateGuards_mode | rfl

theorem prechargeBanks_mode :
    (prechargeBanks cfg p c banks i j).mode =
      if i = p.rank ∧ j = p.bank then (banks i j).mode.command cfg .PRECHARGE p.row
      else (banks i j).mode := by
  simp only [prechargeBanks, setBank_apply, BankMode.command]
  split_ifs <;> rfl

theorem refreshBanks_mode :
    (refreshBanks cfg p c banks i j).mode =
      if i = p.rank ∧ j < cfg.NUM_BANKS then (banks i j).mode.command cfg .REFRESH p.row
      else (banks i j).mode := by
  simp only [refreshBanks]
  split_ifs <;> rfl

theorem poppedBanks_mode_of_touches (hj : j < cfg.NUM_BANKS) (h : p.Touches i j) :
    (poppedBanks cfg (some p) c banks i j).mode =
      (banks i j).mode.command cfg p.busPacketType p.row := by
  obtain ⟨rfl, rfl | hty⟩ := h
  · cases hty : p.busPacketType <;>
      simp only [poppedBanks, hty, readBanks_mode, writeBanks_mode, activateBanks_mode,
        prechargeBanks_mode, refreshBanks_mode, hj, and_self, if_true, if_false, reduceCtorEq]
    -- a DATA packet leaves the bank table alone
    rfl
  · simp only [poppedBanks, hty, refreshBanks_mode, hj, and_self, if_true]

theorem poppedBanks_mode_of_not_touches (h : ¬ p.Touches i j) :
    (poppedBanks cfg (some p) c banks i j).mode = (banks i j).mode := by
  simp only [BusPacket.Touches, not_and, not_or] at h
  have hown : ¬ (i = p.rank ∧ j = p.bank) := fun ⟨hi, hj⟩ => (h hi.symm).1 hj.symm
  cases hty : p.busPacketType <;>
    simp only [poppedBanks, hty, readBanks_mode, writeBanks_mode, activateBanks_mode,
      prechargeBanks_mode, refreshBanks_mode, hown, if_false]
  -- a REFRESH spares the other ranks
  exact if_neg fun hi => (h hi.1.symm).2 hty

theorem poppedBanks_nextPowerUp (popped : Option BusPacket) :
    (poppedBanks cfg popped c banks i j).nextPowerUp = (banks i j).nextPowerUp := by
  rcases popped with _ | p
  · rfl
  · cases hty : p.busPacketType <;>
      simp only [poppedBanks, hty, readBanks, writeBanks, activateBanks, prechargeBanks,
        refreshBanks, ite_apply, setBank_apply, forEachBank_apply,
        apply_ite BankState.nextPowerUp, readGuards_nextPowerUp, writeGuards_nextPowerUp,
        activateGuards_nextPowerUp, ite_self]

end Refinement

/-! ## Settled machines -/

/-- A settled machine has no transition pending in a quiet state, and a pending
precharge or refresh runs in its transient state. -/
structure BankMode.Settled (m : BankMode) : Prop where
  quiet : m.currentBankState = .Idle ∨ m.currentBankState = .PowerDown →
    m.stateChangeCountdown = 0
  closing : 0 < m.stateChangeCountdown →
    m.lastCommand = .PRECHARGE ∨ m.lastCommand = .REFRESH →
    m.currentBankState = .Precharging ∨ m.currentBankState = .Refreshing

/-- Whether the state of a bank admits a command for `row` to it. -/
def BankMode.Admits (busPacketType : BusPacketType) (row : Nat) (m : BankMode) : Prop :=
  match busPacketType with
  | .ACTIVATE | .REFRESH => m.currentBankState = .Idle
  | .READ | .READ_P | .WRITE | .WRITE_P =>
      m.currentBankState = .RowActive ∧ m.openRowAddress = row
  | .PRECHARGE => m.currentBankState = .RowActive
  | .DATA => False

theorem BankMode.settled_command {m : BankMode} {busPacketType : BusPacketType} {row : Nat}
    (hm : m.Settled) (hadmits : m.Admits busPacketType row) :
    (m.command cfg busPacketType row).Settled := by
  obtain ⟨hquiet, hclosing⟩ := hm
  cases busPacketType <;> simp only [BankMode.Admits] at hadmits <;>
    constructor <;> simp only [BankMode.command] <;> (try split) <;>
    simp_all only [reduceCtorEq, or_self, false_implies, Nat.lt_irrefl, implies_true]

section Countdown

variable {isSmartMRAM : Bool} {tRP : UInt32} {b : BankState}

/-- The four things the countdown can do to a bank: nothing, a decrement, the end of an
auto-precharge, the end of a precharge or refresh, or the end of any other countdown. -/
theorem BankState.countdown_cases (b : BankState) :
    (b.stateChangeCountdown = 0 ∧ b.countdown isSmartMRAM tRP = b) ∨
    (1 < b.stateChangeCountdown ∧ b.countdown isSmartMRAM tRP =
      { b with stateChangeCountdown := b.stateChangeCountdown - 1 }) ∨
    (b.stateChangeCountdown = 1 ∧ b.endsAutoPrecharge = true ∧
      b.countdown isSmartMRAM tRP = if isSmartMRAM then
        { b with currentBankState := .Idle, lastCommand := .PRECHARGE, stateChangeCountdown := 0 }
      else
        { b with currentBankState := .Precharging, lastCommand := .PRECHARGE,
                 stateChangeCountdown := tRP.toNat }) ∨
    (b.stateChangeCountdown = 1 ∧ (b.lastCommand = .PRECHARGE ∨ b.lastCommand = .REFRESH) ∧
      b.countdown isSmartMRAM tRP =
        { b with currentBankState := .Idle, stateChangeCountdown := 0 }) ∨
    (b.stateChangeCountdown = 1 ∧ b.endsAutoPrecharge = false ∧
      b.lastCommand ≠ .PRECHARGE ∧ b.lastCommand ≠ .REFRESH ∧
      b.countdown isSmartMRAM tRP = { b with stateChangeCountdown := 0 }) := by
  unfold BankState.countdown BankState.endsAutoPrecharge
  by_cases hz : b.stateChangeCountdown = 0
  · exact .inl ⟨hz, by simp [hz]⟩
  by_cases hgt : 1 < b.stateChangeCountdown
  · exact .inr (.inl ⟨hgt, by rw [if_pos (by omega), if_neg (by omega)]⟩)
  have hone : b.stateChangeCountdown = 1 := by omega
  rw [if_pos (by omega), if_pos (by omega)]
  refine .inr (.inr ?_)
  cases hlast : b.lastCommand <;> simp [hone, hlast]

theorem BankState.countdown_of_quiet (h : b.stateChangeCountdown = 0) :
    b.countdown isSmartMRAM tRP = b := by
  simp [BankState.countdown, h]

theorem BankState.settled_countdown (hb : b.mode.Settled) :
    (b.countdown isSmartMRAM tRP).mode.Settled := by
  obtain ⟨hquiet, hclosing⟩ := hb
  rcases @BankState.countdown_cases isSmartMRAM tRP b with
    ⟨-, h⟩ | ⟨hgt, h⟩ | ⟨-, -, h⟩ | ⟨-, -, h⟩ | ⟨-, -, -, -, h⟩ <;> rw [h]
  · exact ⟨hquiet, hclosing⟩
  · constructor
    · exact fun h1 => absurd (hquiet h1) (by simp only [BankState.mode]; omega)
    · exact fun _ h2 => hclosing (by simp only [BankState.mode]; omega) h2
  · split <;> constructor <;> simp [BankState.mode]
  · constructor <;> simp [BankState.mode]
  · constructor <;> simp [BankState.mode]

/-- The countdown closes an open row only by an auto-precharge. -/
theorem BankState.countdown_rowActive_iff (hb : b.mode.Settled) :
    (b.countdown isSmartMRAM tRP).currentBankState = .RowActive ↔
      b.currentBankState = .RowActive ∧ b.endsAutoPrecharge = false := by
  obtain ⟨-, hclosing⟩ := hb
  rcases @BankState.countdown_cases isSmartMRAM tRP b with
    ⟨hz, h⟩ | ⟨hgt, h⟩ | ⟨-, hends, h⟩ | ⟨hone, hlast, h⟩ | ⟨-, hends, -, -, h⟩
  all_goals rw [h]
  · simp [BankState.endsAutoPrecharge, hz]
  · simp [BankState.endsAutoPrecharge, show b.stateChangeCountdown ≠ 1 by omega]
  · split <;> simp [hends]
  · rcases hclosing (by simp [BankState.mode, hone]) hlast with hstate | hstate <;>
      simp only [BankState.mode] at hstate <;> simp [hstate]
  · simp [hends]

theorem BankState.countdown_powerDown_iff (hb : b.mode.Settled) :
    (b.countdown isSmartMRAM tRP).currentBankState = .PowerDown ↔
      b.currentBankState = .PowerDown := by
  obtain ⟨hquiet, -⟩ := hb
  rcases @BankState.countdown_cases isSmartMRAM tRP b with
    ⟨-, h⟩ | ⟨-, h⟩ | ⟨hone, -, h⟩ | ⟨hone, -, h⟩ | ⟨-, -, -, -, h⟩ <;> rw [h]
  all_goals
    have hne : b.currentBankState ≠ .PowerDown := fun hd => by
      have := hquiet (.inr hd)
      simp only [BankState.mode] at this
      omega
    (try split) <;> simp [hne]

theorem BankState.countdown_openRowAddress :
    (b.countdown isSmartMRAM tRP).openRowAddress = b.openRowAddress := by
  rcases @BankState.countdown_cases isSmartMRAM tRP b with
    ⟨-, h⟩ | ⟨-, h⟩ | ⟨-, -, h⟩ | ⟨-, -, h⟩ | ⟨-, -, -, -, h⟩ <;>
    (rw [h]; try split) <;> rfl

theorem BankState.countdown_nextPowerUp :
    (b.countdown isSmartMRAM tRP).nextPowerUp = b.nextPowerUp := by
  rcases @BankState.countdown_cases isSmartMRAM tRP b with
    ⟨-, h⟩ | ⟨-, h⟩ | ⟨-, -, h⟩ | ⟨-, -, h⟩ | ⟨-, -, -, -, h⟩ <;>
    (rw [h]; try split) <;> rfl

end Countdown

/-! ## One command on the machine -/

section Command

variable {m : BankMode} {busPacketType : BusPacketType} {row : Nat}

theorem BankMode.command_openRowAddress :
    (m.command cfg busPacketType row).openRowAddress =
      if busPacketType = .ACTIVATE then row else m.openRowAddress := by
  cases busPacketType <;> simp only [BankMode.command] <;> split_ifs <;> simp_all

/-- An admitted command neither powers a bank down nor wakes it. -/
theorem BankMode.command_powerDown_iff (h : m.Admits busPacketType row) :
    (m.command cfg busPacketType row).currentBankState = .PowerDown ↔
      m.currentBankState = .PowerDown := by
  cases busPacketType <;> simp only [BankMode.command, BankMode.Admits] at h ⊢ <;>
    (try split) <;> simp_all

/-- After an admitted command a bank is RowActive when the command is an ACTIVATE, or a
column command to its open row. -/
theorem BankMode.command_rowActive (h : m.Admits busPacketType row)
    (hactive : (m.command cfg busPacketType row).currentBankState = .RowActive) :
    busPacketType = .ACTIVATE ∨
      (busPacketType ≠ .PRECHARGE ∧ busPacketType ≠ .REFRESH ∧
        m.currentBankState = .RowActive) := by
  cases busPacketType <;> simp only [BankMode.command, BankMode.Admits] at h hactive ⊢ <;>
    (try split at hactive) <;> simp_all

end Command

section Popped

variable {banks : Nat → Nat → BankState} {p : BusPacket} {c i j : Nat}

theorem admits_bounds (h : admits cfg banks p = true) :
    p.rank < cfg.NUM_RANKS ∧ p.bank < cfg.NUM_BANKS := by
  simp only [admits, Bool.and_eq_true, decide_eq_true_eq] at h
  exact h.1

/-- The command queue's contract for the banks a command targets. -/
theorem admits_touches (h : admits cfg banks p = true) (ht : p.Touches i j)
    (hj : j < cfg.NUM_BANKS) : (banks i j).mode.Admits p.busPacketType p.row := by
  obtain ⟨rfl, hbank⟩ := ht
  simp only [admits, Bool.and_eq_true, decide_eq_true_eq] at h
  obtain ⟨-, h⟩ := h
  cases hty : p.busPacketType <;> simp only [hty] at h hbank <;>
    simp_all [BankMode.Admits, BankState.mode]

theorem popBanks_apply {s : State} (hi : i < cfg.NUM_RANKS) (hj : j < cfg.NUM_BANKS) :
    popBanks cfg s i j = (s.bankStates i j).countdown cfg.isSmartMRAM cfg.tRP := by
  simp [popBanks, Config.forEachBank, hi, hj]

variable {popped : Option BusPacket}
  (hadmits : ∀ p, popped = some p → admits cfg banks p = true)
include hadmits

theorem settled_poppedBanks (hbanks : ∀ i < cfg.NUM_RANKS, ∀ j < cfg.NUM_BANKS,
    (banks i j).mode.Settled) (hi : i < cfg.NUM_RANKS) (hj : j < cfg.NUM_BANKS) :
    (poppedBanks cfg popped c banks i j).mode.Settled := by
  rcases popped with _ | p
  · exact hbanks i hi j hj
  · by_cases ht : p.Touches i j
    · rw [poppedBanks_mode_of_touches hj ht]
      exact BankMode.settled_command (hbanks i hi j hj) (admits_touches (hadmits p rfl) ht hj)
    · rw [poppedBanks_mode_of_not_touches ht]
      exact hbanks i hi j hj

theorem poppedBanks_powerDown_iff (hj : j < cfg.NUM_BANKS) :
    (poppedBanks cfg popped c banks i j).currentBankState = .PowerDown ↔
      (banks i j).currentBankState = .PowerDown := by
  rcases popped with _ | p
  · rfl
  · show (poppedBanks cfg (some p) c banks i j).mode.currentBankState = _ ↔
      (banks i j).mode.currentBankState = _
    by_cases ht : p.Touches i j
    · rw [poppedBanks_mode_of_touches hj ht]
      exact BankMode.command_powerDown_iff (admits_touches (hadmits p rfl) ht hj)
    · rw [poppedBanks_mode_of_not_touches ht]

end Popped

/-! ## Power switches -/

section Power

variable {isEmpty : Bool} {t : State} {i : Nat}

theorem powerSwitch_eq_down (h : powerSwitch cfg isEmpty t i = some .down) :
    ∀ j < cfg.NUM_BANKS, (t.bankStates i j).currentBankState = .Idle := by
  unfold powerSwitch at h
  split_ifs at h with hlow hwait hidle hup <;> cases h
  simpa using hidle

theorem powerSwitch_eq_up (h : powerSwitch cfg isEmpty t i = some .up) : t.powerDown i = true := by
  unfold powerSwitch at h
  split_ifs at h with hlow hwait hidle hup <;> cases h
  simp_all

theorem BankState.settled_switchPower {b : BankState} (hb : b.mode.Settled) {c : Nat}
    {switch : Option PowerSwitch} (hdown : switch = some .down → b.currentBankState = .Idle)
    (hup : switch = some .up → b.currentBankState = .PowerDown) :
    (b.switchPower cfg c switch).mode.Settled := by
  obtain ⟨hquiet, hclosing⟩ := hb
  cases switch with
  | none => exact ⟨hquiet, hclosing⟩
  | some switch =>
      have h0 : b.stateChangeCountdown = 0 := by
        cases switch with
        | down => exact hquiet (.inl (hdown rfl))
        | up => exact hquiet (.inr (hup rfl))
      cases switch <;>
        exact ⟨fun _ => h0, fun hpos _ => absurd h0 (Nat.pos_iff_ne_zero.mp hpos)⟩

@[simp] theorem BankState.switchPower_none {b : BankState} {c : Nat} :
    b.switchPower cfg c none = b := rfl

/-- The low-power loop leaves no bank of a rank it switches RowActive. -/
theorem BankState.switchPower_eq_none_of_rowActive {b : BankState} {c : Nat}
    {sw : Option PowerSwitch} (h : (b.switchPower cfg c sw).currentBankState = .RowActive) :
    sw = none := by
  rcases sw with _ | _ | _ <;> simp_all [BankState.switchPower]

/-- A rank powers down when low power is on, its queue is empty, no refresh is waiting and
all its banks are Idle. Nothing else is looked at: not the command or data bus, nor the
write data still to be sent. -/
theorem powerSwitch_eq_down_iff :
    powerSwitch cfg isEmpty t i = some .down ↔
      cfg.USE_LOW_POWER = true ∧ isEmpty = true ∧ t.refreshWaiting i = false ∧
        ∀ j < cfg.NUM_BANKS, (t.bankStates i j).currentBankState = .Idle := by
  unfold powerSwitch
  split_ifs with hlow hwait hidle hup <;> simp_all

set_option maxRecDepth 100000 in
/-- Under SMART a PRECHARGE leaves its bank Idle at once, so a rank with an empty queue
powers down in the very update that puts the PRECHARGE on the command bus, and the rank
receives it one update later. -/
theorem smart_precharge_after_power_down :
    { Config.sample with isSmartMRAM := true }.tCMD = 1 ∧
    { Config.sample with isSmartMRAM := true }.USE_LOW_POWER = true ∧
    { Config.sample with isSmartMRAM := true }.WL.toNat +
        ({ Config.sample with isSmartMRAM := true }.BL / 2).toNat ≤
      { Config.sample with isSmartMRAM := true }.WRITE_TO_PRE_DELAY.toNat ∧
    ∃ s log, Run { Config.sample with isSmartMRAM := true }
        (admittedDue { Config.sample with isSmartMRAM := true }) s log ∧
      Effect.issue 1 ⟨.PRECHARGE, 0, 0, 0, 0, 0⟩ ∈ log ∧ Effect.powerDown 1 0 ∈ log ∧
      Effect.deliver 2 ⟨.PRECHARGE, 0, 0, 0, 0, 0⟩ ∈ log := by
  refine ⟨rfl, rfl, by decide, ?_⟩
  obtain ⟨s, log, hrun, hobserved⟩ := @exists_run_of_runEvents
    { Config.sample with isSmartMRAM := true }
    (admittedDue { Config.sample with isSmartMRAM := true })
    [.update ⟨some ⟨.ACTIVATE, 0, 0, 0, 0, 0⟩, fun _ _ => false, fun _ => false⟩,
      .update ⟨some ⟨.PRECHARGE, 0, 0, 0, 0, 0⟩, fun _ _ => false, fun _ => true⟩,
      .update ⟨none, fun _ _ => false, fun _ => true⟩]
    (fun _ log => decide (Effect.issue 1 ⟨.PRECHARGE, 0, 0, 0, 0, 0⟩ ∈ log) &&
      decide (Effect.powerDown 1 0 ∈ log) &&
      decide (Effect.deliver 2 ⟨.PRECHARGE, 0, 0, 0, 0, 0⟩ ∈ log))
    (by decide) (by decide)
  simp only [Bool.and_eq_true, decide_eq_true_eq] at hobserved
  exact ⟨s, log, hrun, hobserved.1.1, hobserved.1.2, hobserved.2⟩

/-- The low-power loop at bank `(i, j)` of a rank that exists. -/
theorem lowPower_bankStates {isEmpty : Nat → Bool} (hi : i < cfg.NUM_RANKS) {j : Nat}
    (hj : j < cfg.NUM_BANKS) :
    (lowPower cfg isEmpty t).1.bankStates i j =
      (t.bankStates i j).switchPower cfg t.currentClockCycle (powerSwitch cfg (isEmpty i) t i) := by
  simp [lowPower, hi, hj]

theorem lowPower_powerDown {isEmpty : Nat → Bool} (hi : i < cfg.NUM_RANKS) :
    (lowPower cfg isEmpty t).1.powerDown i =
      match powerSwitch cfg (isEmpty i) t i with
      | some .down => true
      | some .up => false
      | none => t.powerDown i := by
  rcases hsw : powerSwitch cfg (isEmpty i) t i with _ | ⟨_ | _⟩ <;>
    simp only [lowPower, if_pos hi, hsw]

end Power

/-! ## The bank table stays settled -/

variable (cfg) in
/-- The invariant of the bank table: every bank's machine is settled, and a rank is powered
down exactly when all its banks are, which then share one `nextPowerUp`. -/
structure BanksSettled (s : State) : Prop where
  settled : ∀ i < cfg.NUM_RANKS, ∀ j < cfg.NUM_BANKS, (s.bankStates i j).mode.Settled
  powerDown_iff : ∀ i < cfg.NUM_RANKS, s.powerDown i = true ↔
    ∀ j < cfg.NUM_BANKS, (s.bankStates i j).currentBankState = .PowerDown
  nextPowerUp_eq : ∀ i < cfg.NUM_RANKS, s.powerDown i = true →
    ∀ j < cfg.NUM_BANKS, (s.bankStates i j).nextPowerUp = (s.bankStates i 0).nextPowerUp

section Step

variable {input : UpdateInput} {s : State} {r : State × List Effect}

/-- The bank table the low-power loop reads is settled, powered-down banks are where they
were, and `nextPowerUp` is untouched. -/
theorem banksSettled_before_lowPower (h : BanksSettled cfg s)
    (hadmits : ∀ p, input.popped = some p → admits cfg (popBanks cfg s) p = true)
    {t : State} (htb : t.bankStates =
      poppedBanks cfg input.popped s.currentClockCycle (popBanks cfg s))
    {i j : Nat} (hi : i < cfg.NUM_RANKS) (hj : j < cfg.NUM_BANKS) :
    (t.bankStates i j).mode.Settled ∧
      ((t.bankStates i j).currentBankState = .PowerDown ↔
        (s.bankStates i j).currentBankState = .PowerDown) ∧
      (t.bankStates i j).nextPowerUp = (s.bankStates i j).nextPowerUp := by
  have hpop : ∀ i < cfg.NUM_RANKS, ∀ j < cfg.NUM_BANKS, (popBanks cfg s i j).mode.Settled :=
    fun i hi j hj => popBanks_apply hi hj ▸ BankState.settled_countdown (h.settled i hi j hj)
  rw [htb]
  refine ⟨settled_poppedBanks hadmits hpop hi hj, ?_, ?_⟩
  · rw [poppedBanks_powerDown_iff hadmits hj, popBanks_apply hi hj]
    exact BankState.countdown_powerDown_iff (h.settled i hi j hj)
  · rw [poppedBanks_nextPowerUp, popBanks_apply hi hj, BankState.countdown_nextPowerUp]

/-- One `update()` whose popped command is admitted keeps the bank table settled. -/
theorem banksSettled_update (h : BanksSettled cfg s)
    (hadmits : ∀ p, input.popped = some p → admits cfg (popBanks cfg s) p = true)
    (hu : update cfg input s = .ok r) : BanksSettled cfg r.1 := by
  obtain ⟨t, -, -, htb, htp, -, hrb, hrp, -⟩ := update_anatomy hu
  have ht := fun i (hi : i < cfg.NUM_RANKS) j (hj : j < cfg.NUM_BANKS) =>
    banksSettled_before_lowPower h hadmits htb hi hj
  have hbank : ∀ i < cfg.NUM_RANKS, ∀ j < cfg.NUM_BANKS, r.1.bankStates i j =
      (t.bankStates i j).switchPower cfg t.currentClockCycle
        (powerSwitch cfg (input.isEmpty i) t i) :=
    fun i hi j hj => by rw [hrb, lowPower_bankStates hi hj]
  -- a rank switched up had all its banks powered down
  have hup : ∀ i < cfg.NUM_RANKS, powerSwitch cfg (input.isEmpty i) t i = some .up →
      ∀ j < cfg.NUM_BANKS, (t.bankStates i j).currentBankState = .PowerDown :=
    fun i hi hsw j hj => (ht i hi j hj).2.1.mpr
      ((h.powerDown_iff i hi).mp (htp ▸ powerSwitch_eq_up hsw) j hj)
  refine ⟨fun i hi j hj => ?_, fun i hi => ?_, fun i hi => ?_⟩
  · rw [hbank i hi j hj]
    exact BankState.settled_switchPower (ht i hi j hj).1
      (fun hsw => powerSwitch_eq_down hsw j hj) (fun hsw => hup i hi hsw j hj)
  · rw [hrp, lowPower_powerDown hi]
    split
    · rename_i hsw
      simp only [true_iff]
      intro j hj
      rw [hbank i hi j hj, hsw]
      rfl
    · rename_i hsw
      simp only [Bool.false_eq_true, false_iff, not_forall]
      refine ⟨0, cfg.numBanks_pos, ?_⟩
      rw [hbank i hi 0 cfg.numBanks_pos, hsw]
      simp [BankState.switchPower]
    · rename_i hsw
      rw [htp, h.powerDown_iff i hi]
      refine forall₂_congr fun j hj => ?_
      rw [hbank i hi j hj, hsw]
      exact (ht i hi j hj).2.1.symm
  · rw [hrp, lowPower_powerDown hi]
    split
    · rename_i hsw
      intro _ j hj
      rw [hbank i hi j hj, hbank i hi 0 cfg.numBanks_pos, hsw]
      rfl
    · intro hfalse
      cases hfalse
    · rename_i hsw
      intro hpd j hj
      rw [hbank i hi j hj, hbank i hi 0 cfg.numBanks_pos, hsw]
      simp only [BankState.switchPower]
      rw [(ht i hi j hj).2.2, (ht i hi 0 cfg.numBanks_pos).2.2]
      exact h.nextPowerUp_eq i hi (htp ▸ hpd) j hj

end Step

/-! ## Open rows and the history -/

/-- Whether an effect closes bank `(i, j)`'s row or supersedes its ACTIVATE: an ACTIVATE,
PRECHARGE or REFRESH issued to it, the end of its auto-precharge, or its rank powering
down. -/
def Effect.Closes (i j : Nat) : Effect → Prop
  | .issue _ p => p.rank = i ∧
      (p.bank = j ∧ (p.busPacketType = .ACTIVATE ∨ p.busPacketType = .PRECHARGE) ∨
        p.busPacketType = .REFRESH)
  | .autoPrecharge _ i' j' => i' = i ∧ j' = j
  | .powerDown _ i' => i' = i
  | _ => False

/-- Bank `(i, j)` has row `row` open by the last ACTIVATE issued to it, and nothing has
closed it since. -/
def RowOpened (log : List Effect) (i j row : Nat) : Prop :=
  ∃ pre c p post, log = pre ++ Effect.issue c p :: post ∧ p.busPacketType = .ACTIVATE ∧
    p.rank = i ∧ p.bank = j ∧ p.row = row ∧ ∀ e ∈ post, ¬ e.Closes i j

theorem RowOpened.append {log out : List Effect} {i j row : Nat} (h : RowOpened log i j row)
    (hout : ∀ e ∈ out, ¬ e.Closes i j) : RowOpened (log ++ out) i j row := by
  obtain ⟨pre, c, p, post, rfl, hact, hrank, hbank, hrow, hpost⟩ := h
  refine ⟨pre, c, p, post ++ out, by simp, hact, hrank, hbank, hrow, fun e he => ?_⟩
  rcases List.mem_append.mp he with he | he
  · exact hpost e he
  · exact hout e he

theorem Effect.touches_of_closes {c i j : Nat} {p : BusPacket}
    (h : (Effect.issue c p).Closes i j) : p.Touches i j := by
  obtain ⟨hrank, ⟨hbank, -⟩ | hrefresh⟩ := h
  · exact ⟨hrank, .inl hbank⟩
  · exact ⟨hrank, .inr hrefresh⟩

/-- After one `update()` whose popped command is admitted, a RowActive bank's row is the
row of its last ACTIVATE. -/
theorem rowOpened_update {input : UpdateInput} {s : State} {log : List Effect}
    {r : State × List Effect} (h : BanksSettled cfg s)
    (hrows : ∀ i < cfg.NUM_RANKS, ∀ j < cfg.NUM_BANKS,
      (s.bankStates i j).currentBankState = .RowActive →
        RowOpened log i j (s.bankStates i j).openRowAddress)
    (hadmits : ∀ p, input.popped = some p → admits cfg (popBanks cfg s) p = true)
    (hu : update cfg input s = .ok r) {i j : Nat} (hi : i < cfg.NUM_RANKS)
    (hj : j < cfg.NUM_BANKS) (hactive : (r.1.bankStates i j).currentBankState = .RowActive) :
    RowOpened (log ++ r.2) i j (r.1.bankStates i j).openRowAddress := by
  obtain ⟨t, pre, post, htb, -, -, hrb, -, hout, hpre, hpost, -⟩ := update_anatomy hu
  have hsettled := h.settled i hi j hj
  -- the rank did not switch, so the bank is as the command left it
  rw [hrb, lowPower_bankStates hi hj] at hactive ⊢
  have hswitch := BankState.switchPower_eq_none_of_rowActive hactive
  rw [hswitch, BankState.switchPower_none] at hactive ⊢
  have hpost' : ∀ e ∈ post, ¬ e.Closes i j := by
    intro e he hcloses
    rcases hpost e he with he | ⟨_, rfl⟩ | ⟨_, rfl⟩ | ⟨_, rfl⟩
    · obtain ⟨i', -, ⟨hsw, rfl⟩ | ⟨-, rfl⟩⟩ := mem_lowPower_effects he
      · cases hcloses
        rw [hsw] at hswitch
        cases hswitch
      · exact hcloses
    all_goals exact hcloses
  -- a bank that stays open through the countdown: the history only grows by effects that
  -- do not close it
  have hkept : (popBanks cfg s i j).currentBankState = .RowActive →
      (∀ p, input.popped = some p → ¬ (Effect.issue s.currentClockCycle p).Closes i j) →
      RowOpened (log ++ r.2) i j (popBanks cfg s i j).openRowAddress := by
    intro hpop hissue
    rw [popBanks_apply hi hj, BankState.countdown_rowActive_iff hsettled] at hpop
    rw [popBanks_apply hi hj, BankState.countdown_openRowAddress, hout]
    refine (hrows i hi j hj hpop.1).append fun e he hcloses => ?_
    simp only [List.mem_append] at he
    rcases he with (he | he) | he
    · rcases hpre e he with
        ⟨i', j', -, -, hends, rfl⟩ | ⟨_, rfl⟩ | ⟨_, rfl⟩ | ⟨_, rfl⟩
      · obtain ⟨rfl, rfl⟩ := hcloses
        rw [hpop.2] at hends
        cases hends
      all_goals exact hcloses
    · rcases Option.eq_none_or_eq_some input.popped with hnone | ⟨p, hsome⟩
      · rw [hnone] at he
        cases he
      · rw [hsome, Option.map_some', Option.toList_some, List.mem_singleton] at he
        subst he
        exact hissue p hsome hcloses
    · exact hpost' e he hcloses
  rw [htb] at hactive ⊢
  rcases Option.eq_none_or_eq_some input.popped with hnone | ⟨p, hsome⟩
  · rw [hnone] at hactive ⊢
    exact hkept hactive fun _ h => by rw [hnone] at h; cases h
  · rw [hsome] at hactive ⊢
    have hadm := hadmits p hsome
    have hissue : ∀ p', input.popped = some p' → p' = p := fun p' h' =>
      Option.some.inj (h'.symm.trans hsome)
    by_cases ht : p.Touches i j
    · have hmode : (poppedBanks cfg (some p) s.currentClockCycle (popBanks cfg s) i j).mode =
          (popBanks cfg s i j).mode.command cfg p.busPacketType p.row :=
        poppedBanks_mode_of_touches hj ht
      have hrow := congrArg BankMode.openRowAddress hmode
      have hstate := congrArg BankMode.currentBankState hmode
      simp only [BankState.mode] at hrow hstate
      rw [hrow, BankMode.command_openRowAddress]
      rw [hstate] at hactive
      have hadm' := admits_touches hadm ht hj
      rcases BankMode.command_rowActive hadm' hactive with hact | ⟨hpre', hrefresh, hpop⟩
      · -- the bank was opened by this very ACTIVATE
        obtain ⟨rfl, hb⟩ := ht
        have hb : p.bank = j := hb.resolve_right (by rw [hact]; decide)
        rw [if_pos hact, hout, hsome]
        exact ⟨log ++ pre, s.currentClockCycle, p, post, by simp, hact, rfl, hb, rfl, hpost'⟩
      · -- a column command to the open row
        have hnot : p.busPacketType ≠ .ACTIVATE := fun hact => by
          rw [hact] at hadm'
          simp only [BankMode.Admits, BankState.mode] at hadm' hpop
          rw [hadm'] at hpop
          cases hpop
        rw [if_neg hnot]
        refine hkept hpop fun p' hp' hcloses => ?_
        obtain rfl := hissue p' hp'
        obtain ⟨-, ⟨-, hact | hpre⟩ | hrefresh'⟩ := hcloses
        · exact hnot hact
        · exact hpre' hpre
        · exact hrefresh hrefresh'
    · -- the command does not touch the bank
      have hmode : (poppedBanks cfg (some p) s.currentClockCycle (popBanks cfg s) i j).mode =
          (popBanks cfg s i j).mode :=
        poppedBanks_mode_of_not_touches ht
      have hrow := congrArg BankMode.openRowAddress hmode
      have hstate := congrArg BankMode.currentBankState hmode
      simp only [BankState.mode] at hrow hstate
      rw [hrow]
      rw [hstate] at hactive
      refine hkept hactive fun p' hp' hcloses => ?_
      obtain rfl := hissue p' hp'
      exact ht (Effect.touches_of_closes hcloses)

/-! ## Every run -/

theorem banksSettled_init : BanksSettled cfg (State.init cfg) where
  settled _ _ _ _ := ⟨fun _ => rfl, fun hpos => absurd hpos (Nat.lt_irrefl 0)⟩
  powerDown_iff _ _ := ⟨fun h => (nomatch h), fun h => (nomatch h 0 cfg.numBanks_pos)⟩
  nextPowerUp_eq _ _ h := by cases h

/-- The invariant reads only the bank table and the power-down flags. -/
theorem BanksSettled.of_eq {s s' : State} (h : BanksSettled cfg s)
    (hbanks : s'.bankStates = s.bankStates) (hpower : s'.powerDown = s.powerDown) :
    BanksSettled cfg s' := by
  obtain ⟨hsettled, hiff, hnext⟩ := h
  exact ⟨hbanks ▸ hsettled, hbanks ▸ hpower ▸ hiff, hbanks ▸ hpower ▸ hnext⟩

/-- Along every run whose command queue pops only admitted commands, the bank table is
settled and every open row is certified by the history. -/
theorem banksSettled_of_run {s : State} {log : List Effect} (hrun : Run cfg (admitted cfg) s log) :
    BanksSettled cfg s ∧ ∀ i < cfg.NUM_RANKS, ∀ j < cfg.NUM_BANKS,
      (s.bankStates i j).currentBankState = .RowActive →
        RowOpened log i j (s.bankStates i j).openRowAddress := by
  refine hrun.invariant (fun s log => BanksSettled cfg s ∧ ∀ i < cfg.NUM_RANKS,
    ∀ j < cfg.NUM_BANKS, (s.bankStates i j).currentBankState = .RowActive →
      RowOpened log i j (s.bankStates i j).openRowAddress)
    ⟨banksSettled_init, fun _ _ _ _ h => nomatch h⟩ ?_
  intro s log e s' out ⟨hsettled, hrows⟩ hallowed hexec
  by_cases he : ∃ input, e = .update input
  · obtain ⟨input, rfl⟩ := he
    obtain ⟨r, hu, rfl, rfl⟩ := exec_update_eq_ok hexec
    have hadmits : ∀ p, input.popped = some p → admits cfg (popBanks cfg s) p = true :=
      fun p hp => by simpa [admitted, popsOnly, hp] using hallowed
    exact ⟨(banksSettled_update hsettled hadmits hu).of_eq rfl rfl,
      fun i hi j hj hactive => rowOpened_update hsettled hrows hadmits hu hi hj hactive⟩
  · obtain ⟨⟨_, _, _, _, _, _, _, _, _, rfl⟩, hout⟩ :=
      exec_eq_ok_of_ne_update (fun input he' => he ⟨input, he'⟩) hexec
    refine ⟨hsettled.of_eq rfl rfl, fun i hi j hj hactive =>
      (hrows i hi j hj hactive).append ?_⟩
    intro x hx hcloses
    rcases hout x hx with ⟨_, rfl⟩ | ⟨_, rfl⟩ | ⟨_, rfl⟩ <;> exact hcloses

variable (cfg) in
/-- The bank table is consistent with the history: an open row is the row of the bank's
last ACTIVATE with nothing closing it since, a quiet bank has no transition pending, and a
rank is powered down exactly when all its banks are, with one `nextPowerUp`. -/
structure BankStatesConsistent (s : State) (log : List Effect) : Prop where
  rowOpened : ∀ i < cfg.NUM_RANKS, ∀ j < cfg.NUM_BANKS,
    (s.bankStates i j).currentBankState = .RowActive →
      RowOpened log i j (s.bankStates i j).openRowAddress
  quiet : ∀ i < cfg.NUM_RANKS, ∀ j < cfg.NUM_BANKS,
    (s.bankStates i j).currentBankState = .Idle ∨
      (s.bankStates i j).currentBankState = .PowerDown →
    (s.bankStates i j).stateChangeCountdown = 0
  powerDown_iff : ∀ i < cfg.NUM_RANKS, s.powerDown i = true ↔
    ∀ j < cfg.NUM_BANKS, (s.bankStates i j).currentBankState = .PowerDown
  nextPowerUp_eq : ∀ i < cfg.NUM_RANKS, s.powerDown i = true →
    ∀ j < cfg.NUM_BANKS, (s.bankStates i j).nextPowerUp = (s.bankStates i 0).nextPowerUp

/-- Every run whose command queue pops only what the banks admit keeps the bank table
consistent with its history. -/
theorem bank_states_consistent {s : State} {log : List Effect}
    (hrun : Run cfg (admitted cfg) s log) : BankStatesConsistent cfg s log :=
  have h := banksSettled_of_run hrun
  { rowOpened := h.2
    quiet := fun i hi j hj => (h.1.settled i hi j hj).quiet
    powerDown_iff := h.1.powerDown_iff
    nextPowerUp_eq := h.1.nextPowerUp_eq }

set_option maxRecDepth 100000 in
/-- Bank 0 of rank 0 is activated at cycle 0; at cycle 1 every rank's queue is empty, and rank
1, all Idle, powers down while rank 0 keeps its open row. -/
theorem bank_states_consistent_sample :
    ∃ s log, Run Config.sample (admitted Config.sample) s log ∧
      (s.bankStates 0 0).currentBankState = .RowActive ∧ s.powerDown 0 = false ∧
      s.powerDown 1 = true ∧ BankStatesConsistent Config.sample s log := by
  obtain ⟨s, log, hrun, hobserved⟩ := @exists_run_of_runEvents Config.sample
    (admitted Config.sample)
    [.update ⟨some ⟨.ACTIVATE, 0, 0, 0, 0, 0⟩, fun _ _ => false, fun _ => false⟩,
      .update ⟨none, fun _ _ => false, fun _ => true⟩]
    (fun s _ => decide ((s.bankStates 0 0).currentBankState = .RowActive ∧
      s.powerDown 0 = false ∧ s.powerDown 1 = true))
    (by decide) (by decide)
  obtain ⟨hactive, hup, hdown⟩ := of_decide_eq_true hobserved
  exact ⟨s, log, hrun, hactive, hup, hdown, bank_states_consistent hrun⟩

/-! ## Transient states with no countdown left -/

variable (cfg) in
/-- Bank `(i, j)` is Precharging or Refreshing with its countdown already at 0. -/
def BankStuck (s : State) (i j : Nat) : Prop :=
  i < cfg.NUM_RANKS ∧ j < cfg.NUM_BANKS ∧
    ((s.bankStates i j).currentBankState = .Precharging ∨
      (s.bankStates i j).currentBankState = .Refreshing) ∧
    (s.bankStates i j).stateChangeCountdown = 0

instance (s : State) (i j : Nat) : Decidable (BankStuck cfg s i j) :=
  inferInstanceAs (Decidable (_ ∧ _ ∧ (_ ∨ _) ∧ _))

/-- A stuck bank stays stuck through every event the command queue's contract allows: the
countdown only runs while positive, no command is admitted to the bank, and its rank can
neither power down nor up. -/
theorem bankStuck_exec {s s' : State} {log out : List Effect} {e : Event} {i j : Nat}
    (hsettled : BanksSettled cfg s) (hallowed : admitted cfg s log e = true)
    (hexec : exec cfg e s = .ok (s', out)) (h : BankStuck cfg s i j) : BankStuck cfg s' i j := by
  obtain ⟨hi, hj, hstate, hzero⟩ := h
  by_cases he : ∃ input, e = .update input
  · obtain ⟨input, rfl⟩ := he
    obtain ⟨r, hu, rfl, -⟩ := exec_update_eq_ok hexec
    have hadmits : ∀ p, input.popped = some p → admits cfg (popBanks cfg s) p = true :=
      fun p hp => by simpa [admitted, popsOnly, hp] using hallowed
    obtain ⟨t, -, -, htb, htp, -, hrb, -, -⟩ := update_anatomy hu
    have hpop : popBanks cfg s i j = s.bankStates i j := by
      rw [popBanks_apply hi hj, BankState.countdown_of_quiet hzero]
    -- no admitted command targets a bank in a transient state
    have hmode : (t.bankStates i j).mode = (s.bankStates i j).mode := by
      rw [htb, ← hpop]
      rcases Option.eq_none_or_eq_some input.popped with hnone | ⟨p, hsome⟩
      · rw [hnone]
        rfl
      · rw [hsome]
        refine poppedBanks_mode_of_not_touches fun ht => ?_
        have hadm := admits_touches (hadmits p hsome) ht hj
        rw [hpop] at hadm
        cases hty : p.busPacketType <;> simp only [hty, BankMode.Admits, BankState.mode] at hadm <;>
          rcases hstate with hs | hs <;> simp [hs] at hadm
    have hstate' : (t.bankStates i j).currentBankState = (s.bankStates i j).currentBankState :=
      congrArg BankMode.currentBankState hmode
    have hswitch : powerSwitch cfg (input.isEmpty i) t i = none := by
      rcases hsw : powerSwitch cfg (input.isEmpty i) t i with _ | _ | _
      · rfl
      · have := powerSwitch_eq_down hsw j hj
        rw [hstate'] at this
        rcases hstate with hs | hs <;> simp [hs] at this
      · have := (hsettled.powerDown_iff i hi).mp (htp ▸ powerSwitch_eq_up hsw) j hj
        rcases hstate with hs | hs <;> simp [hs] at this
    have hbank : r.1.bankStates i j = t.bankStates i j := by
      rw [hrb, lowPower_bankStates hi hj, hswitch]
      rfl
    refine ⟨hi, hj, ?_, ?_⟩
    · show (r.1.bankStates i j).currentBankState = _ ∨ (r.1.bankStates i j).currentBankState = _
      rw [hbank, hstate']
      exact hstate
    · show (r.1.bankStates i j).stateChangeCountdown = 0
      rw [hbank]
      exact (congrArg BankMode.stateChangeCountdown hmode).trans hzero
  · obtain ⟨⟨_, _, _, _, _, _, _, _, _, rfl⟩, -⟩ :=
      exec_eq_ok_of_ne_update (fun input he' => he ⟨input, he'⟩) hexec
    exact ⟨hi, hj, hstate, hzero⟩

/-- Once a bank of a run is stuck, it is stuck after every continuation the command queue's
contract allows. -/
theorem bankStuck_forever {i j : Nat} :
    ∀ {es : List Event} {s : State} {log : List Effect} {s' : State} {log' : List Effect},
      Run cfg (admitted cfg) s log → BankStuck cfg s i j →
        allowedAlong cfg (admitted cfg) es s log = true →
        runEvents cfg es s log = .ok (s', log') → BankStuck cfg s' i j
  | [], _, _, _, _, _, hstuck, _, hevents => by
      simp only [runEvents, Except.ok.injEq, Prod.mk.injEq] at hevents
      obtain ⟨rfl, rfl⟩ := hevents
      exact hstuck
  | e :: es, s, log, _, _, hrun, hstuck, hallowed, hevents => by
      simp only [allowedAlong, Bool.and_eq_true] at hallowed
      simp only [runEvents] at hevents
      cases hexec : exec cfg e s with
      | error a => simp [hexec] at hevents
      | ok r =>
          rw [hexec] at hevents hallowed
          exact bankStuck_forever (.step hrun hallowed.1 hexec)
            (bankStuck_exec (banksSettled_of_run hrun).1 hallowed.1 hexec hstuck)
            hallowed.2 hevents

set_option maxRecDepth 100000 in
/-- With `tRFC = 0` a REFRESH leaves the rank's banks Refreshing with no countdown, and they
stay so whatever the command queue does. -/
theorem refresh_never_ends_of_zero_tRFC :
    ∃ s log, Run { Config.sample with tRFC := 0 } (admitted { Config.sample with tRFC := 0 })
      s log ∧ ∀ es s' log',
        allowedAlong { Config.sample with tRFC := 0 } (admitted { Config.sample with tRFC := 0 })
          es s log = true →
        runEvents { Config.sample with tRFC := 0 } es s log = .ok (s', log') →
        BankStuck { Config.sample with tRFC := 0 } s' 0 0 := by
  obtain ⟨s, log, hrun, hstuck⟩ := @exists_run_of_runEvents { Config.sample with tRFC := 0 }
    (admitted { Config.sample with tRFC := 0 })
    [.update ⟨some ⟨.REFRESH, 0, 0, 0, 0, 0⟩, fun _ _ => false, fun _ => false⟩]
    (fun s _ => decide (BankStuck { Config.sample with tRFC := 0 } s 0 0)) (by decide) (by decide)
  exact ⟨s, log, hrun, fun _ _ _ hallowed hevents =>
    bankStuck_forever hrun (of_decide_eq_true hstuck) hallowed hevents⟩

end DramSim
