import DramSim.Banks
import DramSim.Refresh

/-! # The guard table in conventional mode

Every command `update()` issues writes the cycles before which the command queue may not
issue the next commands to a bank: `nextActivate`, `nextRead`, `nextWrite` and
`nextPrecharge`. In conventional mode these guards, together with the precharge and refresh
countdowns of the banks, keep the bank-level DRAM timing over the whole issued sequence: a
column command comes `tRCD − AL` after the ACTIVATE of its bank and a PRECHARGE `tRAS` after
it, and an ACTIVATE comes `tRP` after a precharge of its bank began and `tRFC` after a
refresh of its rank. Two ACTIVATEs of a bank are `tRC` apart except across a power-up:
waking a rank sets `nextActivate` to the power-up cycle plus `tXP`, which drops a pending
`tRC` bound. Under SMART a PRECHARGE sets its bank's `nextActivate` to the current cycle, so the
guards stop keeping even the `tRRD` spacing of ACTIVATEs within a rank.
-/

namespace DramSim

/-! ## The timing of an issued command sequence -/

/-- Whether a packet is a column command: READ, READ_P, WRITE or WRITE_P. -/
def BusPacket.isColumn (p : BusPacket) : Bool :=
  p.busPacketType = .READ || p.busPacketType = .READ_P || p.busPacketType = .WRITE ||
    p.busPacketType = .WRITE_P

variable (cfg : Config)

/-- The cycle from which an effect lets bank `(i, j)` be activated again: `tRP` after a
PRECHARGE issued to it or the start of its auto-precharge, `tRFC` after a REFRESH of its
rank. -/
def Effect.readyAt (i j : Nat) : Effect → Option Nat
  | .issue c p =>
      if p.rank = i ∧ p.bank = j ∧ p.busPacketType = .PRECHARGE then some (c + cfg.tRP.toNat)
      else if p.rank = i ∧ p.busPacketType = .REFRESH then some (c + cfg.tRFC.toNat)
      else none
  | .autoPrecharge c i' j' => if i' = i ∧ j' = j then some (c + cfg.tRP.toNat) else none
  | _ => none

/-- The bank-level DRAM timing of an issued command sequence, for two commands issued in
this order: a column command comes `tRCD − AL` after an ACTIVATE of its bank and a PRECHARGE
`tRAS` after it; two ACTIVATEs of a bank are `tRC` apart when the rank did not power up
between them; an ACTIVATE comes `tRP` after a PRECHARGE of its bank or the start of its
auto-precharge, and `tRFC` after a REFRESH of its rank. -/
structure BankTiming (log : List Effect) : Prop where
  activate_to_column : ∀ c₁ c₂ p₁ p₂,
    [Effect.issue c₁ p₁, .issue c₂ p₂].Sublist log →
    p₁.busPacketType = .ACTIVATE → p₂.isColumn = true → p₂.rank = p₁.rank →
    p₂.bank = p₁.bank → c₁ + (cfg.tRCD - cfg.AL).toNat ≤ c₂
  activate_to_precharge : ∀ c₁ c₂ p₁ p₂,
    [Effect.issue c₁ p₁, .issue c₂ p₂].Sublist log →
    p₁.busPacketType = .ACTIVATE → p₂.busPacketType = .PRECHARGE → p₂.rank = p₁.rank →
    p₂.bank = p₁.bank → c₁ + cfg.tRAS.toNat ≤ c₂
  activate_to_activate : ∀ c₁ c₂ p₁ p₂,
    [Effect.issue c₁ p₁, .issue c₂ p₂].Sublist log →
    p₁.busPacketType = .ACTIVATE → p₂.busPacketType = .ACTIVATE → p₂.rank = p₁.rank →
    p₂.bank = p₁.bank →
    (∀ c, ¬ [Effect.issue c₁ p₁, .powerUp c p₁.rank, .issue c₂ p₂].Sublist log) →
    c₁ + cfg.tRC.toNat ≤ c₂
  precharge_to_activate : ∀ c₁ c₂ p₁ p₂,
    [Effect.issue c₁ p₁, .issue c₂ p₂].Sublist log →
    p₁.busPacketType = .PRECHARGE → p₂.busPacketType = .ACTIVATE → p₂.rank = p₁.rank →
    p₂.bank = p₁.bank → c₁ + cfg.tRP.toNat ≤ c₂
  autoPrecharge_to_activate : ∀ c₁ c₂ p,
    [Effect.autoPrecharge c₁ p.rank p.bank, .issue c₂ p].Sublist log →
    p.busPacketType = .ACTIVATE → c₁ + cfg.tRP.toNat ≤ c₂
  refresh_to_activate : ∀ c₁ c₂ p₁ p₂,
    [Effect.issue c₁ p₁, .issue c₂ p₂].Sublist log →
    p₁.busPacketType = .REFRESH → p₂.busPacketType = .ACTIVATE → p₂.rank = p₁.rank →
    c₁ + cfg.tRFC.toNat ≤ c₂

variable {cfg}

/-! ## Guards only move later -/

/-- The guards of `b'` hold the bank no shorter than those of `b`. A column guard may drop,
but only to a cycle both column guards of `b` had reached. -/
structure BankState.GuardsKept (b b' : BankState) : Prop where
  activate : b.nextActivate ≤ b'.nextActivate
  precharge : b.nextPrecharge ≤ b'.nextPrecharge
  column : ∀ x, x ≤ b.nextRead → x ≤ b.nextWrite →
    x ≤ b'.nextRead ∧ x ≤ b'.nextWrite

namespace BankState.GuardsKept

variable {b b' b'' : BankState}

theorem refl (b : BankState) : GuardsKept b b := ⟨le_rfl, le_rfl, fun _ h h' => ⟨h, h'⟩⟩

theorem trans (h : GuardsKept b b') (h' : GuardsKept b' b'') : GuardsKept b b'' :=
  ⟨h.activate.trans h'.activate, h.precharge.trans h'.precharge,
    fun x hr hw => h'.column x (h.column x hr hw).1 (h.column x hr hw).2⟩

theorem of_le (ha : b.nextActivate ≤ b'.nextActivate) (hp : b.nextPrecharge ≤ b'.nextPrecharge)
    (hr : b.nextRead ≤ b'.nextRead) (hw : b.nextWrite ≤ b'.nextWrite) : GuardsKept b b' :=
  ⟨ha, hp, fun _ h h' => ⟨h.trans hr, h'.trans hw⟩⟩

end BankState.GuardsKept

section Kept

variable {p : BusPacket} {c rank i j : Nat} {b : BankState} {banks : Nat → Nat → BankState}

theorem readGuards_kept : b.GuardsKept (readGuards cfg c rank i b) := by
  unfold readGuards
  split_ifs <;>
    first | exact .refl _ | exact .of_le le_rfl le_rfl (le_max_right _ _) (le_max_right _ _)

theorem writeGuards_kept : b.GuardsKept (writeGuards cfg c rank i b) := by
  unfold writeGuards
  split_ifs <;>
    first | exact .refl _ | exact .of_le le_rfl le_rfl (le_max_right _ _) (le_max_right _ _)

/-- A READ_P gives its own bank column guards at its `nextActivate`, which is past the cycle
of the READ_P and so past the bank's `nextRead`. -/
theorem readBanks_kept (hdue : (banks p.rank p.bank).nextRead ≤ c) :
    (banks i j).GuardsKept (readBanks cfg p c banks i j) := by
  by_cases hown : i = p.rank ∧ j = p.bank
  · obtain ⟨rfl, rfl⟩ := hown
    simp only [readBanks, setBank_apply, forEachBank_apply, and_self, if_true, ite_apply,
      readGuards, ne_eq, not_true_eq_false, if_false]
    split_ifs <;> refine ⟨?_, ?_, fun x hr hw => ?_⟩ <;> dsimp only <;> omega
  · simp only [readBanks, setBank_apply, forEachBank_apply, hown, if_false, ite_apply]
    split_ifs <;> first | exact .refl _ | exact readGuards_kept

theorem writeBanks_kept (hdue : (banks p.rank p.bank).nextWrite ≤ c) :
    (banks i j).GuardsKept (writeBanks cfg p c banks i j) := by
  by_cases hown : i = p.rank ∧ j = p.bank
  · obtain ⟨rfl, rfl⟩ := hown
    simp only [writeBanks, setBank_apply, forEachBank_apply, and_self, if_true, ite_apply,
      writeGuards, ne_eq, not_true_eq_false, if_false]
    split_ifs <;> refine ⟨?_, ?_, fun x hr hw => ?_⟩ <;> dsimp only <;> omega
  · simp only [writeBanks, setBank_apply, forEachBank_apply, hown, if_false, ite_apply]
    split_ifs <;> first | exact .refl _ | exact writeGuards_kept

variable (hsmart : cfg.isSmartMRAM = false)
include hsmart

theorem activateBanks_kept : (banks i j).GuardsKept (activateBanks cfg p c banks i j) := by
  simp only [activateBanks, setBank_apply, activateGuards, hsmart, Bool.false_eq_true, if_false]
  split_ifs <;> refine ⟨?_, ?_, fun x hr hw => ?_⟩ <;> dsimp only <;> omega

/-- An ACTIVATE holds its bank for `tRC`, its column commands for `tRCD − AL` and its
PRECHARGE for `tRAS`. -/
theorem activateBanks_own :
    c + cfg.tRC.toNat ≤ (activateBanks cfg p c banks p.rank p.bank).nextActivate ∧
      c + (cfg.tRCD - cfg.AL).toNat ≤ (activateBanks cfg p c banks p.rank p.bank).nextRead ∧
      c + (cfg.tRCD - cfg.AL).toNat ≤ (activateBanks cfg p c banks p.rank p.bank).nextWrite ∧
      c + cfg.tRAS.toNat ≤ (activateBanks cfg p c banks p.rank p.bank).nextPrecharge := by
  simp only [activateBanks, setBank_apply, and_self, if_true, ne_eq, not_true_eq_false,
    and_false, if_false, activateGuards, hsmart, Bool.false_eq_true]
  omega

theorem prechargeBanks_kept : (banks i j).GuardsKept (prechargeBanks cfg p c banks i j) := by
  simp only [prechargeBanks, setBank_apply, hsmart, Bool.false_eq_true, if_false]
  split_ifs <;> refine ⟨?_, ?_, fun x hr hw => ?_⟩ <;> dsimp only <;> omega

omit hsmart in
theorem refreshBanks_kept (hdue : ∀ j < cfg.NUM_BANKS, (banks p.rank j).nextActivate ≤ c) :
    (banks i j).GuardsKept (refreshBanks cfg p c banks i j) := by
  simp only [refreshBanks]
  split_ifs with h
  · obtain ⟨rfl, hj⟩ := h
    exact .of_le (by have := hdue j hj; dsimp only; omega) le_rfl le_rfl le_rfl
  · exact .refl _

/-- A command issued no earlier than its guards moves no guard of any bank earlier. -/
theorem poppedBanks_kept {popped : Option BusPacket}
    (hdue : ∀ p, popped = some p → due cfg banks c p = true) :
    (banks i j).GuardsKept (poppedBanks cfg popped c banks i j) := by
  rcases popped with _ | p
  · exact .refl _
  have hdue := hdue p rfl
  cases hty : p.busPacketType <;> simp only [due, hty, decide_eq_true_eq, List.all_eq_true,
    List.mem_range] at hdue <;> simp only [poppedBanks, hty]
  · exact readBanks_kept hdue
  · exact readBanks_kept hdue
  · exact writeBanks_kept hdue
  · exact writeBanks_kept hdue
  · exact activateBanks_kept hsmart
  · exact prechargeBanks_kept hsmart
  · exact refreshBanks_kept hdue
  · exact .refl _

end Kept

set_option maxRecDepth 100000 in
/-- Under SMART a PRECHARGE sets its bank's `nextActivate` to the current cycle, which can
drop the tRRD bound an ACTIVATE of another bank left there. Bank 1 of rank 0 is activated at
cycle 0. The ACTIVATE of bank 0 at cycle 4 holds bank 1 until cycle 8, but the PRECHARGE of
bank 1 at cycle 5 sets its `nextActivate` back to 5, and bank 1 is activated again at
cycle 6, two cycles after the ACTIVATE of bank 0. -/
theorem smart_activates_closer_than_tRRD :
    6 - 4 < { Config.sample with isSmartMRAM := true }.tRRD.toNat ∧
    ∃ s log, Run { Config.sample with isSmartMRAM := true }
        (admittedDue { Config.sample with isSmartMRAM := true }) s log ∧
      Effect.issue 4 ⟨.ACTIVATE, 0, 0, 0, 0, 0⟩ ∈ log ∧
      Effect.issue 6 ⟨.ACTIVATE, 1024, 0, 0, 0, 1⟩ ∈ log := by
  refine ⟨by decide, ?_⟩
  obtain ⟨s, log, hrun, hobserved⟩ := @exists_run_of_runEvents
    { Config.sample with isSmartMRAM := true }
    (admittedDue { Config.sample with isSmartMRAM := true })
    [.update ⟨some ⟨.ACTIVATE, 1024, 0, 0, 0, 1⟩, fun _ _ => false, fun _ => false⟩,
      .update ⟨none, fun _ _ => false, fun _ => false⟩,
      .update ⟨none, fun _ _ => false, fun _ => false⟩,
      .update ⟨none, fun _ _ => false, fun _ => false⟩,
      .update ⟨some ⟨.ACTIVATE, 0, 0, 0, 0, 0⟩, fun _ _ => false, fun _ => false⟩,
      .update ⟨some ⟨.PRECHARGE, 1024, 0, 0, 0, 1⟩, fun _ _ => false, fun _ => false⟩,
      .update ⟨some ⟨.ACTIVATE, 1024, 0, 0, 0, 1⟩, fun _ _ => false, fun _ => false⟩]
    (fun _ log => decide (Effect.issue 4 ⟨.ACTIVATE, 0, 0, 0, 0, 0⟩ ∈ log) &&
      decide (Effect.issue 6 ⟨.ACTIVATE, 1024, 0, 0, 0, 1⟩ ∈ log))
    (by decide) (by decide)
  simp only [Bool.and_eq_true, decide_eq_true_eq] at hobserved
  exact ⟨s, log, hrun, hobserved⟩

theorem BankState.countdown_kept {b : BankState} {isSmartMRAM : Bool} {tRP : UInt32} :
    b.GuardsKept (b.countdown isSmartMRAM tRP) := by
  rcases @BankState.countdown_cases isSmartMRAM tRP b with
    ⟨-, h⟩ | ⟨-, h⟩ | ⟨-, -, h⟩ | ⟨-, -, h⟩ | ⟨-, -, -, -, h⟩ <;> rw [h] <;>
    (try split) <;> exact .of_le le_rfl le_rfl le_rfl le_rfl

theorem popBanks_kept {s : State} {i j : Nat} :
    (s.bankStates i j).GuardsKept (popBanks cfg s i j) := by
  simp only [popBanks, forEachBank_apply]
  split_ifs
  exacts [BankState.countdown_kept, .refl _]

section SwitchPower

variable {b : BankState} {c : Nat} {sw : Option PowerSwitch}

@[simp] theorem BankState.switchPower_nextRead :
    (b.switchPower cfg c sw).nextRead = b.nextRead := by
  rcases sw with _ | _ | _ <;> rfl

@[simp] theorem BankState.switchPower_nextWrite :
    (b.switchPower cfg c sw).nextWrite = b.nextWrite := by
  rcases sw with _ | _ | _ <;> rfl

@[simp] theorem BankState.switchPower_nextPrecharge :
    (b.switchPower cfg c sw).nextPrecharge = b.nextPrecharge := by
  rcases sw with _ | _ | _ <;> rfl

/-- Only waking a rank moves `nextActivate`. -/
theorem BankState.switchPower_nextActivate (h : sw ≠ some .up) :
    (b.switchPower cfg c sw).nextActivate = b.nextActivate := by
  rcases sw with _ | _ | _
  · rfl
  · rfl
  · exact absurd rfl h

end SwitchPower

/-! ## Precharges and refreshes run out -/

/-- The first pop, for a bank whose machine is `m` at the pop of update `c`, from which it
can be Idle: once its precharge or refresh countdown has run out, or `c` itself when it is in
neither. -/
def BankMode.readyAt (c : Nat) (m : BankMode) : Nat :=
  if m.currentBankState = .Precharging ∨ m.currentBankState = .Refreshing then
    c + m.stateChangeCountdown
  else c

section Ready

variable {c : Nat} {m : BankMode} {b : BankState}

theorem BankMode.le_readyAt : c ≤ m.readyAt c := by
  unfold BankMode.readyAt
  split_ifs <;> omega

theorem BankMode.readyAt_le : m.readyAt c ≤ c + m.stateChangeCountdown := by
  unfold BankMode.readyAt
  split_ifs <;> omega

theorem BankMode.readyAt_succ : m.readyAt (c + 1) = m.readyAt c + 1 := by
  unfold BankMode.readyAt
  split_ifs <;> omega

theorem BankMode.readyAt_of_quiet
    (h : m.currentBankState = .Idle ∨ m.currentBankState = .RowActive ∨
      m.currentBankState = .PowerDown) : m.readyAt c = c := by
  unfold BankMode.readyAt
  rcases h with h | h | h <;> simp [h]

/-- A bank that admits a command is in no precharge or refresh. -/
theorem BankMode.readyAt_of_admits {busPacketType : BusPacketType} {row : Nat}
    (h : m.Admits busPacketType row) : m.readyAt c = c := by
  refine BankMode.readyAt_of_quiet ?_
  cases busPacketType <;> simp only [BankMode.Admits] at h
  all_goals first | exact .inl h | exact .inr (.inl h) | exact .inr (.inl h.1)

/-- A countdown step brings the end of a precharge or refresh at most one cycle closer. -/
theorem BankState.readyAt_countdown {isSmartMRAM : Bool} {tRP : UInt32} :
    b.mode.readyAt c ≤ (b.countdown isSmartMRAM tRP).mode.readyAt c + 1 := by
  have hone : b.stateChangeCountdown = 1 → b.mode.readyAt c ≤ c + 1 := fun hk =>
    hk ▸ BankMode.readyAt_le
  rcases @BankState.countdown_cases isSmartMRAM tRP b with
    ⟨-, h⟩ | ⟨-, h⟩ | ⟨hk, -, h⟩ | ⟨hk, -, h⟩ | ⟨hk, -, -, -, h⟩ <;> rw [h]
  · exact Nat.le_succ _
  · simp only [BankState.mode, BankMode.readyAt]
    split_ifs <;> omega
  all_goals exact (hone hk).trans (Nat.succ_le_succ BankMode.le_readyAt)

/-- In conventional mode the end of an auto-precharge starts a precharge of `tRP`. -/
theorem BankState.readyAt_countdown_of_ends {tRP : UInt32} (h : b.endsAutoPrecharge = true) :
    (b.countdown false tRP).mode.readyAt c = c + tRP.toNat := by
  simp only [BankState.endsAutoPrecharge, Bool.and_eq_true, decide_eq_true_eq,
    Bool.or_eq_true] at h
  obtain ⟨hk, hlast⟩ := h
  unfold BankState.countdown
  rw [if_pos (by omega), if_pos (by omega)]
  rcases hlast with hlast | hlast <;> simp [hlast, BankState.mode, BankMode.readyAt]

/-- The low-power loop switches only quiet banks, and a bank it leaves alone keeps its
countdown. -/
theorem BankState.readyAt_switchPower {sw : Option PowerSwitch} {c' : Nat}
    (hdown : sw = some .down → b.currentBankState = .Idle)
    (hup : sw = some .up → b.currentBankState = .PowerDown) :
    b.mode.readyAt c + 1 ≤ (b.switchPower cfg c' sw).mode.readyAt (c + 1) := by
  rcases sw with _ | _ | _
  · exact BankMode.readyAt_succ.ge
  · rw [BankMode.readyAt_of_quiet (.inl (hdown rfl))]
    exact BankMode.le_readyAt
  · rw [BankMode.readyAt_of_quiet (.inr (.inr (hup rfl)))]
    exact BankMode.le_readyAt

variable {p : BusPacket} {i j : Nat} {banks : Nat → Nat → BankState}

/-- A command moves the end of no precharge or refresh earlier. -/
theorem poppedBanks_readyAt {popped : Option BusPacket}
    (hadm : ∀ p, popped = some p → admits cfg banks p = true) (hj : j < cfg.NUM_BANKS) :
    (banks i j).mode.readyAt c ≤ (poppedBanks cfg popped c banks i j).mode.readyAt c := by
  rcases popped with _ | p
  · exact le_rfl
  by_cases ht : p.Touches i j
  · rw [BankMode.readyAt_of_admits (admits_touches (hadm p rfl) ht hj)]
    exact BankMode.le_readyAt
  · rw [poppedBanks_mode_of_not_touches ht]

/-- A PRECHARGE or REFRESH issued at the pop of update `c` holds its banks until its
countdown has run out. -/
theorem poppedBanks_readyAt_issue (hsmart : cfg.isSmartMRAM = false) (hj : j < cfg.NUM_BANKS)
    {t : Nat} (h : (Effect.issue c p).readyAt cfg i j = some t) :
    t ≤ (poppedBanks cfg (some p) c banks i j).mode.readyAt c := by
  simp only [Effect.readyAt] at h
  split_ifs at h with hpre href <;> cases h
  · obtain ⟨hi, hb, hty⟩ := hpre
    rw [poppedBanks_mode_of_touches hj ⟨hi, .inl hb⟩, hty]
    simp [BankMode.command, hsmart, BankMode.readyAt]
  · obtain ⟨hi, hty⟩ := href
    rw [poppedBanks_mode_of_touches hj ⟨hi, .inr hty⟩, hty]
    simp [BankMode.command, BankMode.readyAt]

end Ready

/-! ## The effects of one cycle -/

/-- Whether an effect is a command issued to the ranks. -/
def Effect.isIssue : Effect → Bool
  | .issue .. => true
  | _ => false

theorem sublist_pair_append {α : Type} {a b : α} {l₁ l₂ : List α}
    (h : [a, b].Sublist (l₁ ++ l₂)) :
    [a, b].Sublist l₁ ∨ (a ∈ l₁ ∧ b ∈ l₂) ∨ [a, b].Sublist l₂ := by
  obtain ⟨m₁, m₂, hm, h₁, h₂⟩ := List.sublist_append_iff.mp h
  rcases m₁ with _ | ⟨x, _ | ⟨y, _ | ⟨z, m⟩⟩⟩
  · rw [List.nil_append] at hm
    exact .inr (.inr (hm ▸ h₂))
  · simp only [List.singleton_append, List.cons.injEq] at hm
    obtain ⟨rfl, rfl⟩ := hm
    exact .inr (.inl ⟨List.singleton_sublist.mp h₁, List.singleton_sublist.mp h₂⟩)
  · simp only [List.cons_append, List.nil_append, List.cons.injEq] at hm
    obtain ⟨rfl, rfl, rfl⟩ := hm
    exact .inl h₁
  · simp at hm

theorem sublist_pair_of_mem {α : Type} {a b : α} {l₁ l₂ : List α} (ha : a ∈ l₁)
    (hb : b ∈ l₂) :
    [a, b].Sublist (l₁ ++ l₂) :=
  (List.singleton_sublist.mpr ha).append (List.singleton_sublist.mpr hb)

section Cycle

variable {input : UpdateInput} {s : State} {r : State × List Effect}

/-- The commands `update()` issues are the popped one, at the current cycle, and nothing
else. -/
theorem update_filter_isIssue (hu : update cfg input s = .ok r) :
    r.2.filter Effect.isIssue = (input.popped.map (.issue s.currentClockCycle)).toList := by
  obtain ⟨t, pre, post, -, -, -, -, -, hout, hpre, hpost, -⟩ := update_anatomy hu
  have hpre' : pre.filter Effect.isIssue = [] := List.filter_eq_nil_iff.mpr fun e he => by
    rcases hpre e he with ⟨_, _, _, _, _, rfl⟩ | ⟨_, rfl⟩ | ⟨_, rfl⟩ | ⟨_, rfl⟩ <;>
      nofun
  have hpost' : post.filter Effect.isIssue = [] := List.filter_eq_nil_iff.mpr fun e he => by
    rcases hpost e he with he | ⟨_, rfl⟩ | ⟨_, rfl⟩ | ⟨_, rfl⟩
    · obtain ⟨_, _, ⟨_, rfl⟩ | ⟨_, rfl⟩⟩ := mem_lowPower_effects he <;> nofun
    all_goals nofun
  rw [hout, List.filter_append, List.filter_append, hpre', hpost']
  cases input.popped <;> rfl

/-- The only command `update()` issues is the popped one, at the current cycle. -/
theorem update_issue (hu : update cfg input s = .ok r) {c : Nat} {p : BusPacket}
    (he : Effect.issue c p ∈ r.2) : input.popped = some p ∧ c = s.currentClockCycle := by
  have hmem : Effect.issue c p ∈ r.2.filter Effect.isIssue := List.mem_filter.mpr ⟨he, rfl⟩
  rw [update_filter_isIssue hu] at hmem
  rcases hp : input.popped with _ | q <;> rw [hp] at hmem
  · cases hmem
  · obtain ⟨rfl, rfl⟩ := Effect.issue.inj (List.mem_singleton.mp hmem)
    exact ⟨rfl, rfl⟩

/-- `update()` issues at most one command. -/
theorem update_issue_pair (hu : update cfg input s = .ok r) {c₁ c₂ : Nat}
    {p₁ p₂ : BusPacket} (h : [Effect.issue c₁ p₁, .issue c₂ p₂].Sublist r.2) :
    False := by
  have hlen := (h.filter Effect.isIssue).length_le
  rw [update_filter_isIssue hu] at hlen
  cases hp : input.popped <;> simp [hp, Effect.isIssue] at hlen

/-- An auto-precharge of `update()` ends the countdown of a bank that exists. -/
theorem update_autoPrecharge (hu : update cfg input s = .ok r) {c i j : Nat}
    (he : Effect.autoPrecharge c i j ∈ r.2) :
    c = s.currentClockCycle ∧ i < cfg.NUM_RANKS ∧ j < cfg.NUM_BANKS ∧
      (s.bankStates i j).endsAutoPrecharge = true := by
  obtain ⟨t, pre, post, -, -, -, -, -, hout, hpre, hpost, -⟩ := update_anatomy hu
  rw [hout] at he
  simp only [List.mem_append] at he
  rcases he with (he | he) | he
  · rcases hpre _ he with ⟨i', j', hi, hj, hends, h⟩ | ⟨_, h⟩ | ⟨_, h⟩ | ⟨_, h⟩ <;>
      cases h
    exact ⟨rfl, hi, hj, hends⟩
  · cases hp : input.popped <;> simp [hp] at he
  · rcases hpost _ he with he | ⟨_, h⟩ | ⟨_, h⟩ | ⟨_, h⟩
    · obtain ⟨_, _, ⟨_, h⟩ | ⟨_, h⟩⟩ := mem_lowPower_effects he <;> cases h
    all_goals cases h

end Cycle

theorem mem_lowPower_powerUp {isEmpty : Nat → Bool} {t : State} {i : Nat}
    (hi : i < cfg.NUM_RANKS) (hsw : powerSwitch cfg (isEmpty i) t i = some .up) :
    Effect.powerUp t.currentClockCycle i ∈ (lowPower cfg isEmpty t).2 := by
  simp only [lowPower, List.mem_filterMap, List.mem_range]
  exact ⟨i, hi, by simp [hi, hsw]⟩

theorem Effect.readyAt_precharge {c : Nat} {p : BusPacket} (h : p.busPacketType = .PRECHARGE) :
    (Effect.issue c p).readyAt cfg p.rank p.bank = some (c + cfg.tRP.toNat) := by
  simp [Effect.readyAt, h]

theorem Effect.readyAt_refresh {c j : Nat} {p : BusPacket} (h : p.busPacketType = .REFRESH) :
    (Effect.issue c p).readyAt cfg p.rank j = some (c + cfg.tRFC.toNat) := by
  simp [Effect.readyAt, h]

theorem Effect.readyAt_autoPrecharge {c i j : Nat} :
    (Effect.autoPrecharge c i j).readyAt cfg i j = some (c + cfg.tRP.toNat) := by
  simp [Effect.readyAt]

/-! ## What the bank table remembers -/

variable (cfg) in
/-- What the bank table remembers of the issued commands, bank by bank: every ACTIVATE still
holds the column commands of its bank for `tRCD − AL` and its PRECHARGE for `tRAS`, and,
unless its rank has powered up since, the next ACTIVATE for `tRC`; and every precharge or
refresh holds the next ACTIVATE until its countdown has run out. -/
structure GuardLedger (s : State) (log : List Effect) : Prop where
  column : ∀ c₁ p, Effect.issue c₁ p ∈ log → p.busPacketType = .ACTIVATE →
    p.rank < cfg.NUM_RANKS → p.bank < cfg.NUM_BANKS →
    c₁ + (cfg.tRCD - cfg.AL).toNat ≤ (s.bankStates p.rank p.bank).nextRead ∧
      c₁ + (cfg.tRCD - cfg.AL).toNat ≤ (s.bankStates p.rank p.bank).nextWrite
  precharge : ∀ c₁ p, Effect.issue c₁ p ∈ log → p.busPacketType = .ACTIVATE →
    p.rank < cfg.NUM_RANKS → p.bank < cfg.NUM_BANKS →
    c₁ + cfg.tRAS.toNat ≤ (s.bankStates p.rank p.bank).nextPrecharge
  activate : ∀ c₁ p, Effect.issue c₁ p ∈ log → p.busPacketType = .ACTIVATE →
    p.rank < cfg.NUM_RANKS → p.bank < cfg.NUM_BANKS →
    (∀ c, ¬ [Effect.issue c₁ p, .powerUp c p.rank].Sublist log) →
    c₁ + cfg.tRC.toNat ≤ (s.bankStates p.rank p.bank).nextActivate
  ready : ∀ i < cfg.NUM_RANKS, ∀ j < cfg.NUM_BANKS, ∀ e ∈ log, ∀ t,
    e.readyAt cfg i j = some t → t + 1 ≤ (s.bankStates i j).mode.readyAt s.currentClockCycle

section Pop

variable {s : State} {log : List Effect} {p p₁ : BusPacket} {c₁ : Nat}
  (h : GuardLedger cfg s log) (hadm : admits cfg (popBanks cfg s) p = true)
  (hdue : due cfg (popBanks cfg s) s.currentClockCycle p = true)
include h hadm hdue

/-- The command popped at cycle `c` comes `tRCD − AL` after every ACTIVATE of its bank, if it
is a column command. -/
theorem GuardLedger.column_due (he : Effect.issue c₁ p₁ ∈ log)
    (hact : p₁.busPacketType = .ACTIVATE) (hcol : p.isColumn = true) (hrank : p.rank = p₁.rank)
    (hbank : p.bank = p₁.bank) : c₁ + (cfg.tRCD - cfg.AL).toNat ≤ s.currentClockCycle := by
  obtain ⟨hi, hj⟩ := admits_bounds hadm
  rw [hrank] at hi
  rw [hbank] at hj
  obtain ⟨hr, hw⟩ := h.column c₁ p₁ he hact hi hj
  obtain ⟨hr, hw⟩ := (@popBanks_kept cfg s p₁.rank p₁.bank).column _ hr hw
  rw [← hrank, ← hbank] at hr hw
  simp only [BusPacket.isColumn, Bool.or_eq_true, decide_eq_true_eq] at hcol
  rcases hcol with ((hty | hty) | hty) | hty <;>
    simp only [due, hty, decide_eq_true_eq] at hdue <;> omega

theorem GuardLedger.precharge_due (he : Effect.issue c₁ p₁ ∈ log)
    (hact : p₁.busPacketType = .ACTIVATE) (hpre : p.busPacketType = .PRECHARGE)
    (hrank : p.rank = p₁.rank) (hbank : p.bank = p₁.bank) :
    c₁ + cfg.tRAS.toNat ≤ s.currentClockCycle := by
  obtain ⟨hi, hj⟩ := admits_bounds hadm
  rw [hrank] at hi
  rw [hbank] at hj
  have hp := (h.precharge c₁ p₁ he hact hi hj).trans (@popBanks_kept cfg s _ _).precharge
  rw [← hrank, ← hbank] at hp
  simp only [due, hpre, decide_eq_true_eq] at hdue
  omega

theorem GuardLedger.activate_due (he : Effect.issue c₁ p₁ ∈ log)
    (hact : p₁.busPacketType = .ACTIVATE) (hact' : p.busPacketType = .ACTIVATE)
    (hrank : p.rank = p₁.rank) (hbank : p.bank = p₁.bank)
    (hno : ∀ c, ¬ [Effect.issue c₁ p₁, .powerUp c p₁.rank].Sublist log) :
    c₁ + cfg.tRC.toNat ≤ s.currentClockCycle := by
  obtain ⟨hi, hj⟩ := admits_bounds hadm
  rw [hrank] at hi
  rw [hbank] at hj
  have ha := (h.activate c₁ p₁ he hact hi hj hno).trans (@popBanks_kept cfg s _ _).activate
  rw [← hrank, ← hbank] at ha
  simp only [due, hact', decide_eq_true_eq] at hdue
  omega

omit hdue in
/-- A command popped at cycle `c` comes after every precharge or refresh of its bank has run
out: the bank admits it, so it is in neither. -/
theorem GuardLedger.ready_due {e : Effect} (he : e ∈ log) {t : Nat}
    (ht : e.readyAt cfg p.rank p.bank = some t) : t ≤ s.currentClockCycle := by
  obtain ⟨hi, hj⟩ := admits_bounds hadm
  have hready := h.ready _ hi _ hj e he t ht
  have hcount : (s.bankStates p.rank p.bank).mode.readyAt s.currentClockCycle ≤
      ((s.bankStates p.rank p.bank).countdown cfg.isSmartMRAM cfg.tRP).mode.readyAt
        s.currentClockCycle + 1 := BankState.readyAt_countdown
  rw [← popBanks_apply hi hj,
    BankMode.readyAt_of_admits (admits_touches hadm ⟨rfl, .inl rfl⟩ hj)] at hcount
  omega

end Pop

/-! ## One cycle -/

section Step

variable {input : UpdateInput} {s : State} {log : List Effect} {r : State × List Effect}

/-- One `update()` whose popped command is admitted and due keeps the ledger of guards:
the countdowns and the command move no guard earlier, an ACTIVATE writes its own bounds, a
PRECHARGE or REFRESH starts its countdown, and the low-power loop moves only the
`nextActivate` of a rank it wakes, which the log then shows. -/
theorem GuardLedger.update (hsmart : cfg.isSmartMRAM = false) (h : GuardLedger cfg s log)
    (hs : BanksSettled cfg s)
    (hadm : ∀ p, input.popped = some p → admits cfg (popBanks cfg s) p = true)
    (hdue : ∀ p, input.popped = some p → due cfg (popBanks cfg s) s.currentClockCycle p = true)
    (hu : update cfg input s = .ok r) {s' : State} (hb : s'.bankStates = r.1.bankStates)
    (hk : s'.currentClockCycle = s.currentClockCycle + 1) : GuardLedger cfg s' (log ++ r.2) := by
  obtain ⟨t, pre, post, htb, htp, -, hrb, -, hout, -, -, hlow⟩ := update_anatomy hu
  have hbank : ∀ i < cfg.NUM_RANKS, ∀ j < cfg.NUM_BANKS, s'.bankStates i j =
      (t.bankStates i j).switchPower cfg t.currentClockCycle
        (powerSwitch cfg (input.isEmpty i) t i) :=
    fun i hi j hj => by rw [hb, hrb, lowPower_bankStates hi hj]
  have hkept : ∀ i j, (s.bankStates i j).GuardsKept (t.bankStates i j) := fun i j => by
    rw [htb]
    exact popBanks_kept.trans (poppedBanks_kept hsmart hdue)
  have hissue : ∀ c₁ p, Effect.issue c₁ p ∈ log ++ r.2 → Effect.issue c₁ p ∈ log ∨
      (input.popped = some p ∧ c₁ = s.currentClockCycle) :=
    fun c₁ p he => (List.mem_append.mp he).imp_right (update_issue hu)
  -- the bank an ACTIVATE issued this cycle leaves behind
  have hown : ∀ p, input.popped = some p → p.busPacketType = .ACTIVATE →
      t.bankStates p.rank p.bank =
        activateBanks cfg p s.currentClockCycle (popBanks cfg s) p.rank p.bank :=
    fun p hp hact => by rw [htb, hp]; simp only [poppedBanks, hact]
  refine ⟨fun c₁ p he hact hi hj => ?_, fun c₁ p he hact hi hj => ?_,
    fun c₁ p he hact hi hj hno => ?_, fun i hi j hj e he t' ht => ?_⟩
  · rw [hbank _ hi _ hj, BankState.switchPower_nextRead, BankState.switchPower_nextWrite]
    rcases hissue c₁ p he with he | ⟨hp, rfl⟩
    · obtain ⟨hr, hw⟩ := h.column c₁ p he hact hi hj
      exact (hkept _ _).column _ hr hw
    · rw [hown p hp hact]
      exact ⟨(activateBanks_own hsmart).2.1, (activateBanks_own hsmart).2.2.1⟩
  · rw [hbank _ hi _ hj, BankState.switchPower_nextPrecharge]
    rcases hissue c₁ p he with he | ⟨hp, rfl⟩
    · exact (h.precharge c₁ p he hact hi hj).trans (hkept _ _).precharge
    · rw [hown p hp hact]
      exact (activateBanks_own hsmart).2.2.2
  · -- the rank has not woken up since the ACTIVATE, or the log would show it
    have hsw : powerSwitch cfg (input.isEmpty p.rank) t p.rank ≠ some .up := fun hsw => by
      have hwake := hlow _ (mem_lowPower_powerUp hi hsw)
      apply hno t.currentClockCycle
      rcases hissue c₁ p he with he | ⟨hp, rfl⟩
      · exact sublist_pair_of_mem he (by rw [hout]; exact List.mem_append_right _ hwake)
      · rw [hout, ← List.append_assoc]
        exact sublist_pair_of_mem (by simp [hp]) hwake
    rw [hbank _ hi _ hj, BankState.switchPower_nextActivate hsw]
    rcases hissue c₁ p he with he | ⟨hp, rfl⟩
    · exact (h.activate c₁ p he hact hi hj fun c hsub =>
        hno c (hsub.trans (List.sublist_append_left _ _))).trans (hkept _ _).activate
    · rw [hown p hp hact]
      exact (activateBanks_own hsmart).1
  · -- the bank through the cycle: countdown, command, low-power switch
    have hpop : (popBanks cfg s i j).mode.readyAt s.currentClockCycle ≤
        (t.bankStates i j).mode.readyAt s.currentClockCycle := by
      rw [htb]
      exact poppedBanks_readyAt hadm hj
    have hcount : (s.bankStates i j).mode.readyAt s.currentClockCycle ≤
        (popBanks cfg s i j).mode.readyAt s.currentClockCycle + 1 := by
      rw [popBanks_apply hi hj]
      exact BankState.readyAt_countdown
    have hswitch : (t.bankStates i j).mode.readyAt s.currentClockCycle + 1 ≤
        (s'.bankStates i j).mode.readyAt s'.currentClockCycle := by
      have hsettled := banksSettled_before_lowPower hs hadm htb hi hj
      rw [hbank i hi j hj, hk]
      exact BankState.readyAt_switchPower (fun hsw => powerSwitch_eq_down hsw j hj)
        fun hsw => hsettled.2.1.mpr
          ((hs.powerDown_iff i hi).mp (htp ▸ powerSwitch_eq_up hsw) j hj)
    rcases List.mem_append.mp he with he | he
    · have := h.ready i hi j hj e he t' ht
      omega
    -- a precharge or refresh that starts this cycle
    cases e with
    | issue c₁ p =>
        obtain ⟨hp, rfl⟩ := update_issue hu he
        have hnew : t' ≤ (poppedBanks cfg (some p) s.currentClockCycle (popBanks cfg s) i j
            ).mode.readyAt s.currentClockCycle := poppedBanks_readyAt_issue hsmart hj ht
        rw [← hp, ← htb] at hnew
        omega
    | autoPrecharge c₁ i' j' =>
        obtain ⟨rfl, -, -, hends⟩ := update_autoPrecharge hu he
        simp only [Effect.readyAt] at ht
        split_ifs at ht with hij
        obtain ⟨rfl, rfl⟩ := hij
        cases ht
        have hstart : (popBanks cfg s i' j').mode.readyAt s.currentClockCycle =
            s.currentClockCycle + cfg.tRP.toNat := by
          rw [popBanks_apply hi hj, hsmart]
          exact BankState.readyAt_countdown_of_ends hends
        omega
    | _ => cases ht

/-- The events other than `update()` leave the bank table and the clock alone, and issue,
close and wake nothing. -/
theorem GuardLedger.frame (h : GuardLedger cfg s log) {s' : State} {out : List Effect}
    (hb : s'.bankStates = s.bankStates) (hk : s'.currentClockCycle = s.currentClockCycle)
    (hout : ∀ x ∈ out, x.isIssue = false ∧ ∀ i j, x.readyAt cfg i j = none) :
    GuardLedger cfg s' (log ++ out) := by
  have hold : ∀ {c₁ p}, Effect.issue c₁ p ∈ log ++ out → Effect.issue c₁ p ∈ log :=
    fun he => (List.mem_append.mp he).resolve_right fun he => by
      simpa [Effect.isIssue] using (hout _ he).1
  have hmono : ∀ {l : List Effect}, l.Sublist log → l.Sublist (log ++ out) :=
    fun hl => hl.trans (List.sublist_append_left _ _)
  refine ⟨fun c₁ p he => hb ▸ h.column c₁ p (hold he),
    fun c₁ p he => hb ▸ h.precharge c₁ p (hold he),
    fun c₁ p he hact hi hj hno => hb ▸ h.activate c₁ p (hold he) hact hi hj fun c hs =>
      hno c (hmono hs), fun i hi j hj e he t ht => ?_⟩
  rw [hb, hk]
  rcases List.mem_append.mp he with he | he
  · exact h.ready i hi j hj e he t ht
  · rw [(hout e he).2] at ht
    cases ht

theorem guardLedger_init : GuardLedger cfg (State.init cfg) [] :=
  ⟨nofun, nofun, nofun, fun _ _ _ _ e he => absurd he (List.not_mem_nil e)⟩

/-- One `update()` whose popped command is admitted and due keeps the timing: the popped
command is the only new one, and the ledger of guards bounds it against the history. -/
theorem BankTiming.update (hsmart : cfg.isSmartMRAM = false) (h : BankTiming cfg log)
    (hg : GuardLedger cfg s log)
    (hadm : ∀ p, input.popped = some p → admits cfg (popBanks cfg s) p = true)
    (hdue : ∀ p, input.popped = some p → due cfg (popBanks cfg s) s.currentClockCycle p = true)
    (hu : update cfg input s = .ok r) : BankTiming cfg (log ++ r.2) := by
  -- a command of the history and a later one: both old, or the later one is the popped one
  have hsplit : ∀ {e c₂ p₂}, [e, Effect.issue c₂ p₂].Sublist (log ++ r.2) →
      [e, .issue c₂ p₂].Sublist log ∨
        (e ∈ log ∧ Effect.issue c₂ p₂ ∈ r.2 ∧ input.popped = some p₂ ∧
          c₂ = s.currentClockCycle) ∨ [e, .issue c₂ p₂].Sublist r.2 :=
    fun hsub => (sublist_pair_append hsub).imp_right
      (Or.imp_left fun ⟨he, he₂⟩ => ⟨he, he₂, update_issue hu he₂⟩)
  refine ⟨fun c₁ c₂ p₁ p₂ hsub hact hcol hrank hbank => ?_,
    fun c₁ c₂ p₁ p₂ hsub hact hpre hrank hbank => ?_,
    fun c₁ c₂ p₁ p₂ hsub hact hact' hrank hbank hno => ?_,
    fun c₁ c₂ p₁ p₂ hsub hpre hact hrank hbank => ?_, fun c₁ c₂ p hsub hact => ?_,
    fun c₁ c₂ p₁ p₂ hsub href hact hrank => ?_⟩
  · rcases hsplit hsub with hsub | ⟨he, -, hp, rfl⟩ | hsub
    · exact h.activate_to_column c₁ c₂ p₁ p₂ hsub hact hcol hrank hbank
    · exact hg.column_due (hadm p₂ hp) (hdue p₂ hp) he hact hcol hrank hbank
    · exact (update_issue_pair hu hsub).elim
  · rcases hsplit hsub with hsub | ⟨he, -, hp, rfl⟩ | hsub
    · exact h.activate_to_precharge c₁ c₂ p₁ p₂ hsub hact hpre hrank hbank
    · exact hg.precharge_due (hadm p₂ hp) (hdue p₂ hp) he hact hpre hrank hbank
    · exact (update_issue_pair hu hsub).elim
  · rcases hsplit hsub with hsub | ⟨he, he₂, hp, rfl⟩ | hsub
    · exact h.activate_to_activate c₁ c₂ p₁ p₂ hsub hact hact' hrank hbank fun c hs =>
        hno c (hs.trans (List.sublist_append_left _ _))
    · exact hg.activate_due (hadm p₂ hp) (hdue p₂ hp) he hact hact' hrank hbank fun c hs =>
        hno c (hs.append (List.singleton_sublist.mpr he₂))
    · exact (update_issue_pair hu hsub).elim
  · rcases hsplit hsub with hsub | ⟨he, -, hp, rfl⟩ | hsub
    · exact h.precharge_to_activate c₁ c₂ p₁ p₂ hsub hpre hact hrank hbank
    · refine hg.ready_due (hadm p₂ hp) he ?_
      rw [hrank, hbank]
      exact Effect.readyAt_precharge hpre
    · exact (update_issue_pair hu hsub).elim
  · rcases hsplit hsub with hsub | ⟨he, -, hp, rfl⟩ | hsub
    · exact h.autoPrecharge_to_activate c₁ c₂ p hsub hact
    · exact hg.ready_due (hadm p hp) he Effect.readyAt_autoPrecharge
    · -- an auto-precharge of the same cycle leaves no room for the ACTIVATE unless tRP = 0
      obtain ⟨rfl, hi, hj, hends⟩ :=
        update_autoPrecharge hu (hsub.subset (List.mem_cons_self _ _))
      have hmem : Effect.issue c₂ p ∈ r.2 := hsub.subset (by simp)
      obtain ⟨hp, rfl⟩ := update_issue hu hmem
      have hready : (popBanks cfg s p.rank p.bank).mode.readyAt s.currentClockCycle =
          s.currentClockCycle + cfg.tRP.toNat := by
        rw [popBanks_apply hi hj, hsmart]
        exact BankState.readyAt_countdown_of_ends hends
      rw [BankMode.readyAt_of_admits (admits_touches (hadm p hp) ⟨rfl, .inl rfl⟩ hj)] at hready
      omega
  · rcases hsplit hsub with hsub | ⟨he, -, hp, rfl⟩ | hsub
    · exact h.refresh_to_activate c₁ c₂ p₁ p₂ hsub href hact hrank
    · refine hg.ready_due (hadm p₂ hp) he ?_
      rw [hrank]
      exact Effect.readyAt_refresh href
    · exact (update_issue_pair hu hsub).elim

/-- Effects that issue no command keep the timing. -/
theorem BankTiming.frame (h : BankTiming cfg log) {out : List Effect}
    (hout : ∀ x ∈ out, x.isIssue = false) : BankTiming cfg (log ++ out) := by
  have hold : ∀ {e c₂ p₂}, [e, Effect.issue c₂ p₂].Sublist (log ++ out) →
      [e, .issue c₂ p₂].Sublist log := by
    intro e c₂ p₂ hsub
    have hnot : Effect.issue c₂ p₂ ∉ out := fun he => by
      simpa [Effect.isIssue] using hout _ he
    rcases sublist_pair_append hsub with hsub | ⟨-, he⟩ | hsub
    · exact hsub
    · exact absurd he hnot
    · exact absurd (hsub.subset (by simp)) hnot
  exact ⟨fun c₁ c₂ p₁ p₂ hsub => h.activate_to_column c₁ c₂ p₁ p₂ (hold hsub),
    fun c₁ c₂ p₁ p₂ hsub => h.activate_to_precharge c₁ c₂ p₁ p₂ (hold hsub),
    fun c₁ c₂ p₁ p₂ hsub hact hact' hrank hbank hno =>
      h.activate_to_activate c₁ c₂ p₁ p₂ (hold hsub) hact hact' hrank hbank fun c hs =>
        hno c (hs.trans (List.sublist_append_left _ _)),
    fun c₁ c₂ p₁ p₂ hsub => h.precharge_to_activate c₁ c₂ p₁ p₂ (hold hsub),
    fun c₁ c₂ p hsub => h.autoPrecharge_to_activate c₁ c₂ p (hold hsub),
    fun c₁ c₂ p₁ p₂ hsub => h.refresh_to_activate c₁ c₂ p₁ p₂ (hold hsub)⟩

theorem bankTiming_nil : BankTiming cfg [] := by
  have hnil : ∀ {a b : Effect}, ¬ [a, b].Sublist [] := fun h => nomatch List.sublist_nil.mp h
  exact ⟨fun _ _ _ _ h => (hnil h).elim, fun _ _ _ _ h => (hnil h).elim,
    fun _ _ _ _ h => (hnil h).elim, fun _ _ _ _ h => (hnil h).elim, fun _ _ _ h => (hnil h).elim,
    fun _ _ _ _ h => (hnil h).elim⟩

end Step

/-! ## Every run -/

/-- In conventional mode, along every run whose command queue pops only commands the banks
admit and no earlier than their guards, the issued commands keep the bank-level timing. -/
theorem bank_timing (hsmart : cfg.isSmartMRAM = false) {s : State} {log : List Effect}
    (hrun : Run cfg (admittedDue cfg) s log) : BankTiming cfg log := by
  refine (hrun.invariant
    (fun s log => BanksSettled cfg s ∧ GuardLedger cfg s log ∧ BankTiming cfg log)
    ⟨banksSettled_init, guardLedger_init, bankTiming_nil⟩ ?_).2.2
  intro s log e s' out ⟨hs, hg, ht⟩ hallowed hexec
  by_cases he : ∃ input, e = .update input
  · obtain ⟨input, rfl⟩ := he
    obtain ⟨r, hu, rfl, rfl⟩ := exec_update_eq_ok hexec
    have hok : ∀ p, input.popped = some p → admits cfg (popBanks cfg s) p = true ∧
        due cfg (popBanks cfg s) s.currentClockCycle p = true := fun p hp => by
      simpa [admittedDue, popsOnly, hp] using hallowed
    have hadm := fun p hp => (hok p hp).1
    have hdue := fun p hp => (hok p hp).2
    exact ⟨(banksSettled_update hs hadm hu).of_eq rfl rfl,
      hg.update hsmart hs hadm hdue hu rfl (by rw [(update_refresh hu).2.2.1]),
      ht.update hsmart hg hadm hdue hu⟩
  · obtain ⟨⟨_, _, _, _, _, _, _, _, _, rfl⟩, hout⟩ :=
      exec_eq_ok_of_ne_update (fun input he' => he ⟨input, he'⟩) hexec
    have hquiet : ∀ x ∈ out, x.isIssue = false ∧ ∀ i j, x.readyAt cfg i j = none :=
      fun x hx => by
        rcases hout x hx with ⟨_, rfl⟩ | ⟨_, rfl⟩ | ⟨_, rfl⟩ <;>
          exact ⟨rfl, fun _ _ => rfl⟩
    exact ⟨hs.of_eq rfl rfl, hg.frame rfl rfl hquiet, ht.frame fun x hx => (hquiet x hx).1⟩

set_option maxRecDepth 100000 in
/-- Bank 0 of rank 0 is activated at 0, read at 10 (`tRCD` 10), precharged at 24 (`tRAS` 24)
and activated again at 34 (`tRC` 34, and `tRP` 10 after the PRECHARGE). -/
theorem bank_timing_sample :
    Config.sample.isSmartMRAM = false ∧
    ∃ s log, Run Config.sample (admittedDue Config.sample) s log ∧
      log.filter Effect.isIssue =
        [.issue 0 ⟨.ACTIVATE, 0, 0, 0, 0, 0⟩, .issue 10 ⟨.READ, 0, 0, 0, 0, 0⟩,
          .issue 24 ⟨.PRECHARGE, 0, 0, 0, 0, 0⟩, .issue 34 ⟨.ACTIVATE, 0, 0, 0, 0, 0⟩] ∧
      BankTiming Config.sample log := by
  obtain ⟨s, log, hrun, hobserved⟩ := @exists_run_of_runEvents Config.sample
    (admittedDue Config.sample)
    ([.update ⟨some ⟨.ACTIVATE, 0, 0, 0, 0, 0⟩, fun _ _ => false, fun _ => false⟩] ++
      List.replicate 9 (.update ⟨none, fun _ _ => false, fun _ => false⟩) ++
      [.update ⟨some ⟨.READ, 0, 0, 0, 0, 0⟩, fun _ _ => false, fun _ => false⟩] ++
      List.replicate 13 (.update ⟨none, fun _ _ => false, fun _ => false⟩) ++
      [.update ⟨some ⟨.PRECHARGE, 0, 0, 0, 0, 0⟩, fun _ _ => false, fun _ => false⟩] ++
      List.replicate 9 (.update ⟨none, fun _ _ => false, fun _ => false⟩) ++
      [.update ⟨some ⟨.ACTIVATE, 0, 0, 0, 0, 0⟩, fun _ _ => false, fun _ => false⟩])
    (fun _ log => decide (log.filter Effect.isIssue =
      [.issue 0 ⟨.ACTIVATE, 0, 0, 0, 0, 0⟩, .issue 10 ⟨.READ, 0, 0, 0, 0, 0⟩,
        .issue 24 ⟨.PRECHARGE, 0, 0, 0, 0, 0⟩, .issue 34 ⟨.ACTIVATE, 0, 0, 0, 0, 0⟩]))
    (by decide) (by decide)
  exact ⟨rfl, s, log, hrun, of_decide_eq_true hobserved, bank_timing rfl hrun⟩

set_option maxRecDepth 100000 in
/-- With tRAS 30 and tRC 40 (tRC = tRAS + tRP), bank 0 of rank 0 is activated at cycle 0 and
read with auto-precharge at 10, which leaves its `nextActivate` at 40. The bank is Idle at 27
and its rank powers down; it powers up at 31, which sets `nextActivate` to 31 + tXP = 35,
and the bank is activated again at 35. -/
theorem activates_closer_than_tRC_after_power_up :
    35 - 0 < { Config.sample with tRAS := 30, tRC := 40 }.tRC.toNat ∧
    ∃ s log, Run { Config.sample with tRAS := 30, tRC := 40 }
        (admittedDue { Config.sample with tRAS := 30, tRC := 40 }) s log ∧
      Effect.issue 0 ⟨.ACTIVATE, 0, 0, 0, 0, 0⟩ ∈ log ∧
      Effect.issue 10 ⟨.READ_P, 0, 0, 0, 0, 0⟩ ∈ log ∧
      Effect.powerDown 27 0 ∈ log ∧ Effect.powerUp 31 0 ∈ log ∧
      Effect.issue 35 ⟨.ACTIVATE, 0, 0, 0, 0, 0⟩ ∈ log := by
  refine ⟨by decide, ?_⟩
  obtain ⟨s, log, hrun, hobserved⟩ := @exists_run_of_runEvents
    { Config.sample with tRAS := 30, tRC := 40 }
    (admittedDue { Config.sample with tRAS := 30, tRC := 40 })
    ([.update ⟨some ⟨.ACTIVATE, 0, 0, 0, 0, 0⟩, fun _ _ => false, fun _ => false⟩] ++
      List.replicate 9 (.update ⟨none, fun _ _ => false, fun _ => false⟩) ++
      [.update ⟨some ⟨.READ_P, 0, 0, 0, 0, 0⟩, fun _ _ => false, fun _ => true⟩] ++
      List.replicate 20 (.update ⟨none, fun _ _ => false, fun _ => true⟩) ++
      List.replicate 4 (.update ⟨none, fun _ _ => false, fun _ => false⟩) ++
      [.update ⟨some ⟨.ACTIVATE, 0, 0, 0, 0, 0⟩, fun _ _ => false, fun _ => false⟩])
    (fun _ log => decide (Effect.issue 0 ⟨.ACTIVATE, 0, 0, 0, 0, 0⟩ ∈ log) &&
      decide (Effect.issue 10 ⟨.READ_P, 0, 0, 0, 0, 0⟩ ∈ log) &&
      decide (Effect.powerDown 27 0 ∈ log) && decide (Effect.powerUp 31 0 ∈ log) &&
      decide (Effect.issue 35 ⟨.ACTIVATE, 0, 0, 0, 0, 0⟩ ∈ log))
    (by decide) (by decide)
  simp only [Bool.and_eq_true, decide_eq_true_eq] at hobserved
  exact ⟨s, log, hrun, hobserved.1.1.1.1, hobserved.1.1.1.2, hobserved.1.1.2, hobserved.1.2,
    hobserved.2⟩

end DramSim
