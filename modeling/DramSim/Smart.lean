import DramSim.Banks

/-! # The bank machine under SMART

SMART's two changes to the precharge, in the PRECHARGE case of the command `switch` and at
the end of an auto-precharge countdown, leave the bank Idle at once where conventional mode
puts it in Precharging for `tRP`. No other block writes Precharging, so under SMART that
state is dead: along every run, in every environment, no bank is ever Precharging.
-/

namespace DramSim

variable {cfg : Config}

section Steps

variable {b : BankState} {m : BankMode}

/-- Under SMART a countdown never starts a precharge. -/
theorem BankState.countdown_ne_precharging {tRP : UInt32}
    (h : b.currentBankState ≠ .Precharging) :
    (b.countdown true tRP).currentBankState ≠ .Precharging := by
  rcases @BankState.countdown_cases true tRP b with
    ⟨-, hb⟩ | ⟨-, hb⟩ | ⟨-, -, hb⟩ | ⟨-, -, hb⟩ | ⟨-, -, -, -, hb⟩ <;> rw [hb] <;>
    first | exact h | simp

/-- Under SMART no command starts a precharge. -/
theorem BankMode.command_ne_precharging (hsmart : cfg.isSmartMRAM = true) {t : BusPacketType}
    {row : Nat} (h : m.currentBankState ≠ .Precharging) :
    (m.command cfg t row).currentBankState ≠ .Precharging := by
  cases t <;> simp [BankMode.command, hsmart, h]

/-- The popped command leaves a bank's machine alone or runs it. -/
theorem poppedBanks_mode_cases {p : BusPacket} {c i j : Nat} {banks : Nat → Nat → BankState} :
    (poppedBanks cfg (some p) c banks i j).mode = (banks i j).mode ∨
      (poppedBanks cfg (some p) c banks i j).mode =
        (banks i j).mode.command cfg p.busPacketType p.row := by
  cases hty : p.busPacketType <;>
    simp only [poppedBanks, hty, readBanks_mode, writeBanks_mode, activateBanks_mode,
      prechargeBanks_mode, refreshBanks_mode] <;>
    (try split_ifs) <;> simp_all

/-- The low-power loop leaves a bank's state alone, powers it down or wakes it. -/
theorem lowPower_currentBankState {isEmpty : Nat → Bool} {t : State} {i j : Nat} :
    ((lowPower cfg isEmpty t).1.bankStates i j).currentBankState =
        (t.bankStates i j).currentBankState ∨
      ((lowPower cfg isEmpty t).1.bankStates i j).currentBankState = .PowerDown ∨
      ((lowPower cfg isEmpty t).1.bankStates i j).currentBankState = .Idle := by
  simp only [lowPower]
  split_ifs <;> (try rcases powerSwitch cfg (isEmpty i) t i with _ | _ | _) <;>
    simp [BankState.switchPower]

end Steps

/-- Under SMART one `update()` sends no bank into Precharging. -/
theorem update_ne_precharging (hsmart : cfg.isSmartMRAM = true) {input : UpdateInput}
    {s : State} {r : State × List Effect} (hu : update cfg input s = .ok r)
    (h : ∀ i j, (s.bankStates i j).currentBankState ≠ .Precharging) (i j : Nat) :
    (r.1.bankStates i j).currentBankState ≠ .Precharging := by
  obtain ⟨t, -, -, htb, -, -, hrb, -, -, -, -, -⟩ := update_anatomy hu
  have hpop : (popBanks cfg s i j).currentBankState ≠ .Precharging := by
    simp only [popBanks, forEachBank_apply, hsmart]
    split_ifs
    exacts [BankState.countdown_ne_precharging (h i j), h i j]
  have ht : (t.bankStates i j).currentBankState ≠ .Precharging := by
    rw [htb]
    rcases hp : input.popped with _ | p
    · exact hpop
    · show (poppedBanks cfg (some p) _ _ i j).mode.currentBankState ≠ _
      rcases poppedBanks_mode_cases with hm | hm <;> rw [hm]
      exacts [hpop, BankMode.command_ne_precharging hsmart hpop]
  rw [hrb]
  rcases lowPower_currentBankState with hl | hl | hl <;> rw [hl]
  exacts [ht, nofun, nofun]

/-- Under SMART, along every run, in every environment, no bank is ever Precharging. -/
theorem smart_never_precharging (hsmart : cfg.isSmartMRAM = true)
    {allowed : State → List Effect → Event → Bool} {s : State} {log : List Effect}
    (hrun : Run cfg allowed s log) : ∀ i j, (s.bankStates i j).currentBankState ≠ .Precharging := by
  induction hrun with
  | init => exact fun _ _ => nofun
  | @step s log e s' out _ _ hexec ih =>
      by_cases he : ∃ input, e = .update input
      · obtain ⟨input, rfl⟩ := he
        obtain ⟨r, hu, rfl, rfl⟩ := exec_update_eq_ok hexec
        exact update_ne_precharging hsmart hu ih
      · obtain ⟨⟨_, _, _, _, _, _, _, _, _, rfl⟩, -⟩ :=
          exec_eq_ok_of_ne_update (fun input he' => he ⟨input, he'⟩) hexec
        exact ih

set_option maxRecDepth 100000 in
/-- Under SMART bank 0 of rank 0 is activated at cycle 0 and precharged at 1, and is not
Precharging after it. -/
theorem smart_never_precharging_sample :
    ∃ s log, Run { Config.sample with isSmartMRAM := true } (fun _ _ _ => true) s log ∧
      Effect.issue 1 ⟨.PRECHARGE, 0, 0, 0, 0, 0⟩ ∈ log ∧
      (s.bankStates 0 0).currentBankState ≠ .Precharging := by
  obtain ⟨s, log, hrun, hobserved⟩ := @exists_run_of_runEvents
    { Config.sample with isSmartMRAM := true } (fun _ _ _ => true)
    [.update ⟨some ⟨.ACTIVATE, 0, 0, 0, 0, 0⟩, fun _ _ => false, fun _ => false⟩,
      .update ⟨some ⟨.PRECHARGE, 0, 0, 0, 0, 0⟩, fun _ _ => false, fun _ => false⟩]
    (fun _ log => decide (Effect.issue 1 ⟨.PRECHARGE, 0, 0, 0, 0, 0⟩ ∈ log))
    (by decide) (by decide)
  exact ⟨s, log, hrun, of_decide_eq_true hobserved, smart_never_precharging rfl hrun 0 0⟩

end DramSim
