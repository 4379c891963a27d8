import DramSim.Energy
import DramSim.Reads
import DramSim.WriteData

/-! # The statistics `printStats` reports

`totalTransactions` counts the transactions the controller has finished: `update()` adds one
when it loads a write's data on the data bus and one when it returns a read's data to the
caller. `resetStats` leaves it alone, so `printStats` reports the count since construction.
Over every run, in every environment, it is the number of reads returned and of writes whose
data has reached its rank, plus one while write data is on the bus.

`printStats` divides each rank's `backgroundEnergy` by the cycles of the epoch. Every
`update()` charges each rank one background amount, for IDD3N, IDD2P or IDD2N, and
`resetStats` clears it: over every run the accumulator holds one charge per cycle since the
last reset. `totalReadsPerBank` counts the read data the ranks return for each bank since the
last reset.
-/

namespace DramSim

/-- Whether an effect finishes a transaction: a read returned to the caller, or write data
handed to its rank. -/
def Effect.finishes : Effect → Bool
  | .returnReadData .. | .writeDataDone .. => true
  | _ => false

/-- Write data on the bus counts from the update that loads it. -/
def State.dataOnBus (s : State) : Nat := s.outgoingDataPacket.isSome.toNat

variable {cfg : Config}

/-! ## The blocks of one cycle -/

section Blocks

variable {s : State}

/-- The data bus hands the write data it holds to its rank when its count runs out. -/
theorem sendData_finishes :
    (sendData s).1.totalTransactions = s.totalTransactions ∧
      (sendData s).1.dataOnBus + (sendData s).2.countP Effect.finishes = s.dataOnBus := by
  unfold sendData
  cases hp : s.outgoingDataPacket with
  | none => simp [State.dataOnBus, hp]
  | some packet =>
      dsimp only
      split <;> simp [State.dataOnBus, hp, Effect.finishes]

/-- Loading write data on the bus counts it. -/
theorem sendWriteData_finishes {written : State} (h : sendWriteData cfg s = .ok written) :
    written.totalTransactions + s.dataOnBus = s.totalTransactions + written.dataOnBus := by
  rcases sendWriteData_eq_ok h with ⟨_, _, _, -, -, hbus, rfl⟩ | ⟨-, rfl⟩
  · simp [State.dataOnBus, hbus]
  · rfl

/-- Returning a read's data counts it. -/
theorem returnPath_finishes {r : State × List Effect} (h : returnPath s = .ok r) :
    r.1.totalTransactions = s.totalTransactions + r.2.countP Effect.finishes ∧
      r.1.outgoingDataPacket = s.outgoingDataPacket := by
  rcases returnPath_eq_ok h with ⟨rfl, -⟩ | ⟨_, _, _, _, _, rfl⟩
  · exact ⟨rfl, rfl⟩
  · exact ⟨rfl, rfl⟩

end Blocks

/-- Over one `update()` the count grows by the transactions the update finishes, and by the
write data it leaves on the bus that was not there before. -/
theorem update_finishes {input : UpdateInput} {s : State} {r : State × List Effect}
    (hu : update cfg input s = .ok r) :
    r.1.totalTransactions + s.dataOnBus =
      s.totalTransactions + r.1.dataOnBus + r.2.countP Effect.finishes := by
  obtain ⟨written, issued, admitted, returned, hw, hi, ha, hr, rfl⟩ := update_eq_ok hu
  have hcmd : (sendCommand (updateBankStates cfg s).1).1.totalTransactions = s.totalTransactions ∧
      (sendCommand (updateBankStates cfg s).1).1.dataOnBus = s.dataOnBus := by
    obtain ⟨_, _, hc⟩ := sendCommand_shape (updateBankStates cfg s).1
    rw [hc]
    exact ⟨rfl, rfl⟩
  obtain ⟨hdk, hdb⟩ := @sendData_finishes (sendCommand (updateBankStates cfg s).1).1
  have hwritten := sendWriteData_finishes hw
  -- the blocks after the data bus leave the count and the bus alone, but for the return path
  have hlater : (lowPower cfg input.isEmpty admitted.1).1.totalTransactions =
      written.totalTransactions ∧
      (lowPower cfg input.isEmpty admitted.1).1.dataOnBus = written.dataOnBus := by
    obtain ⟨_, _, _, hg⟩ := @refreshGate_shape cfg written
    obtain ⟨_, _, _, _, _, _, _, _, _, hi'⟩ := issuePopped_shape hi
    obtain ⟨_, _, ha'⟩ := admitTransaction_shape ha
    rw [ha', hi', hg]
    exact ⟨rfl, rfl⟩
  obtain ⟨hrk, hrb⟩ := returnPath_finishes hr
  have hquiet : ∀ l : List Effect, (∀ e ∈ l, e.finishes = false) →
      l.countP Effect.finishes = 0 := fun _ h => List.countP_eq_zero.mpr fun e he => by
    simp [h e he]
  simp only [List.countP_append,
    hquiet (updateBankStates cfg s).2 fun e he => by
      obtain ⟨_, _, _, _, _, rfl⟩ := mem_updateBankStates_effects he; rfl,
    hquiet (sendCommand (updateBankStates cfg s).1).2 fun e he => by
      obtain ⟨_, _, rfl⟩ := mem_sendCommand_effects he; rfl,
    hquiet (refreshGate cfg written).2 fun e he => by
      obtain ⟨_, rfl⟩ := mem_refreshGate_effects he; rfl,
    hquiet _ fun e he => by obtain ⟨_, _, rfl⟩ := mem_issuePopped_effects hi he; rfl,
    hquiet _ fun e he => by
      obtain ⟨_, rfl⟩ | ⟨_, rfl⟩ := mem_admitTransaction_effects ha he <;> rfl,
    hquiet (lowPower cfg input.isEmpty admitted.1).2 fun e he => by
      obtain ⟨_, _, ⟨_, rfl⟩ | ⟨_, rfl⟩⟩ := mem_lowPower_effects he <;> rfl]
  have hrd : returned.1.dataOnBus = written.dataOnBus := by
    rw [← hlater.2]
    exact congrArg (fun o => o.isSome.toNat) hrb
  show returned.1.totalTransactions + _ = _ + returned.1.dataOnBus + _
  rw [hrk, hlater.1, hrd]
  omega

/-! ## Every run -/

/-- Along every run, in every environment, `totalTransactions` is the number of reads
returned to the caller and of writes whose data has reached its rank, plus one while write
data is on the bus; `resetStats` does not clear it. -/
theorem transactions_counted {allowed : State → List Effect → Event → Bool} {s : State}
    {log : List Effect} (hrun : Run cfg allowed s log) :
    s.totalTransactions = log.countP Effect.finishes + s.dataOnBus := by
  induction hrun with
  | init => rfl
  | @step s log e s' out _ _ hexec ih =>
      by_cases he : ∃ input, e = .update input
      · obtain ⟨input, rfl⟩ := he
        obtain ⟨r, hu, rfl, rfl⟩ := exec_update_eq_ok hexec
        have hcount := update_finishes hu
        show r.1.totalTransactions = _ + r.1.dataOnBus
        rw [List.countP_append]
        omega
      · obtain ⟨⟨_, _, _, _, _, _, _, _, _, rfl⟩, hout⟩ :=
          exec_eq_ok_of_ne_update (fun input he' => he ⟨input, he'⟩) hexec
        have hquiet : out.countP Effect.finishes = 0 := List.countP_eq_zero.mpr fun x hx => by
          rcases hout x hx with ⟨_, rfl⟩ | ⟨_, rfl⟩ | ⟨_, rfl⟩ <;> nofun
        rw [List.countP_append, hquiet]
        exact ih

set_option maxRecDepth 100000 in
/-- Writes at cycles 10 and 14: at the start of update 25 the first one's data has reached its
rank and the second one's is on the data bus, and the counter holds both. -/
theorem transactions_counted_sample :
    ∃ s log, Run Config.sample (admittedDue Config.sample) s log ∧
      log.countP Effect.finishes = 1 ∧ s.dataOnBus = 1 ∧
      s.totalTransactions = log.countP Effect.finishes + s.dataOnBus := by
  obtain ⟨s, log, hrun, hobserved⟩ := @exists_run_of_runEvents Config.sample
    (admittedDue Config.sample)
    ([.update ⟨some ⟨.ACTIVATE, 0, 0, 0, 0, 0⟩, fun _ _ => false, fun _ => false⟩] ++
      List.replicate 9 (.update ⟨none, fun _ _ => false, fun _ => false⟩) ++
      [.update ⟨some ⟨.WRITE, 0, 0, 0, 0, 0⟩, fun _ _ => false, fun _ => false⟩] ++
      List.replicate 3 (.update ⟨none, fun _ _ => false, fun _ => false⟩) ++
      [.update ⟨some ⟨.WRITE, 0, 0, 0, 0, 0⟩, fun _ _ => false, fun _ => false⟩] ++
      List.replicate 10 (.update ⟨none, fun _ _ => false, fun _ => false⟩))
    (fun s log => decide (log.countP Effect.finishes = 1 ∧ s.dataOnBus = 1))
    (by decide) (by decide)
  obtain ⟨hfinished, hbus⟩ := of_decide_eq_true hobserved
  exact ⟨s, log, hrun, hfinished, hbus, transactions_counted hrun⟩

/-! ## What each call does to the counters -/

/-- The effects since the last `resetStats`, latest first. -/
def sinceReset (log : List Effect) : List Effect :=
  log.reverse.takeWhile fun e => e.resetAt.isNone

variable (cfg) in
/-- Whether an effect is read data a rank returned for the bank counter `k`. -/
def Effect.receivedFor (k : Nat) : Effect → Bool
  | .receive packet => cfg.SEQUENTIAL packet.rank packet.bank = k
  | _ => false

theorem sinceReset_append {log out : List Effect} (h : out.filterMap Effect.resetAt = []) :
    sinceReset (log ++ out) = out.reverse ++ sinceReset log := by
  rw [sinceReset, List.reverse_append, List.takeWhile_append_of_pos]
  · rfl
  · intro e he
    simp [List.filterMap_eq_nil_iff.mp h e (List.mem_reverse.mp he)]

theorem sinceReset_resetStats {log : List Effect} {c : Nat} :
    sinceReset (log ++ [.resetStats c]) = [] := by
  simp [sinceReset, Effect.resetAt]

/-- What a call does to the counters: `update()` runs, `resetStats` clears, and the other calls
keep the clock and the background energy, record no reset, and count the read data they
receive. -/
theorem exec_statistics {e : Event} {s s' : State} {out : List Effect}
    (hexec : exec cfg e s = .ok (s', out)) :
    (∃ input r, update cfg input s = .ok r ∧
      s' = { r.1 with currentClockCycle := r.1.currentClockCycle + 1 } ∧ out = r.2) ∨
    (s' = resetStats cfg s ∧ out = [.resetStats s.currentClockCycle]) ∨
    (s'.currentClockCycle = s.currentClockCycle ∧ s'.backgroundEnergy = s.backgroundEnergy ∧
      out.filterMap Effect.resetAt = [] ∧
      ∀ k, s'.totalReadsPerBank k =
        s.totalReadsPerBank k + out.countP (Effect.receivedFor cfg k)) := by
  cases e with
  | update input =>
      obtain ⟨r, hu, rfl, rfl⟩ := exec_update_eq_ok hexec
      exact .inl ⟨input, r, hu, rfl, rfl⟩
  | resetStats =>
      simp only [DramSim.exec, Except.ok.injEq, Prod.mk.injEq] at hexec
      exact .inr (.inl ⟨hexec.1.symm, hexec.2.symm⟩)
  | addTransaction transactionType address =>
      refine .inr (.inr ?_)
      by_cases hq : s.transactionQueue.length < cfg.TRANS_QUEUE_DEPTH <;>
        simp only [DramSim.exec, addTransaction, hq, if_true, if_false, Except.ok.injEq,
          Prod.mk.injEq] at hexec <;>
        obtain ⟨rfl, rfl⟩ := hexec <;>
        simp [Effect.resetAt, Effect.receivedFor]
  | receiveFromBus packet =>
      refine .inr (.inr ?_)
      simp only [DramSim.exec, receiveFromBus] at hexec
      split at hexec
      · cases hexec
      · simp only [Except.map, Except.ok.injEq, Prod.mk.injEq] at hexec
        obtain ⟨rfl, rfl⟩ := hexec
        refine ⟨rfl, rfl, rfl, fun k => ?_⟩
        by_cases hpk : cfg.SEQUENTIAL packet.rank packet.bank = k
        · subst hpk
          simp [Effect.receivedFor]
        · simp [Effect.receivedFor, hpk, Function.update_noteq (Ne.symm hpk)]
  | refreshDone rank =>
      refine .inr (.inr ?_)
      simp only [DramSim.exec, Except.ok.injEq, Prod.mk.injEq] at hexec
      obtain ⟨rfl, rfl⟩ := hexec
      simp

/-! ## Background energy -/

variable (cfg) in
/-- The background accumulator after `a`, `b` and `c` cycles charged at IDD3N, IDD2P and
IDD2N: each amount is computed in 32 bits and added modulo `2^64`. -/
def backgroundCharge (a b c : Nat) : Nat :=
  (a * (cfg.IDD3N * cfg.NUM_DEVICES).toNat + b * (cfg.IDD2P * cfg.NUM_DEVICES).toNat +
    c * (cfg.IDD2N * cfg.NUM_DEVICES).toNat) % 2 ^ 64

/-- One background charge is one more cycle at one of the three currents. -/
theorem accumulate_backgroundIncrement (banks : Nat → BankState) (poweredDown : Bool)
    (a b c : Nat) : ∃ a' b' c', a' + b' + c' = a + b + c + 1 ∧
      accumulate (backgroundCharge cfg a b c) (backgroundIncrement cfg banks poweredDown) =
        backgroundCharge cfg a' b' c' := by
  simp only [accumulate, backgroundCharge, Nat.mod_add_mod]
  unfold backgroundIncrement
  split_ifs
  · exact ⟨a + 1, b, c, by omega, by ring_nf⟩
  · exact ⟨a, b + 1, c, by omega, by ring_nf⟩
  · exact ⟨a, b, c + 1, by omega, by ring_nf⟩

/-- Charges since the last reset, one per cycle: what the background accumulators hold. -/
structure BackgroundLedger (cfg : Config) (s : State) (log : List Effect) : Prop where
  reset_before : lastReset log ≤ s.currentClockCycle
  charged : ∀ i < cfg.NUM_RANKS, ∃ a b c, a + b + c = s.currentClockCycle - lastReset log ∧
    s.backgroundEnergy i = backgroundCharge cfg a b c

/-- One `update()` charges each rank once, and the clock advances by one. -/
theorem BackgroundLedger.update {input : UpdateInput} {s : State} {log : List Effect}
    {r : State × List Effect} (h : BackgroundLedger cfg s log) (hu : update cfg input s = .ok r) :
    BackgroundLedger cfg { r.1 with currentClockCycle := r.1.currentClockCycle + 1 }
      (log ++ r.2) := by
  obtain ⟨-, -, -, t, ht, hbackground⟩ := update_energies hu
  obtain ⟨_, _, -, -, -, hclock, -⟩ := update_onBus hu
  have hreset := @lastReset_append log r.2 (update_resetAt hu)
  refine ⟨by rw [hreset, hclock]; exact Nat.le_succ_of_le h.reset_before, fun i hi => ?_⟩
  obtain ⟨a, b, c, hcount, hcharge⟩ := h.charged i hi
  obtain ⟨a', b', c', hcount', hcharge'⟩ := accumulate_backgroundIncrement
    ((lowPower cfg input.isEmpty t).1.bankStates i)
    ((lowPower cfg input.isEmpty t).1.powerDown i) a b c
  refine ⟨a', b', c', ?_, ?_⟩
  · show _ = r.1.currentClockCycle + 1 - _
    have := h.reset_before
    rw [hreset, hclock]
    omega
  · show r.1.backgroundEnergy i = _
    rw [hbackground, ← hcharge', ← hcharge, ← ht]
    simp [lowPower, hi]

/-- `resetStats` clears the ranks' accumulators; the other calls leave them and the clock. -/
theorem BackgroundLedger.exec {e : Event} {s s' : State} {log out : List Effect}
    (h : BackgroundLedger cfg s log) (hexec : exec cfg e s = .ok (s', out)) :
    BackgroundLedger cfg s' (log ++ out) := by
  rcases exec_statistics hexec with ⟨input, r, hu, rfl, rfl⟩ | ⟨rfl, rfl⟩ | ⟨hc, hb, hout, -⟩
  · exact h.update hu
  · refine ⟨by rw [lastReset_resetStats]; rfl, fun i hi => ⟨0, 0, 0, ?_, ?_⟩⟩
    · rw [lastReset_resetStats]
      exact (Nat.sub_self _).symm
    · simp [DramSim.resetStats, hi, backgroundCharge]
  · have hreset := @lastReset_append log out hout
    refine ⟨by rw [hreset, hc]; exact h.reset_before, fun i hi => ?_⟩
    rw [hreset, hc, hb]
    exact h.charged i hi

/-- Along every run, in every environment, each rank's background accumulator holds one charge
per cycle since the last `resetStats` (since construction if there was none), each for
IDD3N, IDD2P or IDD2N times NUM_DEVICES, computed in 32 bits and added modulo `2^64`. -/
theorem background_energy_per_cycle {allowed : State → List Effect → Event → Bool} {s : State}
    {log : List Effect} (hrun : Run cfg allowed s log) {i : Nat} (hi : i < cfg.NUM_RANKS) :
    ∃ a b c, a + b + c = s.currentClockCycle - lastReset log ∧
      s.backgroundEnergy i = backgroundCharge cfg a b c :=
  (hrun.invariant (BackgroundLedger cfg) ⟨le_rfl, fun _ _ => ⟨0, 0, 0, rfl, by
    simp [State.init, backgroundCharge]⟩⟩
    fun _ _ _ _ _ hinv _ hexec => hinv.exec hexec).charged i hi

set_option maxRecDepth 100000 in
/-- Three updates, a reset at cycle 3, and two more updates: each rank's accumulator holds two
charges. -/
theorem background_energy_per_cycle_sample :
    ∃ s log, Run Config.sample (fun _ _ _ => true) s log ∧ s.currentClockCycle = 5 ∧
      lastReset log = 3 ∧ ∃ a b c, a + b + c = 2 ∧
        s.backgroundEnergy 0 = backgroundCharge Config.sample a b c := by
  obtain ⟨s, log, hrun, hobserved⟩ := @exists_run_of_runEvents Config.sample
    (fun _ _ _ => true)
    (List.replicate 3 (.update ⟨none, fun _ _ => false, fun _ => true⟩) ++ [.resetStats] ++
      List.replicate 2 (.update ⟨none, fun _ _ => false, fun _ => true⟩))
    (fun s log => decide (s.currentClockCycle = 5 ∧ lastReset log = 3))
    (by decide) (by decide)
  obtain ⟨hclock, hreset⟩ := of_decide_eq_true hobserved
  obtain ⟨a, b, c, hcount, hcharge⟩ := background_energy_per_cycle hrun (i := 0) (by decide)
  exact ⟨s, log, hrun, hclock, hreset, a, b, c, by rw [hcount, hclock, hreset], hcharge⟩

/-! ## Read counters -/

/-- One `update()` leaves the read counters alone, and receives no read data. -/
theorem update_totalReadsPerBank {input : UpdateInput} {s : State} {r : State × List Effect}
    (hu : update cfg input s = .ok r) (k : Nat) :
    r.1.totalReadsPerBank = s.totalReadsPerBank ∧ r.2.countP (Effect.receivedFor cfg k) = 0 := by
  refine ⟨?_, List.countP_eq_zero.mpr fun e he => ?_⟩
  · obtain ⟨written, issued, admitted, returned, hw, hi, ha, hr, rfl⟩ := update_eq_ok hu
    obtain ⟨_, _, _, _, _, _, hw'⟩ := sendWriteData_shape hw
    obtain ⟨_, _, _, hg⟩ := @refreshGate_shape cfg written
    obtain ⟨_, _, _, _, _, _, _, _, _, hi'⟩ := issuePopped_shape hi
    obtain ⟨_, _, ha'⟩ := admitTransaction_shape ha
    obtain ⟨_, _, _, hr'⟩ := returnPath_shape hr
    obtain ⟨_, _, hd⟩ := sendData_shape (sendCommand (updateBankStates cfg s).1).1
    obtain ⟨_, _, hc⟩ := sendCommand_shape (updateBankStates cfg s).1
    calc returned.1.totalReadsPerBank = admitted.1.totalReadsPerBank := by rw [hr']; rfl
      _ = (refreshGate cfg written).1.totalReadsPerBank := by rw [ha', hi']
      _ = (sendData (sendCommand (updateBankStates cfg s).1).1).1.totalReadsPerBank := by
        rw [hg, hw']
      _ = s.totalReadsPerBank := by rw [hd, hc]; rfl
  · cases e with
    | receive packet =>
        have hnone := List.countP_eq_zero.mp (update_countP hu packet.physicalAddress).2 _ he
        simp [Effect.receivesData] at hnone
    | _ => simp [Effect.receivedFor]

/-- `resetStats` clears the counters below `NUM_RANKS * NUM_BANKS`, `receiveFromBus` counts the
packet against its bank, and the other calls leave the counters alone. -/
theorem exec_totalReadsPerBank {e : Event} {s s' : State} {log out : List Effect}
    (h : ∀ k < cfg.NUM_RANKS * cfg.NUM_BANKS,
      s.totalReadsPerBank k = (sinceReset log).countP (Effect.receivedFor cfg k))
    (hexec : exec cfg e s = .ok (s', out)) :
    ∀ k < cfg.NUM_RANKS * cfg.NUM_BANKS,
      s'.totalReadsPerBank k = (sinceReset (log ++ out)).countP (Effect.receivedFor cfg k) := by
  intro k hk
  rcases exec_statistics hexec with ⟨input, r, hu, rfl, rfl⟩ | ⟨rfl, rfl⟩ | ⟨-, -, hout, hreads⟩
  · obtain ⟨hreads, hnone⟩ := update_totalReadsPerBank hu k
    rw [sinceReset_append (update_resetAt hu), List.countP_append, List.countP_reverse, hnone,
      zero_add]
    exact hreads ▸ h k hk
  · simp [sinceReset_resetStats, DramSim.resetStats, hk]
  · rw [hreads, sinceReset_append hout, List.countP_append, List.countP_reverse, h k hk,
      Nat.add_comm]

/-- Along every run, in every environment, each bank's `totalReadsPerBank` is the number of
read-data packets the ranks returned for it since the last `resetStats` (since construction if
there was none). -/
theorem reads_counted_since_reset {allowed : State → List Effect → Event → Bool} {s : State}
    {log : List Effect} (hrun : Run cfg allowed s log) {k : Nat}
    (hk : k < cfg.NUM_RANKS * cfg.NUM_BANKS) :
    s.totalReadsPerBank k = (sinceReset log).countP (Effect.receivedFor cfg k) :=
  hrun.invariant (fun s log => ∀ k < cfg.NUM_RANKS * cfg.NUM_BANKS,
      s.totalReadsPerBank k = (sinceReset log).countP (Effect.receivedFor cfg k))
    (fun _ _ => rfl) (fun _ _ _ _ _ hinv _ hexec => exec_totalReadsPerBank hinv hexec) k hk

/-- Bank 0 of rank 0 returns read data, the statistics are reset, and it returns read data
again, as does bank 0 of rank 1: bank 0's counter holds the one return since the reset. -/
theorem reads_counted_since_reset_sample :
    ∃ s log, Run Config.sample (fun _ _ _ => true) s log ∧ s.totalReadsPerBank 0 = 1 ∧
      s.totalReadsPerBank 0 = (sinceReset log).countP (Effect.receivedFor Config.sample 0) := by
  obtain ⟨s, log, hrun, hobserved⟩ := @exists_run_of_runEvents Config.sample
    (fun _ _ _ => true)
    [.receiveFromBus ⟨.DATA, 0, 0, 0, 0, 0⟩, .resetStats, .receiveFromBus ⟨.DATA, 0, 0, 0, 0, 0⟩,
      .receiveFromBus ⟨.DATA, 8192, 0, 0, 1, 0⟩]
    (fun s _ => decide (s.totalReadsPerBank 0 = 1))
    (by decide) (by decide)
  exact ⟨s, log, hrun, of_decide_eq_true hobserved,
    reads_counted_since_reset hrun (by decide)⟩

end DramSim
