import DramSim.Admission
import DramSim.DataBus
import DramSim.Reads

/-! # The controller never exits

`update()` and `receiveFromBus` stop the simulation with `ERROR` and `exit` or `abort` on six
conditions: a data bus collision, a command bus collision, a popped packet of a type the switch
does not handle, a transaction type with no bus packet type, returned data that matches no
pending read, and a packet from a rank that is not DATA. Each is ruled out by one invariant of
the runs (the write pipeline and the write spacing, the command bus's one-cycle countdown, the
read ledger, the types in the transaction queue) or by what the environment promises
(`wellBehaved`). So in conventional mode, with the timing parameters the write spacing needs
and a one-cycle command bus, every event such an environment serves succeeds.
-/

namespace DramSim

/-- What the caller and the ranks promise: the caller adds only reads and writes, and a rank
hands back only data packets. -/
def callerContract : Event → Bool
  | .addTransaction transactionType _ => decide (transactionType ≠ .RETURN_DATA)
  | .receiveFromBus packet => decide (packet.busPacketType = .DATA)
  | _ => true

variable (cfg : Config) in
/-- An environment in which the controller never exits: the command queue pops only admitted
commands, each no earlier than its guards; the queue and the ranks keep the read contract; and
the caller and the ranks keep `callerContract`. -/
def wellBehaved (s : State) (log : List Effect) (e : Event) : Bool :=
  admittedDue cfg s log e && readContract s log e && callerContract e

variable {cfg : Config}

/-! ## The exits of one cycle -/

section Exits

variable {s : State} {a : Abort}

/-- The pop step exits on a command bus collision, or on a DATA packet. -/
theorem issuePopped_abort {popped : Option BusPacket} (h : issuePopped cfg popped s = .error a) :
    a = .commandBusCollision ∨ ∃ p, popped = some p ∧ p.busPacketType = .DATA := by
  cases popped with
  | none => cases h
  | some p =>
      simp only [issuePopped, issue, except_bind_eq_error] at h
      rcases h with happ | ⟨t, -, hbus⟩
      · refine .inr ⟨p, rfl, ?_⟩
        unfold applyCommand at happ
        split at happ <;> first | assumption | cases happ
      · split_ifs at hbus
        exact .inl (Except.error.inj hbus).symm

/-- Admission exits only on a transaction in the queue that is returned data. -/
theorem admitTransaction_abort {hasRoomFor : Nat → Nat → Bool}
    (h : admitTransaction cfg hasRoomFor s = .error a) :
    ∃ t ∈ s.transactionQueue, t.transactionType = .RETURN_DATA := by
  unfold admitTransaction at h
  split at h
  · cases h
  · rename_i t ht
    split at h
    · rename_i hnone
      refine ⟨t, List.mem_of_find?_eq_some ht, ?_⟩
      cases hty : t.transactionType <;> simp_all [Config.getBusPacketType]
    · cases h

/-- One `update()` exits only on a bus collision, on a DATA packet popped, on returned data in
the transaction queue, or on returned data with no pending read. -/
theorem update_abort {input : UpdateInput} (h : update cfg input s = .error a) :
    a = .dataBusCollision ∨ a = .commandBusCollision ∨
      (∃ p, input.popped = some p ∧ p.busPacketType = .DATA) ∨
      (∃ t ∈ s.transactionQueue, t.transactionType = .RETURN_DATA) ∨
      ∃ address, a = .noMatchingTransaction address := by
  simp only [update, except_bind_eq_error] at h
  rcases h with hw | ⟨written, hw, hi | ⟨issued, hi, ha | ⟨admitted, -, hr | ⟨_, -, hpure⟩⟩⟩⟩
  · exact .inl (sendWriteData_eq_error hw)
  · rcases issuePopped_abort hi with h | h
    · exact .inr (.inl h)
    · exact .inr (.inr (.inl h))
  · -- the blocks before admission leave the transaction queue alone
    obtain ⟨t, ht, htype⟩ := admitTransaction_abort ha
    have hq : issued.1.transactionQueue = s.transactionQueue := by
      obtain ⟨_, _, _, _, _, _, _, _, _, hi'⟩ := issuePopped_shape hi
      obtain ⟨_, _, _, _, _, _, _, _, _, _, _, hgate⟩ := refreshGate_written_shape hw
      rw [hi', hgate]
    exact .inr (.inr (.inr (.inl ⟨t, hq ▸ ht, htype⟩)))
  · obtain ⟨address, rfl⟩ := returnPath_eq_error hr
    exact .inr (.inr (.inr (.inr ⟨address, rfl⟩)))
  · cases hpure

/-- With the command bus's countdown at one cycle, the bus is free when the popped command
goes on it. -/
theorem update_ne_commandBusCollision {log : List Effect} (h : CommandBus s log)
    (input : UpdateInput) : update cfg input s ≠ .error .commandBusCollision := by
  intro hu
  obtain ⟨written, hw, hbusy⟩ := update_eq_commandBusCollision hu
  rw [(popStep_commandBus hw).1,
    (sendCommand_one_left (s := (updateBankStates cfg s).1) h.one_left).1] at hbusy
  cases hbusy

end Exits

/-! ## The transaction queue holds reads and writes -/

/-- The caller adds only reads and writes, and admission only removes transactions, so the
transaction queue never holds returned data. -/
theorem exec_queue_types {e : Event} {s s' : State} {out : List Effect}
    (h : ∀ t ∈ s.transactionQueue, t.transactionType ≠ .RETURN_DATA)
    (hcaller : callerContract e = true) (hexec : exec cfg e s = .ok (s', out)) :
    ∀ t ∈ s'.transactionQueue, t.transactionType ≠ .RETURN_DATA := by
  cases e with
  | addTransaction transactionType address =>
      by_cases hq : s.transactionQueue.length < cfg.TRANS_QUEUE_DEPTH <;>
        simp only [DramSim.exec, addTransaction, hq, if_true, if_false, Except.ok.injEq,
          Prod.mk.injEq] at hexec <;>
        obtain ⟨rfl, rfl⟩ := hexec
      · intro t ht
        rcases List.mem_append.mp ht with ht | ht
        · exact h t ht
        · rw [List.mem_singleton.mp ht]
          simpa [callerContract] using hcaller
      · exact h
  | receiveFromBus packet =>
      simp only [DramSim.exec, receiveFromBus] at hexec
      split at hexec
      · cases hexec
      · simp only [Except.map, Except.ok.injEq, Prod.mk.injEq] at hexec
        obtain ⟨rfl, rfl⟩ := hexec
        exact h
  | refreshDone rank =>
      simp only [DramSim.exec, Except.ok.injEq, Prod.mk.injEq] at hexec
      obtain ⟨rfl, rfl⟩ := hexec
      exact h
  | resetStats =>
      simp only [DramSim.exec, Except.ok.injEq, Prod.mk.injEq] at hexec
      obtain ⟨rfl, rfl⟩ := hexec
      exact h
  | update input =>
      obtain ⟨r, hu, rfl, -⟩ := exec_update_eq_ok hexec
      obtain ⟨issued, admitted, hq, -, ha, hq', -, -⟩ := update_onQueue hu
      intro t ht
      change t ∈ r.1.transactionQueue at ht
      rw [hq'] at ht
      rcases admitTransaction_eq_ok ha with rfl | ⟨_, _, _, _, rfl⟩
      · exact h t (hq ▸ ht)
      · exact h t (hq ▸ (List.eraseP_sublist _).subset ht)

/-! ## Every event succeeds -/

/-- In conventional mode, with the ACTIVATE-to-column delay, the write-to-read turnarounds and
the write auto-precharge delay each at least `BL/2`, `WL` at least one cycle, `BL` at least two
and a one-cycle command bus, along every run of a well-behaved environment, every event that
environment serves succeeds: the controller never reaches an `ERROR` exit. -/
theorem controller_never_exits (hsmart : cfg.isSmartMRAM = false) (hw : cfg.WriteBurstsApart)
    (hWL : 1 ≤ cfg.WL.toNat) (hBL : 2 ≤ cfg.BL.toNat) (htCMD : cfg.tCMD = 1) {s : State}
    {log : List Effect} (hrun : Run cfg (wellBehaved cfg) s log) {e : Event}
    (he : wellBehaved cfg s log e = true) : ∃ s' out, exec cfg e s = .ok (s', out) := by
  have hparts : ∀ {s log e}, wellBehaved cfg s log e = true →
      (admittedDue cfg s log e = true ∧ readContract s log e = true) ∧
        callerContract e = true := fun h => by
    simpa only [wellBehaved, Bool.and_eq_true] using h
  -- the invariants that rule out each exit
  have hpipe : WritePipeline cfg s log :=
    hrun.invariant _ writePipeline_init fun _ _ _ _ _ hinv _ hexec => hinv.exec hWL hBL hexec
  have hspaced := (writeSpacing_of_run hsmart hw
    (hrun.mono fun _ _ _ h => (hparts h).1.1)).spaced
  have hbus := commandBus_of_run htCMD hrun
  obtain ⟨hl, hc⟩ := Run.invariant (fun s log => ReadLedger s log ∧ ReadCounts log)
    ⟨readLedger_init, fun _ => le_rfl, fun _ => le_rfl⟩
    (fun _ _ _ _ _ hinv hallowed hexec =>
      ⟨hinv.1.exec hexec, hinv.2.exec (hparts hallowed).1.2 hexec⟩) hrun
  have hqueue : ∀ t ∈ s.transactionQueue, t.transactionType ≠ .RETURN_DATA :=
    Run.invariant (fun s _ => ∀ t ∈ s.transactionQueue, t.transactionType ≠ .RETURN_DATA)
      (fun _ h => by cases h)
      (fun _ _ _ _ _ hinv hallowed hexec => exec_queue_types hinv (hparts hallowed).2 hexec) hrun
  obtain ⟨⟨hdue, -⟩, hcaller⟩ := hparts he
  cases hexec : exec cfg e s with
  | ok r => exact ⟨r.1, r.2, rfl⟩
  | error a =>
      exfalso
      cases e with
      | update input =>
          have hu : update cfg input s = .error a := by
            simp only [DramSim.exec] at hexec
            cases hu : update cfg input s <;> simp_all [Except.map]
          rcases update_abort hu with rfl | rfl | ⟨p, hp, hty⟩ | ⟨t, ht, hty⟩ | ⟨address, rfl⟩
          · exact update_ne_dataBusCollision hpipe hspaced input hu
          · exact update_ne_commandBusCollision hbus input hu
          · -- the command queue pops no DATA packet
            have hadm : admits cfg (popBanks cfg s) p = true ∧
                due cfg (popBanks cfg s) s.currentClockCycle p = true := by
              simpa [admittedDue, popsOnly, hp] using hdue
            simp [admits, hty] at hadm
          · exact hqueue t ht hty
          · exact exec_ne_noMatchingTransaction (hl.returnsCovered hc) _ hexec
      | receiveFromBus packet =>
          simp only [callerContract, decide_eq_true_eq] at hcaller
          simp [DramSim.exec, receiveFromBus, hcaller, Except.map] at hexec
      | addTransaction transactionType address => simp [DramSim.exec] at hexec
      | refreshDone rank => simp [DramSim.exec] at hexec
      | resetStats => simp [DramSim.exec] at hexec

set_option maxRecDepth 100000 in
/-- A read of address 0 is accepted, admitted, activated, read at cycle 11 and its data
returned to the caller; the next cycle succeeds too. -/
theorem controller_never_exits_sample :
    ∃ s log, Run Config.sample (wellBehaved Config.sample) s log ∧
      (log.filterMap Effect.returned).length = 1 ∧ ∃ s' out,
        exec Config.sample (.update ⟨none, fun _ _ => false, fun _ => false⟩) s =
          .ok (s', out) := by
  obtain ⟨s, log, hrun, hobserved⟩ := @exists_run_of_runEvents Config.sample
    (wellBehaved Config.sample)
    ([.addTransaction .DATA_READ 0, .update ⟨none, fun _ _ => true, fun _ => false⟩,
        .update ⟨some ⟨.ACTIVATE, 0, 0, 0, 0, 0⟩, fun _ _ => false, fun _ => false⟩] ++
      List.replicate 9 (.update ⟨none, fun _ _ => false, fun _ => false⟩) ++
      [.update ⟨some ⟨.READ, 0, 0, 0, 0, 0⟩, fun _ _ => false, fun _ => false⟩,
        .receiveFromBus ⟨.DATA, 0, 0, 0, 0, 0⟩,
        .update ⟨none, fun _ _ => false, fun _ => false⟩])
    (fun _ log => decide ((log.filterMap Effect.returned).length = 1))
    (by decide) (by decide)
  exact ⟨s, log, hrun, of_decide_eq_true hobserved,
    controller_never_exits rfl ⟨by decide, by decide, by decide, by decide⟩ (by decide)
      (by decide) rfl hrun rfl⟩

end DramSim
