import DramSim.Run

/-! # What each block of `update()` may change

For every block: which fields it may write, as a record update of its input with the other
fields untouched, and which effects it may emit. The blocks that can exit get inversion
lemmas. Invariant proofs cite these and do not unfold the blocks.
-/

namespace DramSim

variable {cfg : Config}

theorem except_bind_eq_ok {ε α β : Type} {m : Except ε α} {f : α → Except ε β} {b : β} :
    m >>= f = .ok b ↔ ∃ a, m = .ok a ∧ f a = .ok b := by
  cases m <;> simp [bind, Except.bind]

theorem except_bind_eq_error {ε α β : Type} {m : Except ε α} {f : α → Except ε β}
    {e : ε} :
    m >>= f = .error e ↔ m = .error e ∨ ∃ a, m = .ok a ∧ f a = .error e := by
  cases m <;> simp [bind, Except.bind]

/-! ## Shapes of the blocks -/

theorem sendCommand_shape (s : State) : ∃ packet cycles,
    (sendCommand s).1 = { s with outgoingCmdPacket := packet, cmdCyclesLeft := cycles } := by
  unfold sendCommand
  split
  · exact ⟨_, _, rfl⟩
  · split <;> exact ⟨_, _, rfl⟩

theorem sendData_shape (s : State) : ∃ packet cycles,
    (sendData s).1 = { s with outgoingDataPacket := packet, dataCyclesLeft := cycles } := by
  unfold sendData
  split
  · exact ⟨_, _, rfl⟩
  · split <;> exact ⟨_, _, rfl⟩

theorem sendWriteData_shape {s s' : State} (h : sendWriteData cfg s = .ok s') :
    ∃ packet cycles total writes countdowns toSend,
      s' = { s with
        outgoingDataPacket := packet
        dataCyclesLeft := cycles
        totalTransactions := total
        totalWritesPerBank := writes
        writeDataCountdown := countdowns
        writeDataToSend := toSend } := by
  unfold sendWriteData at h
  split at h
  · split at h
    · split at h
      · cases h
      · cases h
        exact ⟨_, _, _, _, _, _, rfl⟩
    · cases h
      exact ⟨_, _, _, _, _, _, rfl⟩
  · cases h
    exact ⟨_, _, _, _, _, _, rfl⟩

theorem refreshGate_shape (s : State) : ∃ waiting countdowns rank,
    (refreshGate cfg s).1 = { s with
      refreshWaiting := waiting
      refreshCountdown := countdowns
      refreshRank := rank } := by
  unfold refreshGate
  dsimp only
  split
  · exact ⟨_, _, _, rfl⟩
  · split <;> exact ⟨_, _, _, rfl⟩

theorem queueWriteData_shape (packet : BusPacket) (s : State) : ∃ toSend countdowns,
    queueWriteData cfg packet s =
      { s with writeDataToSend := toSend, writeDataCountdown := countdowns } := by
  unfold queueWriteData
  split <;> exact ⟨_, _, rfl⟩

theorem applyCommand_shape {packet : BusPacket} {s s' : State}
    (h : applyCommand cfg packet s = .ok s') :
    ∃ banks pending burst actpre refresh,
      s' = { s with
        bankStates := banks
        pendingReadTransactions := pending
        burstEnergy := burst
        actpreEnergy := actpre
        refreshEnergy := refresh } := by
  unfold applyCommand at h
  split at h <;> cases h <;> exact ⟨_, _, _, _, _, rfl⟩

theorem issue_eq_ok {packet : BusPacket} {s : State} {r : State × List Effect}
    (h : issue cfg packet s = .ok r) :
    ∃ applied, applyCommand cfg packet (queueWriteData cfg packet s) = .ok applied ∧
      applied.outgoingCmdPacket = none ∧
      r = ({ applied with outgoingCmdPacket := some packet, cmdCyclesLeft := cfg.tCMD },
        [.issue s.currentClockCycle packet]) := by
  simp only [issue, except_bind_eq_ok] at h
  obtain ⟨applied, happ, h⟩ := h
  obtain ⟨toSend, countdowns, hq⟩ := @queueWriteData_shape cfg packet s
  obtain ⟨_, _, _, _, _, rfl⟩ := applyCommand_shape happ
  rw [hq] at happ ⊢
  cases hout : s.outgoingCmdPacket <;> simp_all

theorem issuePopped_eq_ok {popped : Option BusPacket} {s : State} {r : State × List Effect}
    (h : issuePopped cfg popped s = .ok r) :
    (popped = none ∧ r = (s, [])) ∨
      ∃ packet, popped = some packet ∧ issue cfg packet s = .ok r := by
  cases popped with
  | none => exact .inl ⟨rfl, (Except.ok.inj h).symm⟩
  | some packet => exact .inr ⟨packet, rfl, h⟩

theorem admitTransaction_eq_ok {hasRoomFor : Nat → Nat → Bool} {s : State}
    {r : State × List Effect} (h : admitTransaction cfg hasRoomFor s = .ok r) :
    r = (s, []) ∨ ∃ t busPacketType,
      s.transactionQueue.find? (hasRoom cfg hasRoomFor) = some t ∧
      cfg.getBusPacketType t.transactionType = some busPacketType ∧
      r = ({ s with
          transactionQueue := s.transactionQueue.eraseP (hasRoom cfg hasRoomFor)
          pendingReadTransactions :=
            if t.transactionType = .DATA_READ then s.pendingReadTransactions ++ [t]
            else s.pendingReadTransactions },
        [.admission s.currentClockCycle t,
          .enqueue s.currentClockCycle (activateCommand cfg t),
          .enqueue s.currentClockCycle (columnCommand cfg t busPacketType)]) := by
  unfold admitTransaction at h
  split at h
  · exact .inl (Except.ok.inj h).symm
  · rename_i t ht
    split at h
    · cases h
    · rename_i busPacketType hb
      exact .inr ⟨t, busPacketType, ht, hb, (Except.ok.inj h).symm⟩

theorem returnPath_eq_ok {s : State} {r : State × List Effect} (h : returnPath s = .ok r) :
    r = (s, []) ∧ s.returnTransaction = [] ∨ ∃ d rest t,
      s.returnTransaction = d :: rest ∧
      s.pendingReadTransactions.find? (fun t => t.address = d.address) = some t ∧
      r = ({ s with
          totalTransactions := s.totalTransactions + 1
          pendingReadTransactions :=
            s.pendingReadTransactions.eraseP (fun t => t.address = d.address)
          returnTransaction := rest },
        [.returnReadData s.currentClockCycle t]) := by
  unfold returnPath at h
  split at h
  · exact .inl ⟨(Except.ok.inj h).symm, ‹_›⟩
  · rename_i d rest hd
    split at h
    · cases h
    · rename_i t ht
      exact .inr ⟨d, rest, t, hd, ht, (Except.ok.inj h).symm⟩

/-! ## Exits of the blocks -/

theorem sendWriteData_eq_error {s : State} {a : Abort} (h : sendWriteData cfg s = .error a) :
    a = .dataBusCollision := by
  unfold sendWriteData at h
  split at h
  · split at h
    · split at h
      · exact (Except.error.inj h).symm
      · cases h
    · cases h
  · cases h

/-- The write-data block: a head whose countdown runs out goes on the free data bus for `BL/2`
cycles and is counted against its bank; otherwise every countdown is decremented. -/
theorem sendWriteData_eq_ok {s s' : State} (h : sendWriteData cfg s = .ok s') :
    (∃ countdowns packet packets,
      s.writeDataCountdown.map (· - 1) = 0 :: countdowns ∧
      s.writeDataToSend = packet :: packets ∧ s.outgoingDataPacket = none ∧
      s' = { s with
        outgoingDataPacket := some packet
        dataCyclesLeft := cfg.BL / 2
        totalTransactions := s.totalTransactions + 1
        totalWritesPerBank := Function.update s.totalWritesPerBank
          (cfg.SEQUENTIAL packet.rank packet.bank)
          (s.totalWritesPerBank (cfg.SEQUENTIAL packet.rank packet.bank) + 1)
        writeDataCountdown := countdowns
        writeDataToSend := packets }) ∨
    ((∀ countdowns packet packets, s.writeDataCountdown.map (· - 1) = 0 :: countdowns →
        s.writeDataToSend ≠ packet :: packets) ∧
      s' = { s with writeDataCountdown := s.writeDataCountdown.map (· - 1) }) := by
  unfold sendWriteData at h
  split at h
  · rename_i countdown countdowns packet packets hc hp
    split at h
    · rename_i hzero
      subst hzero
      split at h
      · cases h
      · cases h
        exact .inl ⟨countdowns, packet, packets, hc, hp,
          Option.not_isSome_iff_eq_none.mp ‹_›, rfl⟩
    · cases h
      refine .inr ⟨fun cs p ps hc' hp' => ?_, by rw [hc]⟩
      rw [hc] at hc'
      exact ‹¬ countdown = 0› (List.cons.inj hc').1
  · rename_i hnot
    cases h
    exact .inr ⟨fun cs p ps hc hp => hnot 0 cs p ps hc hp, rfl⟩

theorem returnPath_eq_error {s : State} {a : Abort} (h : returnPath s = .error a) :
    ∃ address, a = .noMatchingTransaction address := by
  unfold returnPath at h
  split at h
  · cases h
  · split at h
    · exact ⟨_, (Except.error.inj h).symm⟩
    · cases h

theorem applyCommand_eq_error {packet : BusPacket} {s : State} {a : Abort}
    (h : applyCommand cfg packet s = .error a) : a = .poppedUnexpected .DATA := by
  unfold applyCommand at h
  split at h <;> cases h
  rfl

theorem issuePopped_eq_error {popped : Option BusPacket} {s : State} {a : Abort}
    (h : issuePopped cfg popped s = .error a) :
    a = .commandBusCollision ∨ a = .poppedUnexpected .DATA := by
  cases popped with
  | none => cases h
  | some packet =>
      simp only [issuePopped, issue, except_bind_eq_error] at h
      rcases h with h | ⟨applied, -, h⟩
      · exact .inr (applyCommand_eq_error h)
      · split at h
        · exact .inl (Except.error.inj h).symm
        · cases h

theorem admitTransaction_eq_error {hasRoomFor : Nat → Nat → Bool} {s : State} {a : Abort}
    (h : admitTransaction cfg hasRoomFor s = .error a) : a = .noBusPacketType := by
  unfold admitTransaction at h
  split at h
  · cases h
  · split at h
    · exact (Except.error.inj h).symm
    · cases h

theorem issuePopped_shape {popped : Option BusPacket} {s : State} {r : State × List Effect}
    (h : issuePopped cfg popped s = .ok r) :
    ∃ banks pending burst actpre refresh toSend countdowns packet cycles,
      r.1 = { s with
        bankStates := banks
        pendingReadTransactions := pending
        burstEnergy := burst
        actpreEnergy := actpre
        refreshEnergy := refresh
        writeDataToSend := toSend
        writeDataCountdown := countdowns
        outgoingCmdPacket := packet
        cmdCyclesLeft := cycles } := by
  rcases issuePopped_eq_ok h with ⟨-, rfl⟩ | ⟨p, -, hissue⟩
  · exact ⟨_, _, _, _, _, _, _, _, _, rfl⟩
  · obtain ⟨applied, happ, -, rfl⟩ := issue_eq_ok hissue
    obtain ⟨_, _, hq⟩ := @queueWriteData_shape cfg p s
    rw [hq] at happ
    obtain ⟨_, _, _, _, _, rfl⟩ := applyCommand_shape happ
    exact ⟨_, _, _, _, _, _, _, _, _, rfl⟩

theorem admitTransaction_shape {hasRoomFor : Nat → Nat → Bool} {s : State}
    {r : State × List Effect} (h : admitTransaction cfg hasRoomFor s = .ok r) :
    ∃ queue pending,
      r.1 = { s with transactionQueue := queue, pendingReadTransactions := pending } := by
  rcases admitTransaction_eq_ok h with rfl | ⟨_, _, _, _, rfl⟩ <;> exact ⟨_, _, rfl⟩

theorem returnPath_shape {s : State} {r : State × List Effect} (h : returnPath s = .ok r) :
    ∃ total pending returns,
      r.1 = { s with
        totalTransactions := total
        pendingReadTransactions := pending
        returnTransaction := returns } := by
  rcases returnPath_eq_ok h with ⟨rfl, -⟩ | ⟨_, _, _, _, _, rfl⟩ <;>
    exact ⟨_, _, _, rfl⟩

/-! ## Effects of the blocks -/

/-- A filter that drops what `f` ignores does not change `filterMap f`. -/
theorem filterMap_filter_of_none {β : Type} {p : Effect → Bool} {f : Effect → Option β}
    (hf : ∀ e, p e = false → f e = none) (l : List Effect) :
    (l.filter p).filterMap f = l.filterMap f := by
  rw [List.filterMap_filter]
  congr 1
  funext e
  cases he : p e
  · exact (hf e he).symm
  · rfl

theorem mem_updateBankStates_effects {s : State} {e : Effect}
    (h : e ∈ (updateBankStates cfg s).2) :
    ∃ i j, i < cfg.NUM_RANKS ∧ j < cfg.NUM_BANKS ∧
      (s.bankStates i j).endsAutoPrecharge = true ∧
      e = .autoPrecharge s.currentClockCycle i j := by
  simp only [updateBankStates, List.mem_flatMap, List.mem_map, List.mem_filter,
    List.mem_range] at h
  obtain ⟨i, hi, j, ⟨hj, hends⟩, rfl⟩ := h
  exact ⟨i, j, hi, hj, hends, rfl⟩

theorem mem_sendCommand_effects {s : State} {e : Effect} (h : e ∈ (sendCommand s).2) :
    ∃ packet, s.outgoingCmdPacket = some packet ∧ e = .deliver s.currentClockCycle packet := by
  unfold sendCommand at h
  split at h
  · simp at h
  · rename_i packet hp
    split at h <;> simp_all

theorem mem_sendData_effects {s : State} {e : Effect} (h : e ∈ (sendData s).2) :
    ∃ packet, s.outgoingDataPacket = some packet ∧
      (e = .writeDataDone s.currentClockCycle packet.physicalAddress ∨
        e = .deliver s.currentClockCycle packet) := by
  unfold sendData at h
  split at h
  · simp at h
  · rename_i packet hp
    split at h <;> simp_all

theorem mem_refreshGate_effects {s : State} {e : Effect} (h : e ∈ (refreshGate cfg s).2) :
    s.refreshCountdown s.refreshRank = 0 ∧
      e = .needRefresh s.currentClockCycle s.refreshRank := by
  unfold refreshGate at h
  dsimp only at h
  split at h
  · simp_all
  · split at h <;> simp at h

theorem mem_issuePopped_effects {popped : Option BusPacket} {s : State} {r : State × List Effect}
    {e : Effect} (h : issuePopped cfg popped s = .ok r) (he : e ∈ r.2) :
    ∃ packet, popped = some packet ∧ e = .issue s.currentClockCycle packet := by
  rcases issuePopped_eq_ok h with ⟨-, rfl⟩ | ⟨packet, rfl, hissue⟩
  · simp at he
  · obtain ⟨_, _, _, rfl⟩ := issue_eq_ok hissue
    exact ⟨packet, rfl, List.mem_singleton.mp he⟩

theorem mem_admitTransaction_effects {hasRoomFor : Nat → Nat → Bool} {s : State}
    {r : State × List Effect} {e : Effect} (h : admitTransaction cfg hasRoomFor s = .ok r)
    (he : e ∈ r.2) :
    (∃ t, e = .admission s.currentClockCycle t) ∨
      ∃ packet, e = .enqueue s.currentClockCycle packet := by
  rcases admitTransaction_eq_ok h with rfl | ⟨t, _, _, _, rfl⟩
  · simp at he
  · simp only [List.mem_cons, List.mem_singleton, List.not_mem_nil, or_false] at he
    rcases he with rfl | rfl | rfl
    · exact .inl ⟨t, rfl⟩
    · exact .inr ⟨_, rfl⟩
    · exact .inr ⟨_, rfl⟩

theorem mem_lowPower_effects {isEmpty : Nat → Bool} {s : State} {e : Effect}
    (h : e ∈ (lowPower cfg isEmpty s).2) :
    ∃ i, i < cfg.NUM_RANKS ∧
      (powerSwitch cfg (isEmpty i) s i = some .down ∧ e = .powerDown s.currentClockCycle i ∨
        powerSwitch cfg (isEmpty i) s i = some .up ∧ e = .powerUp s.currentClockCycle i) := by
  simp only [lowPower, List.mem_filterMap, List.mem_range] at h
  obtain ⟨i, hi, he⟩ := h
  simp only [hi, if_true, Option.map_eq_some'] at he
  obtain ⟨switch, hswitch, rfl⟩ := he
  cases switch with
  | down => exact ⟨i, hi, .inl ⟨hswitch, rfl⟩⟩
  | up => exact ⟨i, hi, .inr ⟨hswitch, rfl⟩⟩

theorem mem_returnPath_effects {s : State} {r : State × List Effect} {e : Effect}
    (h : returnPath s = .ok r) (he : e ∈ r.2) :
    ∃ t, e = .returnReadData s.currentClockCycle t := by
  rcases returnPath_eq_ok h with ⟨rfl, -⟩ | ⟨_, _, t, _, _, rfl⟩
  · simp at he
  · exact ⟨t, List.mem_singleton.mp he⟩

/-! ## One cycle, and one event -/

/-- The blocks of one successful `update()`, in order. -/
theorem update_eq_ok {input : UpdateInput} {s : State} {r : State × List Effect}
    (h : update cfg input s = .ok r) :
    ∃ written issued admitted returned,
      sendWriteData cfg (sendData (sendCommand (updateBankStates cfg s).1).1).1 = .ok written ∧
      issuePopped cfg input.popped (refreshGate cfg written).1 = .ok issued ∧
      admitTransaction cfg input.hasRoomFor issued.1 = .ok admitted ∧
      returnPath (lowPower cfg input.isEmpty admitted.1).1 = .ok returned ∧
      r = (decrementRefresh cfg returned.1,
        (updateBankStates cfg s).2 ++ (sendCommand (updateBankStates cfg s).1).2 ++
          (sendData (sendCommand (updateBankStates cfg s).1).1).2 ++ (refreshGate cfg written).2 ++
          issued.2 ++ admitted.2 ++ (lowPower cfg input.isEmpty admitted.1).2 ++ returned.2) := by
  simp only [update, except_bind_eq_ok] at h
  obtain ⟨written, hw, issued, hi, admitted, ha, returned, hr, heq⟩ := h
  exact ⟨written, issued, admitted, returned, hw, hi, ha, hr, (Except.ok.inj heq).symm⟩

/-- The state `update()` writes, before the clock advances. -/
theorem exec_update_eq_ok {input : UpdateInput} {s s' : State} {out : List Effect}
    (h : exec cfg (.update input) s = .ok (s', out)) :
    ∃ r, update cfg input s = .ok r ∧
      s' = { r.1 with currentClockCycle := r.1.currentClockCycle + 1 } ∧ out = r.2 := by
  simp only [exec] at h
  cases hu : update cfg input s with
  | error a => simp [hu, Except.map] at h
  | ok r =>
      simp only [hu, Except.map, Except.ok.injEq, Prod.mk.injEq] at h
      exact ⟨r, rfl, h.1.symm, h.2.symm⟩

/-! ## The bank table through one cycle -/

variable (cfg) in
/-- The bank table after the `switch` on the popped command, if one was popped. -/
def poppedBanks :
    Option BusPacket → Nat → (Nat → Nat → BankState) → Nat → Nat → BankState
  | none, _, banks => banks
  | some packet, c, banks =>
      match packet.busPacketType with
      | .READ | .READ_P => readBanks cfg packet c banks
      | .WRITE | .WRITE_P => writeBanks cfg packet c banks
      | .ACTIVATE => activateBanks cfg packet c banks
      | .PRECHARGE => prechargeBanks cfg packet c banks
      | .REFRESH => refreshBanks cfg packet c banks
      | .DATA => banks

theorem applyCommand_bankStates {packet : BusPacket} {s s' : State}
    (h : applyCommand cfg packet s = .ok s') :
    s'.bankStates = poppedBanks cfg (some packet) s.currentClockCycle s.bankStates := by
  unfold applyCommand at h
  cases hty : packet.busPacketType <;> simp only [hty] at h <;> cases h <;>
    simp only [poppedBanks, hty] <;> rfl

/-- The pop step changes the bank table only through the command's `switch`, and leaves
the power-down flags, the refresh flags and the clock alone. -/
theorem issuePopped_fields {popped : Option BusPacket} {s : State} {r : State × List Effect}
    (h : issuePopped cfg popped s = .ok r) :
    r.1.bankStates = poppedBanks cfg popped s.currentClockCycle s.bankStates ∧
      r.1.powerDown = s.powerDown ∧ r.1.refreshWaiting = s.refreshWaiting ∧
      r.1.currentClockCycle = s.currentClockCycle := by
  rcases issuePopped_eq_ok h with ⟨rfl, rfl⟩ | ⟨packet, rfl, hissue⟩
  · exact ⟨rfl, rfl, rfl, rfl⟩
  · obtain ⟨applied, happ, -, rfl⟩ := issue_eq_ok hissue
    obtain ⟨_, _, hq⟩ := @queueWriteData_shape cfg packet s
    rw [hq] at happ
    have hbanks := applyCommand_bankStates happ
    obtain ⟨_, _, _, _, _, rfl⟩ := applyCommand_shape happ
    exact ⟨hbanks, rfl, rfl, rfl⟩

/-- The blocks before the pop step write the bank table's countdowns, the buses, the
write-data FIFO with its statistics, and the refresh fields; nothing else. -/
theorem refreshGate_written_shape {s written : State}
    (hw : sendWriteData cfg (sendData (sendCommand (updateBankStates cfg s).1).1).1 = .ok written) :
    ∃ cmd cmdCycles data dataCycles total writes countdowns toSend waiting refresh rank,
      (refreshGate cfg written).1 = { s with
        bankStates := popBanks cfg s
        outgoingCmdPacket := cmd
        cmdCyclesLeft := cmdCycles
        outgoingDataPacket := data
        dataCyclesLeft := dataCycles
        totalTransactions := total
        totalWritesPerBank := writes
        writeDataCountdown := countdowns
        writeDataToSend := toSend
        refreshWaiting := waiting
        refreshCountdown := refresh
        refreshRank := rank } := by
  obtain ⟨_, _, _, _, _, _, rfl⟩ := sendWriteData_shape hw
  obtain ⟨_, _, hd⟩ := sendData_shape (sendCommand (updateBankStates cfg s).1).1
  obtain ⟨_, _, hc⟩ := sendCommand_shape (updateBankStates cfg s).1
  obtain ⟨_, _, _, hg⟩ := @refreshGate_shape cfg
    { (sendData (sendCommand (updateBankStates cfg s).1).1).1 with
      outgoingDataPacket := _, dataCyclesLeft := _, totalTransactions := _,
      totalWritesPerBank := _, writeDataCountdown := _, writeDataToSend := _ }
  rw [hg, hd, hc]
  exact ⟨_, _, _, _, _, _, _, _, _, _, _, rfl⟩

theorem issuePopped_effects {popped : Option BusPacket} {s : State} {r : State × List Effect}
    (h : issuePopped cfg popped s = .ok r) :
    r.2 = (popped.map (.issue s.currentClockCycle)).toList := by
  rcases issuePopped_eq_ok h with ⟨rfl, rfl⟩ | ⟨packet, rfl, hissue⟩
  · rfl
  · obtain ⟨_, _, _, rfl⟩ := issue_eq_ok hissue
    rfl

/-- One `update()` in three parts: the effects before the pop step (auto-precharges,
deliveries and the refresh call), the issued command, and the effects after it (admission,
the low-power switches and the return path); with `t` the state the low-power loop reads. -/
theorem update_anatomy {input : UpdateInput} {s : State} {r : State × List Effect}
    (hu : update cfg input s = .ok r) :
    ∃ t pre post,
      t.bankStates = poppedBanks cfg input.popped s.currentClockCycle (popBanks cfg s) ∧
      t.powerDown = s.powerDown ∧ t.currentClockCycle = s.currentClockCycle ∧
      r.1.bankStates = (lowPower cfg input.isEmpty t).1.bankStates ∧
      r.1.powerDown = (lowPower cfg input.isEmpty t).1.powerDown ∧
      r.2 = pre ++ (input.popped.map (.issue s.currentClockCycle)).toList ++ post ∧
      (∀ e ∈ pre,
        (∃ i j, i < cfg.NUM_RANKS ∧ j < cfg.NUM_BANKS ∧
          (s.bankStates i j).endsAutoPrecharge = true ∧
          e = .autoPrecharge s.currentClockCycle i j) ∨
        (∃ packet, e = .deliver s.currentClockCycle packet) ∨
        (∃ address, e = .writeDataDone s.currentClockCycle address) ∨
        ∃ rank, e = .needRefresh s.currentClockCycle rank) ∧
      (∀ e ∈ post, e ∈ (lowPower cfg input.isEmpty t).2 ∨
        (∃ x, e = .admission s.currentClockCycle x) ∨
        (∃ packet, e = .enqueue s.currentClockCycle packet) ∨
        ∃ x, e = .returnReadData s.currentClockCycle x) ∧
      ∀ e ∈ (lowPower cfg input.isEmpty t).2, e ∈ post := by
  obtain ⟨written, issued, admitted, returned, hw, hi, ha, hr, rfl⟩ := update_eq_ok hu
  obtain ⟨_, _, _, _, _, _, _, _, _, _, _, hgate⟩ := refreshGate_written_shape hw
  obtain ⟨hib, hip, -, hik⟩ := issuePopped_fields hi
  obtain ⟨_, _, ha'⟩ := admitTransaction_shape ha
  obtain ⟨_, _, _, hr'⟩ := returnPath_shape hr
  have hissued := issuePopped_effects hi
  rw [hgate] at hib hip hik hissued
  have hwk : written.currentClockCycle = s.currentClockCycle := by
    obtain ⟨_, _, _, hg⟩ := @refreshGate_shape cfg written
    have hclock := congrArg State.currentClockCycle (hg.symm.trans hgate)
    exact hclock
  refine ⟨admitted.1, (updateBankStates cfg s).2 ++ (sendCommand (updateBankStates cfg s).1).2 ++
      (sendData (sendCommand (updateBankStates cfg s).1).1).2 ++ (refreshGate cfg written).2,
    admitted.2 ++ (lowPower cfg input.isEmpty admitted.1).2 ++ returned.2,
    by rw [ha']; exact hib, by rw [ha']; exact hip, by rw [ha']; exact hik,
    by rw [hr']; rfl, by rw [hr']; rfl, by simp only [hissued, List.append_assoc], ?_, ?_,
    fun e he => by simp [he]⟩
  · intro e he
    simp only [List.mem_append] at he
    rcases he with ((he | he) | he) | he
    · obtain ⟨i, j, hi, hj, hends, rfl⟩ := mem_updateBankStates_effects he
      exact .inl ⟨i, j, hi, hj, hends, rfl⟩
    · obtain ⟨packet, -, rfl⟩ := mem_sendCommand_effects he
      exact .inr (.inl ⟨packet, rfl⟩)
    · have hck : (sendCommand (updateBankStates cfg s).1).1.currentClockCycle =
          s.currentClockCycle := by
        obtain ⟨_, _, hc⟩ := sendCommand_shape (updateBankStates cfg s).1
        rw [hc]
        rfl
      obtain ⟨packet, -, rfl | rfl⟩ := mem_sendData_effects he
      · exact .inr (.inr (.inl ⟨_, by rw [hck]⟩))
      · exact .inr (.inl ⟨packet, by rw [hck]⟩)
    · obtain ⟨-, rfl⟩ := mem_refreshGate_effects he
      exact .inr (.inr (.inr ⟨_, by rw [hwk]⟩))
  · intro e he
    simp only [List.mem_append] at he
    rcases he with (he | he) | he
    · have hk : issued.1.currentClockCycle = s.currentClockCycle := hik
      rcases mem_admitTransaction_effects ha he with ⟨x, rfl⟩ | ⟨packet, rfl⟩
      · exact .inr (.inl ⟨x, by rw [hk]⟩)
      · exact .inr (.inr (.inl ⟨packet, by rw [hk]⟩))
    · exact .inl he
    · obtain ⟨x, rfl⟩ := mem_returnPath_effects hr he
      refine .inr (.inr (.inr ⟨x, ?_⟩))
      rw [show (lowPower cfg input.isEmpty admitted.1).1.currentClockCycle =
        admitted.1.currentClockCycle from rfl, ha', hik]

end DramSim

namespace DramSim

variable {cfg : Config}

/-- The events other than `update()` only touch the transaction queues, the statistics,
the energies and the ranks' `refreshWaiting` flags, and only report themselves. -/
theorem exec_eq_ok_of_ne_update {e : Event} {s s' : State} {out : List Effect}
    (he : ∀ input, e ≠ .update input) (h : exec cfg e s = .ok (s', out)) :
    (∃ queue returns reads writes waiting background burst actpre refresh,
      s' = { s with
        transactionQueue := queue
        returnTransaction := returns
        totalReadsPerBank := reads
        totalWritesPerBank := writes
        refreshWaiting := waiting
        backgroundEnergy := background
        burstEnergy := burst
        actpreEnergy := actpre
        refreshEnergy := refresh }) ∧
    ∀ x ∈ out, (∃ t, x = .accept t) ∨ (∃ packet, x = .receive packet) ∨
      ∃ c, x = .resetStats c := by
  cases e with
  | addTransaction transactionType address =>
      simp only [exec, addTransaction, Except.ok.injEq, Prod.mk.injEq] at h
      obtain ⟨rfl, rfl⟩ := h
      split
      · exact ⟨⟨_, _, _, _, _, _, _, _, _, rfl⟩, by simp⟩
      · exact ⟨⟨_, _, _, _, _, _, _, _, _, rfl⟩, by simp⟩
  | receiveFromBus packet =>
      simp only [exec, receiveFromBus] at h
      split at h
      · simp [Except.map] at h
      · simp only [Except.map, Except.ok.injEq, Prod.mk.injEq] at h
        obtain ⟨rfl, rfl⟩ := h
        exact ⟨⟨_, _, _, _, _, _, _, _, _, rfl⟩, by simp⟩
  | refreshDone rank =>
      simp only [exec, Except.ok.injEq, Prod.mk.injEq] at h
      obtain ⟨rfl, rfl⟩ := h
      exact ⟨⟨_, _, _, _, _, _, _, _, _, rfl⟩, by simp⟩
  | resetStats =>
      simp only [exec, Except.ok.injEq, Prod.mk.injEq] at h
      obtain ⟨rfl, rfl⟩ := h
      exact ⟨⟨_, _, _, _, _, _, _, _, _, rfl⟩, by simp⟩
  | update input => exact absurd rfl (he input)

end DramSim
