import DramSim.WriteData
import DramSim.Power

/-! # Write bursts on the data bus in conventional mode

Write data goes on the data bus `WL` cycles after its WRITE or WRITE_P and holds it for
`BL/2` cycles; the write-data block exits with a data bus collision when the next write's data
is due while the bus is still busy. Nothing checks the spacing of the writes at the bus: it
rests on the column guards. In conventional mode a write holds the column guards of its rank's
banks and of the other ranks' open banks for at least `BL/2`, an ACTIVATE holds its bank's for
`tRCD − AL`, and a READ_P or WRITE_P reopens its own bank's only at its `nextActivate`. When
each of these bounds is at least `BL/2`, any two writes are issued `BL/2` apart, whatever their
ranks and banks, and the data bus never collides. Under SMART an ACTIVATE drops `tRCD`, and a
write leaves no guard on an Idle bank of another rank: two writes to two ranks can then
collide, as the last theorem shows.
-/

namespace DramSim

variable (cfg : Config)

/-- The timing parameters that keep the column guards a write leaves at least `BL/2` long:
the ACTIVATE-to-column delay, the write-to-read turnarounds within and across ranks, and the
write auto-precharge delay. -/
structure Config.WriteBurstsApart : Prop where
  rcd : (cfg.BL / 2).toNat ≤ (cfg.tRCD - cfg.AL).toNat
  wtr_bank : (cfg.BL / 2).toNat ≤ cfg.WRITE_TO_READ_DELAY_B.toNat
  wtr_rank : (cfg.BL / 2).toNat ≤ cfg.WRITE_TO_READ_DELAY_R.toNat
  autopre : (cfg.BL / 2).toNat ≤ cfg.WRITE_AUTOPRE_DELAY.toNat

/-- What the guard table remembers of the writes issued: every write is in the past and holds
both column guards of every open bank for `BL/2`; and the writes, in issue order, are each
`BL/2` after the ones before. -/
structure WriteSpacing (s : State) (writes : List (Nat × BusPacket)) : Prop where
  before : ∀ x ∈ writes, x.1 < s.currentClockCycle
  held : ∀ x ∈ writes, ∀ i < cfg.NUM_RANKS, ∀ j < cfg.NUM_BANKS,
    (s.bankStates i j).currentBankState = .RowActive →
      x.1 + (cfg.BL / 2).toNat ≤ (s.bankStates i j).nextRead ∧
        x.1 + (cfg.BL / 2).toNat ≤ (s.bankStates i j).nextWrite
  spaced : writes.Pairwise fun x y => x.1 + (cfg.BL / 2).toNat ≤ y.1

variable {cfg}

/-! ## The guards a write leaves -/

theorem toNat_le_toNat_max_left (a b : UInt32) : a.toNat ≤ (max a b).toNat := by
  show a.toNat ≤ (if a ≤ b then b else a).toNat
  split
  · rename_i h
    rw [UInt32.le_def, BitVec.le_def] at h
    exact h
  · exact le_rfl

/-- A write holds both column guards of every bank of its rank, and of every open bank of
the other ranks, for `BL/2`. -/
theorem writeBanks_held (hw : cfg.WriteBurstsApart) {p : BusPacket} {c i j : Nat}
    {banks : Nat → Nat → BankState} (hi : i < cfg.NUM_RANKS) (hj : j < cfg.NUM_BANKS)
    (hopen : i = p.rank ∨ (banks i j).currentBankState = .RowActive) :
    c + (cfg.BL / 2).toNat ≤ (writeBanks cfg p c banks i j).nextRead ∧
      c + (cfg.BL / 2).toNat ≤ (writeBanks cfg p c banks i j).nextWrite := by
  have hmax := toNat_le_toNat_max_left (cfg.BL / 2) cfg.tCCD
  obtain ⟨-, hb, hr, ha⟩ := hw
  simp only [writeBanks, setBank_apply, forEachBank_apply, hi, hj, and_self, if_true,
    ite_apply, writeGuards]
  split_ifs <;> simp_all

/-- A write leaves the state of every bank alone. -/
theorem writeBanks_currentBankState {p : BusPacket} {c i j : Nat}
    {banks : Nat → Nat → BankState} :
    (writeBanks cfg p c banks i j).currentBankState = (banks i j).currentBankState := by
  have h : (writeBanks cfg p c banks i j).mode = _ := writeBanks_mode
  rw [show (writeBanks cfg p c banks i j).currentBankState =
    (writeBanks cfg p c banks i j).mode.currentBankState from rfl, h]
  split_ifs <;> simp [BankMode.command, BankState.mode]

section Write

variable {banks : Nat → Nat → BankState} {p : BusPacket} {c : Nat}

theorem poppedBanks_of_isWrite (hwp : p.isWrite = true) :
    poppedBanks cfg (some p) c banks = writeBanks cfg p c banks := by
  simp only [BusPacket.isWrite, Bool.or_eq_true, decide_eq_true_eq] at hwp
  rcases hwp with hty | hty <;> simp only [poppedBanks, hty]

/-- The command queue pops a write only for an open bank, and no earlier than its
`nextWrite`. -/
theorem admits_due_of_isWrite (hwp : p.isWrite = true) (hadm : admits cfg banks p = true)
    (hdue : due cfg banks c p = true) :
    (banks p.rank p.bank).currentBankState = .RowActive ∧ (banks p.rank p.bank).nextWrite ≤ c := by
  simp only [BusPacket.isWrite, Bool.or_eq_true, decide_eq_true_eq] at hwp
  rcases hwp with hty | hty <;>
    simp_all [admits, due]

theorem mem_poppedWrite {popped : Option BusPacket} {n : Nat} {x : Nat × BusPacket}
    (hx : x ∈ poppedWrite popped n) : popped = some x.2 ∧ x.2.isWrite = true := by
  cases popped with
  | none => simp [poppedWrite] at hx
  | some p =>
      simp only [poppedWrite, Option.map_some', Option.toList_some, List.mem_filter,
        List.mem_singleton] at hx
      obtain ⟨rfl, hwp⟩ := hx
      exact ⟨rfl, hwp⟩

end Write

/-! ## Open banks through one cycle -/

section Step

variable {input : UpdateInput} {s : State} {r : State × List Effect} {i j : Nat}

/-- After one `update()` whose popped command is admitted, a bank is open only if it was
open before or the popped command is an ACTIVATE of it. -/
theorem update_rowActive (hs : BanksSettled cfg s)
    (hadm : ∀ p, input.popped = some p → admits cfg (popBanks cfg s) p = true)
    {t : State} (htb : t.bankStates =
      poppedBanks cfg input.popped s.currentClockCycle (popBanks cfg s))
    (hi : i < cfg.NUM_RANKS) (hj : j < cfg.NUM_BANKS)
    (hactive : (t.bankStates i j).currentBankState = .RowActive) :
    (s.bankStates i j).currentBankState = .RowActive ∨
      ∃ p, input.popped = some p ∧ p.busPacketType = .ACTIVATE ∧ p.rank = i ∧ p.bank = j := by
  have hpop : (popBanks cfg s i j).currentBankState = .RowActive →
      (s.bankStates i j).currentBankState = .RowActive := fun h => by
    rw [popBanks_apply hi hj, BankState.countdown_rowActive_iff (hs.settled i hi j hj)] at h
    exact h.1
  rw [htb] at hactive
  rcases hp : input.popped with _ | p
  · rw [hp] at hactive
    exact .inl (hpop hactive)
  · rw [hp] at hactive
    by_cases ht : p.Touches i j
    · have hmode : (poppedBanks cfg (some p) s.currentClockCycle (popBanks cfg s) i j
          ).currentBankState =
          ((popBanks cfg s i j).mode.command cfg p.busPacketType p.row).currentBankState :=
        congrArg BankMode.currentBankState (poppedBanks_mode_of_touches hj ht)
      rw [hmode] at hactive
      rcases BankMode.command_rowActive (admits_touches (hadm p hp) ht hj) hactive with
        hact | ⟨-, -, hopen⟩
      · obtain ⟨hrank, hbank | hrefresh⟩ := ht
        · exact .inr ⟨p, rfl, hact, hrank, hbank⟩
        · rw [hact] at hrefresh
          cases hrefresh
      · exact .inl (hpop hopen)
    · have hmode : (poppedBanks cfg (some p) s.currentClockCycle (popBanks cfg s) i j
          ).currentBankState = (popBanks cfg s i j).currentBankState :=
        congrArg BankMode.currentBankState (poppedBanks_mode_of_not_touches ht)
      exact .inl (hpop (hmode ▸ hactive))

/-- One `update()` in conventional mode whose popped command is admitted and due keeps the
write spacing: a write popped now is due only once the guards every earlier write left on
its open bank have passed; it leaves its own guards on every open bank; and an ACTIVATE opens
its bank with guards past every earlier write's. -/
theorem WriteSpacing.update (hsmart : cfg.isSmartMRAM = false) (hw : cfg.WriteBurstsApart)
    {log : List Effect} (h : WriteSpacing cfg s (writesIssued log)) (hs : BanksSettled cfg s)
    (hadm : ∀ p, input.popped = some p → admits cfg (popBanks cfg s) p = true)
    (hdue : ∀ p, input.popped = some p → due cfg (popBanks cfg s) s.currentClockCycle p = true)
    (hu : DramSim.update cfg input s = .ok r) :
    WriteSpacing cfg { r.1 with currentClockCycle := r.1.currentClockCycle + 1 }
      (writesIssued (log ++ r.2)) := by
  obtain ⟨t, -, -, htb, -, -, hrb, -, -, -, -, -⟩ := update_anatomy hu
  have hclock : r.1.currentClockCycle = s.currentClockCycle := (update_refresh hu).2.2.1
  -- an open bank after the update is as the pop step left it
  have hopen : ∀ i < cfg.NUM_RANKS, ∀ j < cfg.NUM_BANKS,
      (r.1.bankStates i j).currentBankState = .RowActive → r.1.bankStates i j = t.bankStates i j :=
    fun i hi j hj hact => by
      rw [hrb, lowPower_bankStates hi hj] at hact ⊢
      rw [BankState.switchPower_eq_none_of_rowActive hact]
      rfl
  have hkept : ∀ i j, (s.bankStates i j).GuardsKept (t.bankStates i j) := fun i j => by
    rw [htb]
    exact popBanks_kept.trans (poppedBanks_kept hsmart hdue)
  -- a write popped now comes BL/2 after every earlier write
  have hnew : ∀ x ∈ writesIssued log, ∀ y ∈ poppedWrite input.popped s.currentClockCycle,
      x.1 + (cfg.BL / 2).toNat ≤ y.1 := by
    intro x hx y hy
    obtain ⟨hp, hwp⟩ := mem_poppedWrite hy
    obtain ⟨hi, hj⟩ := admits_bounds (hadm y.2 hp)
    obtain ⟨hpop, hnext⟩ := admits_due_of_isWrite hwp (hadm y.2 hp) (hdue y.2 hp)
    rw [popBanks_apply hi hj, BankState.countdown_rowActive_iff (hs.settled _ hi _ hj)] at hpop
    obtain ⟨hr, hwr⟩ := h.held x hx _ hi _ hj hpop.1
    have hkeptw := ((@popBanks_kept cfg s y.2.rank y.2.bank).column _ hr hwr).2
    rw [fst_of_mem_poppedWrite hy]
    omega
  rw [update_writesIssued hu]
  refine ⟨fun x hx => ?_, fun x hx i hi j hj hact => ?_,
    List.pairwise_append.mpr ⟨h.spaced, ?_, hnew⟩⟩
  · show x.1 < r.1.currentClockCycle + 1
    rcases List.mem_append.mp hx with hx | hx
    · have := h.before x hx
      omega
    · rw [fst_of_mem_poppedWrite hx]
      omega
  · show x.1 + _ ≤ (r.1.bankStates i j).nextRead ∧ x.1 + _ ≤ (r.1.bankStates i j).nextWrite
    have hact' : (t.bankStates i j).currentBankState = .RowActive := hopen i hi j hj hact ▸ hact
    rw [hopen i hi j hj hact]
    rcases List.mem_append.mp hx with hx | hx
    · rcases update_rowActive hs hadm htb hi hj hact' with hold | ⟨p', hp', hact'', rfl, rfl⟩
      · obtain ⟨hr, hwr⟩ := h.held x hx i hi j hj hold
        exact (hkept i j).column _ hr hwr
      · -- the bank was opened by this very ACTIVATE, after the write
        have hbefore := h.before x hx
        have ht : t.bankStates p'.rank p'.bank =
            activateBanks cfg p' s.currentClockCycle (popBanks cfg s) p'.rank p'.bank := by
          rw [htb, hp']
          simp only [poppedBanks, hact'']
        obtain ⟨-, hr, hwr, -⟩ := @activateBanks_own cfg p' s.currentClockCycle
          (popBanks cfg s) hsmart
        rw [ht]
        have := hw.rcd
        omega
    · obtain ⟨hp, hwp⟩ := mem_poppedWrite hx
      rw [fst_of_mem_poppedWrite hx]
      rw [htb, hp, poppedBanks_of_isWrite hwp] at hact' ⊢
      rw [writeBanks_currentBankState] at hact'
      exact writeBanks_held hw hi hj (.inr hact')
  · -- one update issues at most one write
    rcases hp : input.popped with _ | p
    · simp [poppedWrite]
    · simp only [poppedWrite, Option.map_some', Option.toList_some]
      exact (List.pairwise_singleton _ _).sublist (List.filter_sublist _)

/-- The events other than `update()` leave the bank table and the clock alone and issue
nothing. -/
theorem WriteSpacing.exec (hsmart : cfg.isSmartMRAM = false) (hw : cfg.WriteBurstsApart)
    {log : List Effect} {e : Event} {s' : State} {out : List Effect}
    (h : WriteSpacing cfg s (writesIssued log)) (hs : BanksSettled cfg s)
    (hallowed : admittedDue cfg s log e = true) (hexec : exec cfg e s = .ok (s', out)) :
    WriteSpacing cfg s' (writesIssued (log ++ out)) := by
  by_cases he : ∃ input, e = .update input
  · obtain ⟨input, rfl⟩ := he
    obtain ⟨r, hu, rfl, rfl⟩ := exec_update_eq_ok hexec
    have hok : ∀ p, input.popped = some p → admits cfg (popBanks cfg s) p = true ∧
        due cfg (popBanks cfg s) s.currentClockCycle p = true :=
      fun p hp => by simpa [admittedDue, popsOnly, hp] using hallowed
    exact h.update hsmart hw hs (fun p hp => (hok p hp).1) (fun p hp => (hok p hp).2) hu
  · obtain ⟨⟨_, _, _, _, _, _, _, _, _, rfl⟩, hout⟩ :=
      exec_eq_ok_of_ne_update (fun input he' => he ⟨input, he'⟩) hexec
    have hquiet : out.filterMap Effect.issued = [] := List.filterMap_eq_nil_iff.mpr fun x hx => by
      rcases hout x hx with ⟨_, rfl⟩ | ⟨_, rfl⟩ | ⟨_, rfl⟩ <;> rfl
    have hW : writesIssued (log ++ out) = writesIssued log := by
      simp only [writesIssued, List.filterMap_append, hquiet, List.append_nil]
    rw [hW]
    exact ⟨h.before, h.held, h.spaced⟩

end Step

/-! ## Every run -/

/-- The write spacing along every run of a conventional controller whose command queue pops
only admitted commands, each no earlier than its guards. -/
theorem writeSpacing_of_run (hsmart : cfg.isSmartMRAM = false) (hw : cfg.WriteBurstsApart)
    {s : State} {log : List Effect} (hrun : Run cfg (admittedDue cfg) s log) :
    WriteSpacing cfg s (writesIssued log) := by
  induction hrun with
  | init => exact ⟨nofun, nofun, .nil⟩
  | step hrun hallowed hexec ih =>
      have hs := (banksSettled_of_run (hrun.mono fun _ _ _ => admitted_of_admittedDue)).1
      exact ih.exec hsmart hw hs hallowed hexec

/-- In conventional mode, along every run whose command queue pops only admitted commands,
each no earlier than its guards, the writes issued are each `BL/2` cycles after the ones
before, whatever their ranks and banks, when the ACTIVATE-to-column delay, the write-to-read
turnarounds and the write auto-precharge delay are each at least `BL/2`. -/
theorem writes_spaced (hsmart : cfg.isSmartMRAM = false) (hw : cfg.WriteBurstsApart)
    {s : State} {log : List Effect} (hrun : Run cfg (admittedDue cfg) s log) :
    (writesIssued log).Pairwise fun x y => x.1 + (cfg.BL / 2).toNat ≤ y.1 :=
  (writeSpacing_of_run hsmart hw hrun).spaced

set_option maxRecDepth 100000 in
/-- Bank 0 of rank 0 is activated at cycle 0 and written at 10 and again at 14, `BL/2` later,
as soon as its guard allows. -/
theorem writes_spaced_sample :
    ∃ s log, Run Config.sample (admittedDue Config.sample) s log ∧ Config.sample.WriteBurstsApart ∧
      writesIssued log = [(10, ⟨.WRITE, 0, 0, 0, 0, 0⟩), (14, ⟨.WRITE, 0, 0, 0, 0, 0⟩)] ∧
      (writesIssued log).Pairwise fun x y => x.1 + (Config.sample.BL / 2).toNat ≤ y.1 := by
  have hw : Config.sample.WriteBurstsApart := ⟨by decide, by decide, by decide, by decide⟩
  obtain ⟨s, log, hrun, hobserved⟩ := @exists_run_of_runEvents Config.sample
    (admittedDue Config.sample)
    ([.update ⟨some ⟨.ACTIVATE, 0, 0, 0, 0, 0⟩, fun _ _ => false, fun _ => false⟩] ++
      List.replicate 9 (.update ⟨none, fun _ _ => false, fun _ => false⟩) ++
      [.update ⟨some ⟨.WRITE, 0, 0, 0, 0, 0⟩, fun _ _ => false, fun _ => false⟩] ++
      List.replicate 3 (.update ⟨none, fun _ _ => false, fun _ => false⟩) ++
      [.update ⟨some ⟨.WRITE, 0, 0, 0, 0, 0⟩, fun _ _ => false, fun _ => false⟩])
    (fun _ log => decide
      (writesIssued log = [(10, ⟨.WRITE, 0, 0, 0, 0, 0⟩), (14, ⟨.WRITE, 0, 0, 0, 0, 0⟩)]))
    (by decide) (by decide)
  exact ⟨s, log, hrun, hw, of_decide_eq_true hobserved, writes_spaced rfl hw hrun⟩

/-! ## The data bus never collides -/

/-- The write-data block collides only when the head countdown runs out while data is still
on the bus. -/
theorem sendWriteData_error_shape {s : State} {a : Abort} (h : sendWriteData cfg s = .error a) :
    ∃ c cs p ps, s.writeDataCountdown = c :: cs ∧ c - 1 = 0 ∧ s.writeDataToSend = p :: ps ∧
      s.outgoingDataPacket.isSome = true := by
  unfold sendWriteData at h
  split at h
  · rename_i c0 cs0 p ps hc hp
    split_ifs at h with h0 hbus
    obtain ⟨c, cs, hcs, hc0, -⟩ := List.map_eq_cons_iff.mp hc
    exact ⟨c, cs, p, ps, hcs, hc0.trans h0, hp, hbus⟩
  · cases h

/-- Only the write-data block exits with a data bus collision. -/
theorem update_eq_dataBusCollision {input : UpdateInput} {s : State}
    (h : DramSim.update cfg input s = .error .dataBusCollision) :
    ∃ a, sendWriteData cfg (sendData (sendCommand (updateBankStates cfg s).1).1).1 = .error a := by
  simp only [DramSim.update, except_bind_eq_error] at h
  rcases h with
    hw | ⟨written, hw, hi | ⟨issued, -, ha | ⟨admitted, -, hr | ⟨_, -, hpure⟩⟩⟩⟩
  · exact ⟨_, hw⟩
  · rcases issuePopped_eq_error hi with h | h <;> cases h
  · cases admitTransaction_eq_error ha
  · obtain ⟨_, h⟩ := returnPath_eq_error hr
    cases h
  · cases hpure

/-- From a state whose write pipeline is as the log says and whose writes are `BL/2` apart, no
`update()` exits with a data bus collision, whatever it pops: the write whose data is due comes
`BL/2` after the one on the bus, whose data has left it by then. -/
theorem update_ne_dataBusCollision {s : State} {log : List Effect}
    (hpipe : WritePipeline cfg s log)
    (hspaced : (writesIssued log).Pairwise fun x y => x.1 + (cfg.BL / 2).toNat ≤ y.1)
    (input : UpdateInput) : DramSim.update cfg input s ≠ .error .dataBusCollision := by
  intro hu
  obtain ⟨a, herr⟩ := update_eq_dataBusCollision hu
  obtain ⟨c, cs, p, ps, hc, hc0, hp, hbus⟩ := sendWriteData_error_shape herr
  obtain ⟨hbus0, hleft0, hclock0, hfifo, hcount, -⟩ := @before_sendWriteData cfg s
  -- the write at the head of the FIFO is due now
  rw [hfifo, hpipe.waiting] at hp
  obtain ⟨x, xs, hwx, -, -⟩ := List.map_eq_cons_iff.mp hp
  have hcx := hpipe.countdowns
  rw [← hcount, hc, hwx] at hcx
  simp only [List.map_cons, List.cons.injEq] at hcx
  have hx : x ∈ writesIssued log ∧ s.currentClockCycle ≤ loadCycle cfg x := by
    have hmem : x ∈ waitingAt cfg s.currentClockCycle (writesIssued log) := by
      rw [hwx]
      exact List.mem_cons_self x xs
    simpa [waitingAt] using hmem
  have hxdue := (sub_one_eq_zero_iff (by omega)).mp hc0
  -- the write on the bus is still on it
  obtain ⟨hout, -⟩ := sendData_pipeline (hbus0.trans hpipe.on_bus) hpipe.single
    (fun y hy => hleft0 ▸ hpipe.cycles_left y hy)
    (fun y hy => (of_decide_eq_true (List.mem_filter.mp hy).2).2) hclock0
  rw [hout, List.head?_isSome, Ne, List.map_eq_nil_iff] at hbus
  obtain ⟨y, hy⟩ := List.exists_mem_of_ne_nil _ hbus
  have hy : y ∈ writesIssued log ∧ s.currentClockCycle < doneCycle cfg y ∧
      loadCycle cfg y < s.currentClockCycle ∧ s.currentClockCycle ≤ doneCycle cfg y := by
    simpa [onBusAt] using hy
  -- two writes issued fewer than BL/2 cycles apart
  have hR : Symmetric fun a b : Nat × BusPacket =>
      a.1 + (cfg.BL / 2).toNat ≤ b.1 ∨ b.1 + (cfg.BL / 2).toNat ≤ a.1 := fun _ _ h => h.symm
  have hxy := (hspaced.imp Or.inl).forall hR hx.1 hy.1
    fun h => by rw [h] at hx; omega
  have h2 : (2 : UInt32).toNat = 2 := rfl
  simp only [loadCycle, doneCycle, UInt32.toNat_div, h2] at hx hy hxy hcx
  omega

/-- In conventional mode, from every state of a run whose command queue pops only admitted
commands, each no earlier than its guards, no `update()` exits with a data bus collision,
whatever it pops. This holds when the ACTIVATE-to-column delay, the write-to-read turnarounds
and the write auto-precharge delay are each at least `BL/2`, `WL` is at least one cycle and
`BL` at least two. -/
theorem conventional_data_bus_free (hsmart : cfg.isSmartMRAM = false) (hw : cfg.WriteBurstsApart)
    (hWL : 1 ≤ cfg.WL.toNat) (hBL : 2 ≤ cfg.BL.toNat) {s : State} {log : List Effect}
    (hrun : Run cfg (admittedDue cfg) s log) (input : UpdateInput) :
    DramSim.update cfg input s ≠ .error .dataBusCollision :=
  update_ne_dataBusCollision
    (hrun.invariant _ writePipeline_init fun _ _ _ _ _ hinv _ hexec => hinv.exec hWL hBL hexec)
    (writeSpacing_of_run hsmart hw hrun).spaced input

set_option maxRecDepth 100000 in
/-- After the writes at 10 and 14, the first write's data is on the bus in its last cycle when
the second's countdown runs out at 23: that update frees the bus before it loads it. -/
theorem conventional_data_bus_free_sample :
    ∃ s log, Run Config.sample (admittedDue Config.sample) s log ∧
      s.currentClockCycle = 23 ∧ s.outgoingDataPacket.isSome = true ∧
      s.writeDataCountdown = [1] ∧
      DramSim.update Config.sample ⟨none, fun _ _ => false, fun _ => false⟩ s ≠
        .error .dataBusCollision := by
  have hw : Config.sample.WriteBurstsApart := ⟨by decide, by decide, by decide, by decide⟩
  obtain ⟨s, log, hrun, hobserved⟩ := @exists_run_of_runEvents Config.sample
    (admittedDue Config.sample)
    ([.update ⟨some ⟨.ACTIVATE, 0, 0, 0, 0, 0⟩, fun _ _ => false, fun _ => false⟩] ++
      List.replicate 9 (.update ⟨none, fun _ _ => false, fun _ => false⟩) ++
      [.update ⟨some ⟨.WRITE, 0, 0, 0, 0, 0⟩, fun _ _ => false, fun _ => false⟩] ++
      List.replicate 3 (.update ⟨none, fun _ _ => false, fun _ => false⟩) ++
      [.update ⟨some ⟨.WRITE, 0, 0, 0, 0, 0⟩, fun _ _ => false, fun _ => false⟩] ++
      List.replicate 8 (.update ⟨none, fun _ _ => false, fun _ => false⟩))
    (fun s _ => decide (s.currentClockCycle = 23 ∧ s.outgoingDataPacket.isSome = true ∧
      s.writeDataCountdown = [1]))
    (by decide) (by decide)
  obtain ⟨hclock, hbus, hcountdown⟩ := of_decide_eq_true hobserved
  exact ⟨s, log, hrun, hclock, hbus, hcountdown,
    conventional_data_bus_free rfl hw (by decide) (by decide) hrun _⟩

/-! ## Under SMART -/

set_option maxRecDepth 100000 in
/-- Under SMART, a WRITE to rank 0 at cycle 1 leaves the Idle bank 0 of rank 1 unguarded;
that bank is activated at cycle 2 and written at cycle 3, two cycles after the first
write where the guards ask for `BL/2 + tRTRS`. Nine updates later both bursts are due on
the data bus at once and the controller exits with a data bus collision. -/
theorem smart_writes_to_two_ranks_collide :
    3 - 1 < ({ Config.sample with isSmartMRAM := true }.BL / 2).toNat +
      { Config.sample with isSmartMRAM := true }.tRTRS.toNat ∧
    (∃ s log, Run { Config.sample with isSmartMRAM := true }
        (admittedDue { Config.sample with isSmartMRAM := true }) s log ∧
      Effect.issue 1 ⟨.WRITE, 0, 0, 0, 0, 0⟩ ∈ log ∧
      Effect.issue 3 ⟨.WRITE, 8192, 0, 0, 1, 0⟩ ∈ log) ∧
    runEvents { Config.sample with isSmartMRAM := true }
      ([.update ⟨some ⟨.ACTIVATE, 0, 0, 0, 0, 0⟩, fun _ _ => false, fun _ => false⟩,
        .update ⟨some ⟨.WRITE, 0, 0, 0, 0, 0⟩, fun _ _ => false, fun _ => false⟩,
        .update ⟨some ⟨.ACTIVATE, 8192, 0, 0, 1, 0⟩, fun _ _ => false, fun _ => false⟩,
        .update ⟨some ⟨.WRITE, 8192, 0, 0, 1, 0⟩, fun _ _ => false, fun _ => false⟩] ++
        List.replicate 9 (.update ⟨none, fun _ _ => false, fun _ => false⟩))
      (State.init { Config.sample with isSmartMRAM := true }) [] = .error .dataBusCollision := by
  refine ⟨by decide, ?_, rfl⟩
  obtain ⟨s, log, hrun, hobserved⟩ := @exists_run_of_runEvents
    { Config.sample with isSmartMRAM := true }
    (admittedDue { Config.sample with isSmartMRAM := true })
    [.update ⟨some ⟨.ACTIVATE, 0, 0, 0, 0, 0⟩, fun _ _ => false, fun _ => false⟩,
      .update ⟨some ⟨.WRITE, 0, 0, 0, 0, 0⟩, fun _ _ => false, fun _ => false⟩,
      .update ⟨some ⟨.ACTIVATE, 8192, 0, 0, 1, 0⟩, fun _ _ => false, fun _ => false⟩,
      .update ⟨some ⟨.WRITE, 8192, 0, 0, 1, 0⟩, fun _ _ => false, fun _ => false⟩]
    (fun _ log => decide (Effect.issue 1 ⟨.WRITE, 0, 0, 0, 0, 0⟩ ∈ log) &&
      decide (Effect.issue 3 ⟨.WRITE, 8192, 0, 0, 1, 0⟩ ∈ log))
    (by decide) (by decide)
  simp only [Bool.and_eq_true, decide_eq_true_eq] at hobserved
  exact ⟨s, log, hrun, hobserved⟩

end DramSim
