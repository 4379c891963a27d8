import DramSim.Frame

/-! # The energy accumulators

`update()` charges four per-rank accumulators: the burst energy for each READ, READ_P,
WRITE and WRITE_P, the activate-precharge energy for each row opened, the refresh energy for
each REFRESH, and the background energy in the low-power loop. Each amount is a formula over
the profile's `unsigned` currents and timings, evaluated in 32-bit arithmetic and added to a
`uint64_t` accumulator.

A conventional ACTIVATE charges the row energy when it issues; SMART defers it to the first
access after the ACTIVATE, but only the read path checks for that access: a WRITE or
WRITE_P never charges it, so a row opened only for writes, or written before it is read,
is never charged.

`Formula` reads each amount twice, as the code computes it and as an integer. The two agree
when no intermediate value leaves `[0, 2^32)`; a profile whose subtracted current is the
larger one (IDD5 below IDD3N) wraps instead, and one REFRESH then adds close to `2^32`.
-/

namespace DramSim

variable (cfg : Config)

/-! ## The activate-precharge energy -/

/-- Whether a command charges the activate-precharge energy, given its bank as the pop step
sees it. -/
def chargesActpre (b : BankState) : BusPacketType → Bool
  | .ACTIVATE => !cfg.isSmartMRAM
  | .READ | .READ_P => cfg.isSmartMRAM && b.lastCommand = .ACTIVATE
  | _ => false

/-- The activate-precharge energy after the popped command, if any. -/
def poppedActpre (popped : Option BusPacket) (s : State) : Nat → Nat :=
  match popped with
  | some p =>
      if chargesActpre cfg (s.bankStates p.rank p.bank) p.busPacketType then
        Function.update s.actpreEnergy p.rank
          (accumulate (s.actpreEnergy p.rank) cfg.actpreIncrement)
      else s.actpreEnergy
  | none => s.actpreEnergy

/-! ## The burst and refresh energies -/

/-- The amount a command adds to its rank's burst energy. -/
def burstCharge : BusPacketType → Option UInt32
  | .READ | .READ_P => some cfg.readBurstIncrement
  | .WRITE | .WRITE_P => some cfg.writeBurstIncrement
  | _ => none

/-- The amount a command adds to its rank's refresh energy. -/
def refreshCharge : BusPacketType → Option UInt32
  | .REFRESH => some cfg.refreshIncrement
  | _ => none

/-- A per-rank accumulator after the popped command, if any, given what each command type
adds to it. -/
def poppedCharge (amount : BusPacketType → Option UInt32) (energy : Nat → Nat) :
    Option BusPacket → Nat → Nat
  | some p =>
      match amount p.busPacketType with
      | some a => Function.update energy p.rank (accumulate (energy p.rank) a)
      | none => energy
  | none => energy

variable {cfg}

/-- The `switch` on the popped packet charges at most one amount to each accumulator, at
the packet's rank, and leaves the background energy alone. -/
theorem applyCommand_energies {p : BusPacket} {s s' : State}
    (h : applyCommand cfg p s = .ok s') :
    s'.burstEnergy = poppedCharge (burstCharge cfg) s.burstEnergy (some p) ∧
      s'.actpreEnergy = poppedActpre cfg (some p) s ∧
      s'.refreshEnergy = poppedCharge (refreshCharge cfg) s.refreshEnergy (some p) ∧
      s'.backgroundEnergy = s.backgroundEnergy := by
  unfold applyCommand at h
  cases hty : p.busPacketType <;> simp only [hty] at h <;> cases h <;>
    cases hsmart : cfg.isSmartMRAM <;>
    simp [poppedCharge, burstCharge, refreshCharge, poppedActpre, chargesActpre, hty, hsmart,
      issueRead, issueWrite, issueActivate, issuePrecharge, issueRefresh]

/-- The pop step's energies, whether or not a command was popped. -/
theorem issuePopped_energies {popped : Option BusPacket} {s : State} {r : State × List Effect}
    (h : issuePopped cfg popped s = .ok r) :
    r.1.burstEnergy = poppedCharge (burstCharge cfg) s.burstEnergy popped ∧
      r.1.actpreEnergy = poppedActpre cfg popped s ∧
      r.1.refreshEnergy = poppedCharge (refreshCharge cfg) s.refreshEnergy popped ∧
      r.1.backgroundEnergy = s.backgroundEnergy := by
  rcases issuePopped_eq_ok h with ⟨rfl, rfl⟩ | ⟨p, rfl, hissue⟩
  · exact ⟨rfl, rfl, rfl, rfl⟩
  · obtain ⟨applied, happ, -, rfl⟩ := issue_eq_ok hissue
    obtain ⟨_, _, hq⟩ := @queueWriteData_shape cfg p s
    rw [hq] at happ
    have hcharged := applyCommand_energies happ
    exact hcharged

/-- One `update()` charges the burst, activate-precharge and refresh energies only through
the popped command, judged on the bank table after the countdowns, and the background energy
only in the low-power loop. -/
theorem update_energies {input : UpdateInput} {s : State} {r : State × List Effect}
    (hu : update cfg input s = .ok r) :
    r.1.burstEnergy = poppedCharge (burstCharge cfg) s.burstEnergy input.popped ∧
      r.1.actpreEnergy =
        poppedActpre cfg input.popped { s with bankStates := popBanks cfg s } ∧
      r.1.refreshEnergy = poppedCharge (refreshCharge cfg) s.refreshEnergy input.popped ∧
      ∃ t : State, t.backgroundEnergy = s.backgroundEnergy ∧
        r.1.backgroundEnergy = (lowPower cfg input.isEmpty t).1.backgroundEnergy := by
  obtain ⟨written, issued, admitted, returned, hw, hi, ha, hr, rfl⟩ := update_eq_ok hu
  obtain ⟨_, _, _, _, _, _, rfl⟩ := sendWriteData_shape hw
  obtain ⟨_, _, hd⟩ := sendData_shape (sendCommand (updateBankStates cfg s).1).1
  obtain ⟨_, _, hc⟩ := sendCommand_shape (updateBankStates cfg s).1
  obtain ⟨_, _, _, hg⟩ := @refreshGate_shape cfg
    { (sendData (sendCommand (updateBankStates cfg s).1).1).1 with
      outgoingDataPacket := _, dataCyclesLeft := _, totalTransactions := _,
      totalWritesPerBank := _, writeDataCountdown := _, writeDataToSend := _ }
  rw [hg, hd, hc] at hi
  obtain ⟨hburst, hactpre, hrefresh, hbackground⟩ := issuePopped_energies hi
  obtain ⟨_, _, ha'⟩ := admitTransaction_shape ha
  obtain ⟨_, _, _, hr'⟩ := returnPath_shape hr
  have hreturned : returned.1.burstEnergy = issued.1.burstEnergy ∧
      returned.1.actpreEnergy = issued.1.actpreEnergy ∧
      returned.1.refreshEnergy = issued.1.refreshEnergy ∧
      returned.1.backgroundEnergy = (lowPower cfg input.isEmpty admitted.1).1.backgroundEnergy := by
    rw [hr', ha']
    exact ⟨rfl, rfl, rfl, rfl⟩
  exact ⟨hreturned.1.trans hburst, hreturned.2.1.trans hactpre, hreturned.2.2.1.trans hrefresh,
    admitted.1, by rw [ha']; exact hbackground, hreturned.2.2.2⟩

/-- No WRITE or WRITE_P changes `actpreEnergy`, in either technology: only the read path
charges the row energy SMART defers to the first access after an ACTIVATE. -/
theorem update_write_actpreEnergy {input : UpdateInput} {s : State} {r : State × List Effect}
    {p : BusPacket} (hp : input.popped = some p)
    (hwrite : p.busPacketType = .WRITE ∨ p.busPacketType = .WRITE_P)
    (hu : update cfg input s = .ok r) : r.1.actpreEnergy = s.actpreEnergy := by
  have hcharges : chargesActpre cfg (popBanks cfg s p.rank p.bank) p.busPacketType = false := by
    rcases hwrite with h | h <;> rw [h] <;> rfl
  rw [(update_energies hu).2.1, hp, poppedActpre]
  exact if_neg (by simpa using hcharges)

set_option maxRecDepth 100000 in
/-- Under SMART a row opened by an ACTIVATE and first accessed by a WRITE is never charged.
From construction the command queue pops an ACTIVATE of bank 0 of rank 0 at cycle 0, the only
thing the history records; the next update pops a WRITE to the bank, the first column command
since the ACTIVATE, and leaves `actpreEnergy` as it was, where the row energy is 11120. -/
theorem smart_write_after_activate_uncharged :
    { Config.sample with isSmartMRAM := true }.actpreIncrement.toNat = 11120 ∧
    ∃ s s' out, Run { Config.sample with isSmartMRAM := true }
        (admittedDue { Config.sample with isSmartMRAM := true }) s
        [.issue 0 ⟨.ACTIVATE, 0, 0, 0, 0, 0⟩] ∧
      admittedDue { Config.sample with isSmartMRAM := true } s [.issue 0 ⟨.ACTIVATE, 0, 0, 0, 0, 0⟩]
        (.update ⟨some ⟨.WRITE, 0, 0, 0, 0, 0⟩, fun _ _ => false, fun _ => false⟩) = true ∧
      exec { Config.sample with isSmartMRAM := true }
        (.update ⟨some ⟨.WRITE, 0, 0, 0, 0, 0⟩, fun _ _ => false, fun _ => false⟩) s =
          .ok (s', out) ∧
      Effect.issue 1 ⟨.WRITE, 0, 0, 0, 0, 0⟩ ∈ out ∧ s'.actpreEnergy 0 = s.actpreEnergy 0 := by
  refine ⟨by decide, ?_⟩
  obtain ⟨s, log, hrun, hobserved⟩ := @exists_run_of_runEvents
    { Config.sample with isSmartMRAM := true }
    (admittedDue { Config.sample with isSmartMRAM := true })
    [.update ⟨some ⟨.ACTIVATE, 0, 0, 0, 0, 0⟩, fun _ _ => false, fun _ => false⟩]
    (fun s log => decide (log = [.issue 0 ⟨.ACTIVATE, 0, 0, 0, 0, 0⟩]) &&
      admittedDue { Config.sample with isSmartMRAM := true } s log
        (.update ⟨some ⟨.WRITE, 0, 0, 0, 0, 0⟩, fun _ _ => false, fun _ => false⟩) &&
      observe (fun _ out => decide (Effect.issue 1 ⟨.WRITE, 0, 0, 0, 0, 0⟩ ∈ out))
        (exec { Config.sample with isSmartMRAM := true }
          (.update ⟨some ⟨.WRITE, 0, 0, 0, 0, 0⟩, fun _ _ => false, fun _ => false⟩) s))
    (by decide) (by decide)
  simp only [Bool.and_eq_true, decide_eq_true_eq] at hobserved
  obtain ⟨⟨rfl, hallowed⟩, hissued⟩ := hobserved
  cases hexec : exec { Config.sample with isSmartMRAM := true }
      (.update ⟨some ⟨.WRITE, 0, 0, 0, 0, 0⟩, fun _ _ => false, fun _ => false⟩) s with
  | error a => simp [hexec, observe] at hissued
  | ok r =>
      obtain ⟨s', out⟩ := r
      rw [hexec] at hissued
      obtain ⟨r, hu, rfl, rfl⟩ := exec_update_eq_ok hexec
      exact ⟨s, _, _, hrun, hallowed, hexec, of_decide_eq_true hissued,
        congrFun (update_write_actpreEnergy rfl (.inl rfl) hu) 0⟩

/-! ## The accumulators between resets -/

/-- The four per-rank energy accumulators. -/
inductive Accumulator
  | background | burst | actpre | refresh
  deriving DecidableEq, Repr

/-- An accumulator's per-rank values in a state. -/
def Accumulator.read : Accumulator → State → Nat → Nat
  | .background, s => s.backgroundEnergy
  | .burst, s => s.burstEnergy
  | .actpre, s => s.actpreEnergy
  | .refresh, s => s.refreshEnergy

/-- A value left as it was, or with some `unsigned` amount added modulo `2^64`. -/
def Charged (old new : Nat) : Prop :=
  new = old ∨ ∃ amount : UInt32, new = accumulate old amount

/-- A charge does not lower a value that has room for one more `unsigned` amount. -/
theorem Charged.le {old new : Nat} (h : Charged old new) (hroom : old + 2 ^ 32 ≤ 2 ^ 64) :
    old ≤ new := by
  rcases h with rfl | ⟨amount, rfl⟩
  · exact le_rfl
  · have hamount : amount.toNat < 2 ^ 32 := amount.toNat_lt_size
    rw [accumulate, Nat.mod_eq_of_lt (by omega)]
    omega

theorem charged_update (energy : Nat → Nat) (rank : Nat) (amount : UInt32) (i : Nat) :
    Charged (energy i) (Function.update energy rank (accumulate (energy rank) amount) i) := by
  by_cases hi : i = rank
  · subst hi
    exact .inr ⟨amount, Function.update_same _ _ _⟩
  · exact .inl (Function.update_noteq hi _ _)

theorem poppedCharge_charged (amount : BusPacketType → Option UInt32) (energy : Nat → Nat)
    (popped : Option BusPacket) (i : Nat) :
    Charged (energy i) (poppedCharge amount energy popped i) := by
  rcases popped with _ | p
  · exact .inl rfl
  · simp only [poppedCharge]
    cases amount p.busPacketType with
    | some a => exact charged_update _ _ _ _
    | none => exact .inl rfl

theorem poppedActpre_charged (popped : Option BusPacket) (s : State) (i : Nat) :
    Charged (s.actpreEnergy i) (poppedActpre cfg popped s i) := by
  rcases popped with _ | p
  · exact .inl rfl
  · simp only [poppedActpre]
    split
    · exact charged_update _ _ _ _
    · exact .inl rfl

theorem lowPower_charged (isEmpty : Nat → Bool) (s : State) (i : Nat) :
    Charged (s.backgroundEnergy i) ((lowPower cfg isEmpty s).1.backgroundEnergy i) := by
  unfold lowPower
  dsimp only
  split
  · exact .inr ⟨_, rfl⟩
  · exact .inl rfl

/-- Every event but `resetStats` leaves each accumulator as it was or adds an amount to it. -/
theorem exec_charged {e : Event} {s s' : State} {out : List Effect} (hreset : e ≠ .resetStats)
    (h : exec cfg e s = .ok (s', out)) (a : Accumulator) (i : Nat) :
    Charged (a.read s i) (a.read s' i) := by
  cases e with
  | update input =>
      obtain ⟨r, hu, rfl, -⟩ := exec_update_eq_ok h
      obtain ⟨hburst, hactpre, hrefresh, t, ht, hbackground⟩ := update_energies hu
      cases a with
      | background =>
          show Charged (s.backgroundEnergy i) (r.1.backgroundEnergy i)
          rw [hbackground, ← ht]
          exact lowPower_charged _ _ _
      | burst =>
          show Charged (s.burstEnergy i) (r.1.burstEnergy i)
          rw [hburst]
          exact poppedCharge_charged _ _ _ _
      | actpre =>
          show Charged (s.actpreEnergy i) (r.1.actpreEnergy i)
          rw [hactpre]
          exact poppedActpre_charged _ _ _
      | refresh =>
          show Charged (s.refreshEnergy i) (r.1.refreshEnergy i)
          rw [hrefresh]
          exact poppedCharge_charged _ _ _ _
  | resetStats => exact absurd rfl hreset
  | addTransaction transactionType address =>
      simp only [exec, Except.ok.injEq, Prod.mk.injEq] at h
      obtain ⟨rfl, -⟩ := h
      refine .inl ?_
      unfold addTransaction
      split <;> cases a <;> rfl
  | receiveFromBus packet =>
      simp only [exec, receiveFromBus] at h
      split at h
      · simp [Except.map] at h
      · simp only [Except.map, Except.ok.injEq, Prod.mk.injEq] at h
        obtain ⟨rfl, -⟩ := h
        exact .inl (by cases a <;> rfl)
  | refreshDone rank =>
      simp only [exec, Except.ok.injEq, Prod.mk.injEq] at h
      obtain ⟨rfl, -⟩ := h
      exact .inl (by cases a <;> rfl)

/-! ## The formulas, in 32 bits and in integers -/

/-- The operations the energy formulas apply. -/
inductive Op
  | add | sub | mul | div
  deriving DecidableEq, Repr

/-- An operation on `unsigned` values, as C++ computes it: modulo `2^32`, and division
rounding down. -/
def Op.eval32 : Op → UInt32 → UInt32 → UInt32
  | .add => (· + ·)
  | .sub => (· - ·)
  | .mul => (· * ·)
  | .div => (· / ·)

/-- An operation on integers. -/
def Op.exact : Op → Int → Int → Int
  | .add => (· + ·)
  | .sub => (· - ·)
  | .mul => (· * ·)
  | .div => (· / ·)

/-- A formula over `unsigned` profile values. -/
inductive Formula
  | value (x : UInt32)
  | op (o : Op) (a b : Formula)
  deriving Repr

instance : Coe UInt32 Formula := ⟨Formula.value⟩
instance (n : Nat) : OfNat Formula n := ⟨.value (.ofNat n)⟩
instance : Add Formula := ⟨.op .add⟩
instance : Sub Formula := ⟨.op .sub⟩
instance : Mul Formula := ⟨.op .mul⟩
instance : Div Formula := ⟨.op .div⟩

/-- A formula as the code computes it. -/
def Formula.eval32 : Formula → UInt32
  | .value x => x
  | .op o a b => o.eval32 a.eval32 b.eval32

/-- A formula's integer value. -/
def Formula.exact : Formula → Int
  | .value x => x.toNat
  | .op o a b => o.exact a.exact b.exact

/-- Whether every intermediate value of a formula lies in `[0, 2^32)`: no subtraction goes
below zero and no sum or product reaches `2^32`. -/
def Formula.fits : Formula → Bool
  | .value _ => true
  | .op o a b =>
      a.fits && b.fits && 0 ≤ o.exact a.exact b.exact && o.exact a.exact b.exact < 2 ^ 32

/-- Whether a formula has no division. -/
def Formula.divFree : Formula → Bool
  | .value _ => true
  | .op o a b => o != .div && a.divFree && b.divFree

namespace Config

variable (cfg : Config)

/-- `(IDD4R - IDD3N) * BL / 2 * NUM_DEVICES`. -/
def readBurstFormula : Formula :=
  ((cfg.IDD4R : Formula) - cfg.IDD3N) * cfg.BL / 2 * cfg.NUM_DEVICES

/-- `(IDD4W - IDD3N) * BL / 2 * NUM_DEVICES`. -/
def writeBurstFormula : Formula :=
  ((cfg.IDD4W : Formula) - cfg.IDD3N) * cfg.BL / 2 * cfg.NUM_DEVICES

/-- `(IDD0 * tRC - (IDD3N * tRAS + IDD2N * (tRC - tRAS))) * NUM_DEVICES`. -/
def actpreFormula : Formula :=
  ((cfg.IDD0 : Formula) * cfg.tRC -
    ((cfg.IDD3N : Formula) * cfg.tRAS + (cfg.IDD2N : Formula) * ((cfg.tRC : Formula) - cfg.tRAS))) *
    cfg.NUM_DEVICES

/-- `(IDD5 - IDD3N) * tRFC * NUM_DEVICES`. -/
def refreshFormula : Formula :=
  ((cfg.IDD5 : Formula) - cfg.IDD3N) * cfg.tRFC * cfg.NUM_DEVICES

/-- Whether the four energy formulas fit in 32 bits for this profile. -/
def energyFits : Bool :=
  cfg.readBurstFormula.fits && cfg.writeBurstFormula.fits && cfg.actpreFormula.fits &&
    cfg.refreshFormula.fits

theorem readBurstIncrement_eq : cfg.readBurstIncrement = cfg.readBurstFormula.eval32 := rfl

theorem writeBurstIncrement_eq : cfg.writeBurstIncrement = cfg.writeBurstFormula.eval32 := rfl

theorem actpreIncrement_eq : cfg.actpreIncrement = cfg.actpreFormula.eval32 := rfl

theorem refreshIncrement_eq : cfg.refreshIncrement = cfg.refreshFormula.eval32 := rfl

end Config

/-! ## When the 32-bit value is the integer one -/

theorem toNat_add_eq_emod (x y : UInt32) :
    ((x + y).toNat : Int) = (x.toNat + y.toNat) % 2 ^ 32 := by
  have h : (x + y).toNat = (x.toNat + y.toNat) % 2 ^ 32 := rfl
  rw [h]
  push_cast
  rfl

theorem toNat_sub_eq_emod (x y : UInt32) :
    ((x - y).toNat : Int) = (x.toNat - y.toNat) % 2 ^ 32 := by
  have h : (x - y).toNat = (2 ^ 32 - y.toNat + x.toNat) % 2 ^ 32 := rfl
  have hy : y.toNat ≤ 2 ^ 32 := y.toNat_lt_size.le
  rw [h, Int.natCast_mod, Nat.cast_add, Nat.cast_sub hy]
  push_cast
  omega

theorem toNat_mul_eq_emod (x y : UInt32) :
    ((x * y).toNat : Int) = (x.toNat * y.toNat) % 2 ^ 32 := by
  have h : (x * y).toNat = (x.toNat * y.toNat) % 2 ^ 32 := rfl
  rw [h]
  push_cast
  rfl

/-- Addition, subtraction and product are the integer ones modulo `2^32`. -/
theorem Op.eval32_eq_emod {o : Op} (hdiv : o ≠ .div) (x y : UInt32) :
    ((o.eval32 x y).toNat : Int) = o.exact x.toNat y.toNat % 2 ^ 32 := by
  cases o with
  | add => exact toNat_add_eq_emod x y
  | sub => exact toNat_sub_eq_emod x y
  | mul => exact toNat_mul_eq_emod x y
  | div => exact absurd rfl hdiv

/-- An operation whose integer result lies in `[0, 2^32)` computes it exactly. -/
theorem Op.eval32_eq_exact (o : Op) {x y : UInt32} (h0 : 0 ≤ o.exact x.toNat y.toNat)
    (h1 : o.exact x.toNat y.toNat < 2 ^ 32) :
    ((o.eval32 x y).toNat : Int) = o.exact x.toNat y.toNat := by
  by_cases hdiv : o = .div
  · subst hdiv
    simp only [Op.eval32, Op.exact, UInt32.toNat_div, Int.natCast_div]
  · rw [o.eval32_eq_emod hdiv, Int.emod_eq_of_lt h0 h1]

theorem Op.exact_emod {o : Op} (hdiv : o ≠ .div) (x y : Int) :
    o.exact (x % 2 ^ 32) (y % 2 ^ 32) % 2 ^ 32 = o.exact x y % 2 ^ 32 := by
  cases o with
  | add => exact (Int.add_emod x y _).symm
  | sub => exact (Int.sub_emod x y _).symm
  | mul => exact (Int.mul_emod x y _).symm
  | div => exact absurd rfl hdiv

/-- A formula that fits computes its integer value exactly. -/
theorem Formula.eval32_eq_exact : ∀ {f : Formula}, f.fits → (f.eval32.toNat : Int) = f.exact
  | .value _, _ => rfl
  | .op o a b, h => by
    simp only [fits, Bool.and_eq_true, decide_eq_true_eq] at h
    obtain ⟨⟨⟨ha, hb⟩, h0⟩, h1⟩ := h
    rw [← eval32_eq_exact ha, ← eval32_eq_exact hb] at h0 h1
    rw [eval32, exact, o.eval32_eq_exact h0 h1, eval32_eq_exact ha, eval32_eq_exact hb]

/-- A formula without division computes its integer value modulo `2^32`, whatever the
values. -/
theorem Formula.eval32_eq_emod : ∀ {f : Formula}, f.divFree →
    (f.eval32.toNat : Int) = f.exact % 2 ^ 32
  | .value x, _ => by
    have hx : x.toNat < 2 ^ 32 := x.toNat_lt_size
    simp only [eval32, exact]
    omega
  | .op o a b, h => by
    simp only [divFree, Bool.and_eq_true, bne_iff_ne, ne_eq] at h
    obtain ⟨⟨hdiv, ha⟩, hb⟩ := h
    rw [eval32, exact, o.eval32_eq_emod hdiv, eval32_eq_emod ha, eval32_eq_emod hb,
      o.exact_emod hdiv]

/-! ## What the energy code computes -/

variable (cfg) in
/-- The energy accounting of `update()` for one profile. Each update charges the popped
command's rank with the amounts the source's formulas give in 32-bit arithmetic, added
modulo `2^64`. For a profile that fits, the amounts are the formulas' integer values;
for any profile, the row and refresh amounts are those values modulo `2^32`. Between resets
no accumulator goes down while it has room for one more amount. -/
structure EnergyAccounting : Prop where
  /-- A READ or READ_P adds the read burst increment to its rank, a WRITE or WRITE_P the
  write one. -/
  burst : ∀ {input : UpdateInput} {s : State} {r : State × List Effect},
    update cfg input s = .ok r →
      r.1.burstEnergy = poppedCharge (burstCharge cfg) s.burstEnergy input.popped
  /-- The row energy is charged as `chargesActpre` says. -/
  actpre : ∀ {input : UpdateInput} {s : State} {r : State × List Effect},
    update cfg input s = .ok r →
      r.1.actpreEnergy = poppedActpre cfg input.popped { s with bankStates := popBanks cfg s }
  /-- A REFRESH adds the refresh increment to its rank. -/
  refresh : ∀ {input : UpdateInput} {s : State} {r : State × List Effect},
    update cfg input s = .ok r →
      r.1.refreshEnergy = poppedCharge (refreshCharge cfg) s.refreshEnergy input.popped
  /-- For a profile that fits, each increment is the integer value of its formula. -/
  exact : cfg.energyFits = true →
    (cfg.readBurstIncrement.toNat : Int) =
        (cfg.IDD4R.toNat - cfg.IDD3N.toNat) * cfg.BL.toNat / 2 * cfg.NUM_DEVICES.toNat ∧
      (cfg.writeBurstIncrement.toNat : Int) =
        (cfg.IDD4W.toNat - cfg.IDD3N.toNat) * cfg.BL.toNat / 2 * cfg.NUM_DEVICES.toNat ∧
      (cfg.actpreIncrement.toNat : Int) =
        (cfg.IDD0.toNat * cfg.tRC.toNat - (cfg.IDD3N.toNat * cfg.tRAS.toNat +
          cfg.IDD2N.toNat * (cfg.tRC.toNat - cfg.tRAS.toNat))) * cfg.NUM_DEVICES.toNat ∧
      (cfg.refreshIncrement.toNat : Int) =
        (cfg.IDD5.toNat - cfg.IDD3N.toNat) * cfg.tRFC.toNat * cfg.NUM_DEVICES.toNat
  /-- For every profile, the row and refresh increments are their formulas modulo `2^32`. -/
  wraps :
    (cfg.actpreIncrement.toNat : Int) =
        (cfg.IDD0.toNat * cfg.tRC.toNat - (cfg.IDD3N.toNat * cfg.tRAS.toNat +
          cfg.IDD2N.toNat * (cfg.tRC.toNat - cfg.tRAS.toNat))) * cfg.NUM_DEVICES.toNat %
          2 ^ 32 ∧
      (cfg.refreshIncrement.toNat : Int) =
        (cfg.IDD5.toNat - cfg.IDD3N.toNat) * cfg.tRFC.toNat * cfg.NUM_DEVICES.toNat % 2 ^ 32
  /-- No event but `resetStats` lowers an accumulator with room for one more amount. -/
  grows : ∀ {e : Event} {s s' : State} {out : List Effect}, e ≠ .resetStats →
    exec cfg e s = .ok (s', out) → ∀ (a : Accumulator) (i : Nat),
      a.read s i + 2 ^ 32 ≤ 2 ^ 64 → a.read s i ≤ a.read s' i

theorem energy_accounting (cfg : Config) : EnergyAccounting cfg where
  burst hu := (update_energies hu).1
  actpre hu := (update_energies hu).2.1
  refresh hu := (update_energies hu).2.2.1
  exact hfits := by
    simp only [Config.energyFits, Bool.and_eq_true] at hfits
    obtain ⟨⟨⟨hread, hwrite⟩, hactpre⟩, hrefresh⟩ := hfits
    rw [cfg.readBurstIncrement_eq, cfg.writeBurstIncrement_eq, cfg.actpreIncrement_eq,
      cfg.refreshIncrement_eq, Formula.eval32_eq_exact hread, Formula.eval32_eq_exact hwrite,
      Formula.eval32_eq_exact hactpre, Formula.eval32_eq_exact hrefresh]
    exact ⟨rfl, rfl, rfl, rfl⟩
  wraps := by
    have hactpre : cfg.actpreFormula.divFree = true := rfl
    have hrefresh : cfg.refreshFormula.divFree = true := rfl
    rw [cfg.actpreIncrement_eq, cfg.refreshIncrement_eq, Formula.eval32_eq_emod hactpre,
      Formula.eval32_eq_emod hrefresh]
    exact ⟨rfl, rfl⟩
  grows hreset h a i hroom := (exec_charged hreset h a i).le hroom

/-- The sample profile fits, so its increments are their formulas' integer values. -/
theorem energy_accounting_sample :
    Config.sample.energyFits = true ∧ EnergyAccounting Config.sample :=
  ⟨by decide, energy_accounting Config.sample⟩

set_option maxRecDepth 100000 in
/-- With IDD5 below IDD3N the refresh formula is −38520, but its 32-bit value is
`2^32 − 38520`, and the first REFRESH adds that to its rank's refresh energy. -/
theorem refresh_energy_wraps :
    { Config.sample with IDD5 := 0 }.refreshFormula.exact = -38520 ∧
    { Config.sample with IDD5 := 0 }.refreshIncrement.toNat = 4294928776 ∧
    ∃ s log, Run { Config.sample with IDD5 := 0 } (admittedDue { Config.sample with IDD5 := 0 })
        s log ∧
      Effect.issue 0 ⟨.REFRESH, 0, 0, 0, 0, 0⟩ ∈ log ∧ s.refreshEnergy 0 = 4294928776 := by
  refine ⟨by decide, by decide, ?_⟩
  obtain ⟨s, log, hrun, hobserved⟩ := @exists_run_of_runEvents { Config.sample with IDD5 := 0 }
    (admittedDue { Config.sample with IDD5 := 0 })
    [.update ⟨some ⟨.REFRESH, 0, 0, 0, 0, 0⟩, fun _ _ => false, fun _ => false⟩]
    (fun s log => decide (Effect.issue 0 ⟨.REFRESH, 0, 0, 0, 0, 0⟩ ∈ log) &&
      decide (s.refreshEnergy 0 = 4294928776))
    (by decide) (by decide)
  simp only [Bool.and_eq_true, decide_eq_true_eq] at hobserved
  exact ⟨s, log, hrun, hobserved.1, hobserved.2⟩

end DramSim
