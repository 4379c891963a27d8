import DramSim.CommandBus

/-! # The write-data pipeline

A WRITE or WRITE_P popped in update `k` queues its DATA packet in `writeDataToSend` with the
countdown `WL` in `writeDataCountdown`. Every update decrements every countdown and, when the
head's reaches 0, loads the head on the data bus for `BL/2` cycles; the data-bus countdown then
hands it to its rank with a `WriteDataDone` callback. Only the head is ever tested, so the
timing rests on an invariant of the whole FIFO. At the start of update `n` a write issued in
update `k` waits in the FIFO while `n ≤ k + WL`, with countdown `k + WL + 1 - n`; it is on the
data bus while `k + WL < n ≤ k + WL + BL/2`; and it has reached its rank, in update
`k + WL + BL/2`, once that is before `n`. `totalWritesPerBank` counts the writes loaded since
the last `resetStats`.
-/

namespace DramSim

/-! ## Writes in the effect log -/

/-- Whether a command is a WRITE or WRITE_P, whose data `update()` queues. -/
def BusPacket.isWrite (p : BusPacket) : Bool :=
  p.busPacketType = .WRITE || p.busPacketType = .WRITE_P

/-- The DATA packet `update()` queues for a write command. -/
def BusPacket.writeData (p : BusPacket) : BusPacket := { p with busPacketType := .DATA }

/-- The writes issued so far, in order, each with the update that issued it. -/
def writesIssued (log : List Effect) : List (Nat × BusPacket) :=
  (log.filterMap Effect.issued).filter fun x => x.2.isWrite

/-- The write the pop step of update `n` issues, if it popped a WRITE or WRITE_P. -/
def poppedWrite (popped : Option BusPacket) (n : Nat) : List (Nat × BusPacket) :=
  (popped.map fun p => (n, p)).toList.filter fun x => x.2.isWrite

/-- The cycle and packet of DATA handed to a rank. -/
def Effect.dataDelivered : Effect → Option (Nat × BusPacket)
  | .deliver c p => if p.busPacketType = .DATA then some (c, p) else none
  | _ => none

/-- The cycle and address of a `WriteDataDone` callback. -/
def Effect.writeDone : Effect → Option (Nat × Nat)
  | .writeDataDone c a => some (c, a)
  | _ => none

/-- The cycle of a `resetStats` call. -/
def Effect.resetAt : Effect → Option Nat
  | .resetStats c => some c
  | _ => none

/-- The cycle of the last `resetStats` call, 0 if there was none. -/
def lastReset (log : List Effect) : Nat := ((log.filterMap Effect.resetAt).getLast?).getD 0

/-! ## Where a write's data is at each update -/

section Pipeline

variable (cfg : Config)

/-- The update that loads a write's data on the data bus, `WL` updates after the write. -/
def loadCycle (x : Nat × BusPacket) : Nat := x.1 + cfg.WL.toNat

/-- The update that hands a write's data to its rank, `BL/2` updates after loading it. -/
def doneCycle (x : Nat × BusPacket) : Nat := x.1 + cfg.WL.toNat + cfg.BL.toNat / 2

/-- The writes whose data waits in `writeDataToSend` at the start of update `n`. -/
def waitingAt (n : Nat) (writes : List (Nat × BusPacket)) : List (Nat × BusPacket) :=
  writes.filter fun x => n ≤ loadCycle cfg x

/-- The writes whose data is on the data bus at the start of update `n`. -/
def onBusAt (n : Nat) (writes : List (Nat × BusPacket)) : List (Nat × BusPacket) :=
  writes.filter fun x => loadCycle cfg x < n ∧ n ≤ doneCycle cfg x

/-- The writes whose data reached its rank before update `n`. -/
def doneAt (n : Nat) (writes : List (Nat × BusPacket)) : List (Nat × BusPacket) :=
  writes.filter fun x => doneCycle cfg x < n

/-- The writes to counter `idx` loaded from update `first` up to, not including, update `n`. -/
def loadedTo (first n idx : Nat) (writes : List (Nat × BusPacket)) : List (Nat × BusPacket) :=
  writes.filter fun x =>
    first ≤ loadCycle cfg x ∧ loadCycle cfg x < n ∧ cfg.SEQUENTIAL x.2.rank x.2.bank = idx

/-- The first update `totalWritesPerBank[idx]` counts: `resetStats` clears the counters below
`NUM_RANKS * NUM_BANKS`. -/
def countedFrom (log : List Effect) (idx : Nat) : Nat :=
  if idx < cfg.NUM_RANKS * cfg.NUM_BANKS then lastReset log else 0

end Pipeline

/-! ## The pipeline advances one update -/

/-- In a list with increasing keys, a filter by `p or q` is the `p`-filter followed by the
`q`-filter when every `p`-element has a smaller key than every `q`-element. -/
theorem filter_eq_append_of_lt {α : Type} {g : α → Nat} {l : List α} {p q r : α → Bool}
    (hl : l.Pairwise fun x y => g x < g y) (hr : ∀ x ∈ l, r x = (p x || q x))
    (hpq : ∀ x ∈ l, ∀ y ∈ l, p x → q y → g x < g y) :
    l.filter r = l.filter p ++ l.filter q := by
  induction l with
  | nil => rfl
  | cons a l ih =>
      obtain ⟨ha, hl⟩ := List.pairwise_cons.mp hl
      have ih := ih hl (fun x hx => hr x (.tail _ hx))
        fun x hx y hy => hpq x (.tail _ hx) y (.tail _ hy)
      have hra := hr a (.head _)
      by_cases hpa : p a
      · have hqa : q a = false := Bool.eq_false_iff.mpr fun hqa =>
          lt_irrefl _ (hpq a (.head _) a (.head _) hpa hqa)
        simp [List.filter_cons, hra, hpa, hqa, ih]
      · by_cases hqa : q a
        · -- nothing after `a` passes `p`: its key would be both above and below `a`'s
          have hnil : l.filter p = [] := List.filter_eq_nil_iff.mpr fun x hx hpx =>
            lt_asymm (ha x hx) (hpq x (.tail _ hx) a (.head _) hpx hqa)
          simp [List.filter_cons, hra, hpa, hqa, ih, hnil]
        · simp [List.filter_cons, hra, hpa, hqa, ih]

section Advance

variable {cfg : Config} {n : Nat} {writes : List (Nat × BusPacket)}

theorem waitingAt_succ :
    waitingAt cfg (n + 1) writes =
      (waitingAt cfg n writes).filter fun x => n < loadCycle cfg x := by
  rw [waitingAt, waitingAt, List.filter_filter]
  refine List.filter_congr fun x _ => ?_
  rw [Bool.eq_iff_iff]
  simp only [Bool.and_eq_true, decide_eq_true_eq]
  omega

variable (hsorted : writes.Pairwise fun x y => x.1 < y.1)
include hsorted

/-- At the next update the data bus holds the write it held, unless that one is done, and
the write whose data was loaded now. -/
theorem onBusAt_succ (hBL : 2 ≤ cfg.BL.toNat) :
    onBusAt cfg (n + 1) writes =
      (onBusAt cfg n writes).filter (fun x => n < doneCycle cfg x) ++
        (waitingAt cfg n writes).filter fun x => loadCycle cfg x = n := by
  have hhalf : 1 ≤ cfg.BL.toNat / 2 := by omega
  rw [onBusAt, onBusAt, waitingAt, List.filter_filter, List.filter_filter]
  refine filter_eq_append_of_lt hsorted (fun x _ => ?_) fun x _ y _ hx hy => ?_
  · rw [Bool.eq_iff_iff]
    simp only [loadCycle, doneCycle, Bool.or_eq_true, Bool.and_eq_true, decide_eq_true_eq]
    omega
  · simp only [loadCycle, doneCycle, Bool.and_eq_true, decide_eq_true_eq] at hx hy
    omega

/-- At the next update the writes done are those done before and the one handed over now. -/
theorem doneAt_succ (hBL : 2 ≤ cfg.BL.toNat) :
    doneAt cfg (n + 1) writes =
      doneAt cfg n writes ++ (onBusAt cfg n writes).filter fun x => doneCycle cfg x = n := by
  have hhalf : 1 ≤ cfg.BL.toNat / 2 := by omega
  rw [doneAt, doneAt, onBusAt, List.filter_filter]
  refine filter_eq_append_of_lt hsorted (fun x _ => ?_) fun x _ y _ hx hy => ?_
  · rw [Bool.eq_iff_iff]
    simp only [loadCycle, doneCycle, Bool.or_eq_true, Bool.and_eq_true, decide_eq_true_eq]
    omega
  · simp only [loadCycle, doneCycle, Bool.and_eq_true, decide_eq_true_eq] at hx hy
    omega

/-- At the next update a counter has counted the write whose data was loaded now. -/
theorem loadedTo_succ {first idx : Nat} (hfirst : first ≤ n) :
    loadedTo cfg first (n + 1) idx writes = loadedTo cfg first n idx writes ++
      ((waitingAt cfg n writes).filter fun x => loadCycle cfg x = n).filter
        fun x => cfg.SEQUENTIAL x.2.rank x.2.bank = idx := by
  rw [loadedTo, loadedTo, waitingAt, List.filter_filter, List.filter_filter]
  refine filter_eq_append_of_lt hsorted (fun x _ => ?_) fun x _ y _ hx hy => ?_
  · rw [Bool.eq_iff_iff]
    simp only [loadCycle, Bool.or_eq_true, Bool.and_eq_true, decide_eq_true_eq]
    omega
  · simp only [loadCycle, Bool.and_eq_true, decide_eq_true_eq] at hx hy
    omega

end Advance

theorem fst_of_mem_poppedWrite {popped : Option BusPacket} {n : Nat} {x : Nat × BusPacket}
    (hx : x ∈ poppedWrite popped n) : x.1 = n := by
  cases popped <;> simp_all [poppedWrite]

/-- A write issued in the current update waits at the next one, and is neither on the bus nor
done nor counted there. -/
theorem poppedWrite_at_succ {cfg : Config} (hWL : 1 ≤ cfg.WL.toNat) (popped : Option BusPacket)
    (n first idx : Nat) (writes : List (Nat × BusPacket)) :
    waitingAt cfg (n + 1) (writes ++ poppedWrite popped n) =
        waitingAt cfg (n + 1) writes ++ poppedWrite popped n ∧
      onBusAt cfg (n + 1) (writes ++ poppedWrite popped n) = onBusAt cfg (n + 1) writes ∧
      doneAt cfg (n + 1) (writes ++ poppedWrite popped n) = doneAt cfg (n + 1) writes ∧
      loadedTo cfg first (n + 1) idx (writes ++ poppedWrite popped n) =
        loadedTo cfg first (n + 1) idx writes := by
  simp only [waitingAt, onBusAt, doneAt, loadedTo, List.filter_append]
  refine ⟨congrArg _ (List.filter_eq_self.mpr fun x hx => ?_),
    List.append_right_eq_self.mpr (List.filter_eq_nil_iff.mpr fun x hx => ?_),
    List.append_right_eq_self.mpr (List.filter_eq_nil_iff.mpr fun x hx => ?_),
    List.append_right_eq_self.mpr (List.filter_eq_nil_iff.mpr fun x hx => ?_)⟩ <;>
  · have := fst_of_mem_poppedWrite hx
    simp only [loadCycle, doneCycle, decide_eq_true_eq]
    omega

/-! ## The blocks on the write path -/

theorem toNat_sub_one_of_pos {c : UInt32} (h : 1 ≤ c.toNat) : (c - 1).toNat = c.toNat - 1 :=
  UInt32.toNat_sub_of_le c 1 (by rw [UInt32.le_def, BitVec.le_def]; exact h)

theorem sub_one_eq_zero_iff {c : UInt32} (h : 1 ≤ c.toNat) : c - 1 = 0 ↔ c.toNat = 1 := by
  constructor
  · intro h0
    have h0 := congrArg UInt32.toNat h0
    rw [toNat_sub_one_of_pos h] at h0
    simp only [UInt32.toNat_zero] at h0
    omega
  · intro h1
    apply UInt32.toNat.inj
    rw [toNat_sub_one_of_pos h, h1]
    rfl

section Blocks

variable {cfg : Config} {s : State} {n : Nat}

/-- The data-bus countdown on the pipeline: the write on the bus is handed to its rank, with
its `WriteDataDone`, in the update its `doneCycle` names, and otherwise stays one cycle
closer to it. -/
theorem sendData_pipeline {bus : List (Nat × BusPacket)}
    (hbus : s.outgoingDataPacket = (bus.map (·.2.writeData)).head?) (hsingle : bus.length ≤ 1)
    (hleft : ∀ x ∈ bus, s.dataCyclesLeft.toNat = doneCycle cfg x + 1 - n)
    (hdue : ∀ x ∈ bus, n ≤ doneCycle cfg x) (hclock : s.currentClockCycle = n) :
    (sendData s).1.outgoingDataPacket =
        ((bus.filter fun x => n < doneCycle cfg x).map (·.2.writeData)).head? ∧
      (∀ x ∈ bus, n < doneCycle cfg x →
        (sendData s).1.dataCyclesLeft.toNat = doneCycle cfg x + 1 - (n + 1)) ∧
      (sendData s).2.filterMap Effect.dataDelivered =
        (bus.filter fun x => doneCycle cfg x = n).map (fun x => (n, x.2.writeData)) ∧
      (sendData s).2.filterMap Effect.writeDone =
        (bus.filter fun x => doneCycle cfg x = n).map (fun x => (n, x.2.physicalAddress)) := by
  match bus, hsingle with
  | [], _ =>
      simp only [List.map_nil, List.head?_nil] at hbus
      simp only [sendData, hbus, List.filter_nil, List.map_nil, List.head?_nil, List.not_mem_nil,
        IsEmpty.forall_iff, implies_true, List.filterMap_nil, and_self]
  | [x], _ =>
      simp only [List.map_cons, List.map_nil, List.head?_cons] at hbus
      have hx := hleft x (.head _)
      have hn := hdue x (.head _)
      have hpos : 1 ≤ s.dataCyclesLeft.toNat := by omega
      by_cases hdone : doneCycle cfg x = n
      · have hzero : s.dataCyclesLeft - 1 = 0 := (sub_one_eq_zero_iff hpos).mpr (by omega)
        simp [sendData, hbus, hzero, hdone, hclock, Effect.dataDelivered, Effect.writeDone,
          BusPacket.writeData]
      · have hne : s.dataCyclesLeft - 1 ≠ 0 := fun h0 => by
          have := (sub_one_eq_zero_iff hpos).mp h0
          omega
        simp only [sendData, hbus, hne, if_false, List.filterMap_nil, List.filter_cons,
          List.filter_nil, List.mem_singleton, forall_eq]
        refine ⟨by simp [show n < doneCycle cfg x by omega], fun _ => ?_, by simp [hdone],
          by simp [hdone]⟩
        rw [toNat_sub_one_of_pos hpos]
        omega

/-- Countdowns that are all positive decrement without wrapping. -/
theorem map_toNat_sub_one {cs : List UInt32} (h : ∀ c ∈ cs, 1 ≤ c.toNat) :
    (cs.map (· - 1)).map UInt32.toNat = (cs.map UInt32.toNat).map (· - 1) := by
  simp only [List.map_map]
  exact List.map_congr_left fun c hc => toNat_sub_one_of_pos (h c hc)

/-- The write-data block on the pipeline: every countdown is decremented, and the head whose
load cycle is now goes on the data bus, which is then free, and is counted against its
bank. -/
theorem sendWriteData_pipeline {waiting : List (Nat × BusPacket)} {written : State}
    (hw : DramSim.sendWriteData cfg s = .ok written)
    (hsorted : waiting.Pairwise fun x y => x.1 < y.1)
    (hwaiting : s.writeDataToSend = waiting.map (·.2.writeData))
    (hcount : s.writeDataCountdown.map UInt32.toNat =
      waiting.map fun x => loadCycle cfg x + 1 - n)
    (hdue : ∀ x ∈ waiting, n ≤ loadCycle cfg x) :
    written.writeDataToSend = (waiting.filter fun x => n < loadCycle cfg x).map (·.2.writeData) ∧
      written.writeDataCountdown.map UInt32.toNat =
        (waiting.filter fun x => n < loadCycle cfg x).map
          (fun x => loadCycle cfg x + 1 - (n + 1)) ∧
      ((waiting.filter fun x => loadCycle cfg x = n) = [] ∧
          written.outgoingDataPacket = s.outgoingDataPacket ∧
          written.dataCyclesLeft = s.dataCyclesLeft ∧
          written.totalWritesPerBank = s.totalWritesPerBank ∨
        ∃ x, (waiting.filter fun x => loadCycle cfg x = n) = [x] ∧
          s.outgoingDataPacket = none ∧ written.outgoingDataPacket = some x.2.writeData ∧
          written.dataCyclesLeft = cfg.BL / 2 ∧
          written.totalWritesPerBank = Function.update s.totalWritesPerBank
            (cfg.SEQUENTIAL x.2.rank x.2.bank)
            (s.totalWritesPerBank (cfg.SEQUENTIAL x.2.rank x.2.bank) + 1)) := by
  have hpos : ∀ c ∈ s.writeDataCountdown, 1 ≤ c.toNat := fun c hc => by
    obtain ⟨x, hx, hcx⟩ := List.mem_map.mp (hcount ▸ List.mem_map_of_mem UInt32.toNat hc)
    have := hdue x hx
    omega
  have hdec : (s.writeDataCountdown.map (· - 1)).map UInt32.toNat =
      waiting.map fun x => loadCycle cfg x + 1 - (n + 1) := by
    rw [map_toNat_sub_one hpos, hcount, List.map_map]
    exact List.map_congr_left fun x _ => Nat.sub_sub _ n 1
  match waiting, hsorted with
  | [], _ =>
      have hnil : s.writeDataCountdown = [] := List.map_eq_nil_iff.mp hcount
      rcases sendWriteData_eq_ok hw with ⟨_, _, _, hc, -⟩ | ⟨-, rfl⟩
      · simp [hnil] at hc
      · exact ⟨hwaiting, hdec, .inl ⟨rfl, rfl, rfl, rfl⟩⟩
  | x :: rest, hsorted =>
      obtain ⟨hafter, -⟩ := List.pairwise_cons.mp hsorted
      obtain ⟨c, cs, hcs, hc, -⟩ := List.map_eq_cons_iff.mp hcount
      have hc : c.toNat = loadCycle cfg x + 1 - n := hc
      have hcpos : 1 ≤ c.toNat := hpos c (hcs ▸ .head _)
      have hrest : ∀ y ∈ rest, loadCycle cfg x < loadCycle cfg y := fun y hy => by
        have := hafter y hy
        simp only [loadCycle]
        omega
      by_cases hload : loadCycle cfg x = n
      · have hzero : c - 1 = 0 := (sub_one_eq_zero_iff hcpos).mpr (by omega)
        have hnow : (x :: rest).filter (fun y => loadCycle cfg y = n) = [x] := by
          rw [List.filter_cons_of_pos (by simpa using hload), List.filter_eq_nil_iff.mpr
            fun y hy => by simpa using (hload ▸ hrest y hy).ne']
        have hlater : (x :: rest).filter (fun y => n < loadCycle cfg y) = rest := by
          rw [List.filter_cons_of_neg (by simpa using hload.le), List.filter_eq_self.mpr
            fun y hy => by simpa using hload ▸ hrest y hy]
        rw [hnow, hlater]
        rcases sendWriteData_eq_ok hw with ⟨cs', p, ps, hc', hp, hfree, rfl⟩ | ⟨hnot, -⟩
        · rw [hwaiting, List.map_cons, List.cons.injEq] at hp
          obtain ⟨rfl, rfl⟩ := hp
          refine ⟨rfl, ?_, .inr ⟨x, rfl, hfree, rfl, rfl, rfl⟩⟩
          have := congrArg (List.map UInt32.toNat) hc'
          rw [hdec, List.map_cons] at this
          exact (List.cons.inj this).2.symm
        · exact absurd (by rw [hwaiting, List.map_cons])
            (hnot (cs.map (· - 1)) x.2.writeData (rest.map (·.2.writeData))
              (by rw [hcs, List.map_cons, hzero]))
      · have hnone : (x :: rest).filter (fun y => loadCycle cfg y = n) = [] :=
          List.filter_eq_nil_iff.mpr fun y hy => by
            rcases List.mem_cons.mp hy with rfl | hy
            · simpa using hload
            · have := hdue x (.head _)
              have := hrest y hy
              simp only [decide_eq_true_eq]
              omega
        have hall : (x :: rest).filter (fun y => n < loadCycle cfg y) = x :: rest :=
          List.filter_eq_self.mpr fun y hy => by
            have := hdue y hy
            rcases List.mem_cons.mp hy with rfl | hy
            · simp only [decide_eq_true_eq]
              omega
            · have := hrest y hy
              have := hdue x (.head _)
              simp only [decide_eq_true_eq]
              omega
        rw [hnone, hall]
        rcases sendWriteData_eq_ok hw with ⟨cs', p, ps, hc', -, -, -⟩ | ⟨-, rfl⟩
        · rw [hcs, List.map_cons, List.cons.injEq] at hc'
          have := (sub_one_eq_zero_iff hcpos).mp hc'.1
          exact absurd (by omega) hload
        · exact ⟨hwaiting, hdec, .inl ⟨rfl, rfl, rfl, rfl⟩⟩

/-- The pop step queues the data of a popped WRITE or WRITE_P with the countdown `WL`, and
leaves the data bus and the counters alone. -/
theorem issuePopped_writePath {popped : Option BusPacket} {r : State × List Effect}
    (h : issuePopped cfg popped s = .ok r) :
    r.1.writeDataToSend =
        s.writeDataToSend ++ (popped.toList.filter BusPacket.isWrite).map BusPacket.writeData ∧
      r.1.writeDataCountdown =
        s.writeDataCountdown ++ (popped.toList.filter BusPacket.isWrite).map (fun _ => cfg.WL) ∧
      r.1.outgoingDataPacket = s.outgoingDataPacket ∧ r.1.dataCyclesLeft = s.dataCyclesLeft ∧
      r.1.totalWritesPerBank = s.totalWritesPerBank := by
  rcases issuePopped_buses h with ⟨rfl, hb⟩ | ⟨p, rfl, -, -, hb⟩
  · simp only [State.buses, Buses.mk.injEq] at hb
    simp [hb]
  · simp only [State.buses, Buses.mk.injEq] at hb
    unfold queueWriteData at hb
    split at hb <;> simp_all [BusPacket.isWrite, BusPacket.writeData]

/-- The data-bus countdown and the write-data block see the buses, the FIFO, the counters and
the clock the update started with. -/
theorem before_sendWriteData (s : State) :
    (sendCommand (updateBankStates cfg s).1).1.outgoingDataPacket = s.outgoingDataPacket ∧
      (sendCommand (updateBankStates cfg s).1).1.dataCyclesLeft = s.dataCyclesLeft ∧
      (sendCommand (updateBankStates cfg s).1).1.currentClockCycle = s.currentClockCycle ∧
      (sendData (sendCommand (updateBankStates cfg s).1).1).1.writeDataToSend =
        s.writeDataToSend ∧
      (sendData (sendCommand (updateBankStates cfg s).1).1).1.writeDataCountdown =
        s.writeDataCountdown ∧
      (sendData (sendCommand (updateBankStates cfg s).1).1).1.totalWritesPerBank =
        s.totalWritesPerBank := by
  obtain ⟨_, _, hd⟩ := sendData_shape (sendCommand (updateBankStates cfg s).1).1
  obtain ⟨_, _, hc⟩ := sendCommand_shape (updateBankStates cfg s).1
  rw [hd, hc]
  exact ⟨rfl, rfl, rfl, rfl, rfl, rfl⟩

variable {input : UpdateInput} {r : State × List Effect}

/-- One `update()` on the write path: the write-data block runs on the state the bus
countdowns left, and the pop step appends to the FIFO. -/
theorem update_writePath (hu : update cfg input s = .ok r) :
    ∃ written, DramSim.sendWriteData cfg
        (sendData (sendCommand (updateBankStates cfg s).1).1).1 = .ok written ∧
      r.1.writeDataToSend = written.writeDataToSend ++
        (input.popped.toList.filter BusPacket.isWrite).map BusPacket.writeData ∧
      r.1.writeDataCountdown = written.writeDataCountdown ++
        (input.popped.toList.filter BusPacket.isWrite).map (fun _ => cfg.WL) ∧
      r.1.outgoingDataPacket = written.outgoingDataPacket ∧
      r.1.dataCyclesLeft = written.dataCyclesLeft ∧
      r.1.totalWritesPerBank = written.totalWritesPerBank ∧
      r.1.currentClockCycle = s.currentClockCycle := by
  obtain ⟨written, issued, hw, hi, hbuses, hclock, -⟩ := update_onBus hu
  obtain ⟨h1, h2, h3, h4, h5⟩ := issuePopped_writePath hi
  have hg := @refreshGate_buses cfg written
  simp only [State.buses, Buses.mk.injEq] at hbuses hg
  refine ⟨written, hw, ?_, ?_, ?_, ?_, ?_, hclock⟩ <;> simp only [hbuses, h1, h2, h3, h4, h5, hg]

theorem Effect.dataDelivered_of_onBus {e : Effect} (h : e.onBus = false) :
    e.dataDelivered = none := by
  cases e <;> first | rfl | simp [Effect.onBus] at h

theorem Effect.writeDone_of_onBus {e : Effect} (h : e.onBus = false) : e.writeDone = none := by
  cases e <;> first | rfl | simp [Effect.onBus] at h

/-- The DATA an `update()` hands to the ranks, and its `WriteDataDone` callbacks, come from the
data-bus countdown alone: the command bus carries no DATA. -/
theorem update_dataDelivered (hk : s.buses.Kinds) (hu : update cfg input s = .ok r) :
    r.2.filterMap Effect.dataDelivered =
        (sendData (sendCommand (updateBankStates cfg s).1).1).2.filterMap
          Effect.dataDelivered ∧
      r.2.filterMap Effect.writeDone =
        (sendData (sendCommand (updateBankStates cfg s).1).1).2.filterMap Effect.writeDone := by
  obtain ⟨_, issued, -, hi, -, -, hfilter⟩ := update_onBus hu
  have hcmd : ∀ e ∈ (sendCommand (updateBankStates cfg s).1).2,
      e.dataDelivered = none ∧ e.writeDone = none := fun e he => by
    obtain ⟨p, hp, rfl⟩ := mem_sendCommand_effects he
    exact ⟨by simp [Effect.dataDelivered, hk.command p hp], rfl⟩
  have hpop : ∀ e ∈ issued.2, e.dataDelivered = none ∧ e.writeDone = none := fun e he => by
    obtain ⟨_, -, rfl⟩ := mem_issuePopped_effects hi he
    exact ⟨rfl, rfl⟩
  constructor
  · rw [← filterMap_filter_of_none (fun _ => Effect.dataDelivered_of_onBus), hfilter,
      List.filterMap_append, List.filterMap_append,
      List.filterMap_eq_nil_iff.mpr fun e he => (hcmd e he).1,
      List.filterMap_eq_nil_iff.mpr fun e he => (hpop e he).1, List.nil_append, List.append_nil]
  · rw [← filterMap_filter_of_none (fun _ => Effect.writeDone_of_onBus), hfilter,
      List.filterMap_append, List.filterMap_append,
      List.filterMap_eq_nil_iff.mpr fun e he => (hcmd e he).2,
      List.filterMap_eq_nil_iff.mpr fun e he => (hpop e he).2, List.nil_append, List.append_nil]

/-- The writes an `update()` issues: the popped command, if it is a WRITE or WRITE_P. -/
theorem update_writesIssued {log : List Effect} (hu : update cfg input s = .ok r) :
    writesIssued (log ++ r.2) =
      writesIssued log ++ poppedWrite input.popped s.currentClockCycle := by
  simp only [writesIssued, poppedWrite, List.filterMap_append, update_issued hu,
    List.filter_append]

/-- No `update()` calls `resetStats`. -/
theorem update_resetAt (hu : update cfg input s = .ok r) : r.2.filterMap Effect.resetAt = [] := by
  obtain ⟨t, pre, post, -, -, -, -, -, hr2, hpre, hpost, -⟩ := update_anatomy hu
  refine List.filterMap_eq_nil_iff.mpr fun e he => ?_
  rw [hr2, List.mem_append, List.mem_append] at he
  rcases he with (he | he) | he
  · rcases hpre e he with ⟨_, _, _, _, _, rfl⟩ | ⟨_, rfl⟩ | ⟨_, rfl⟩ | ⟨_, rfl⟩ <;> rfl
  · cases hp : input.popped <;> simp only [hp, Option.map_none', Option.map_some',
      Option.toList_none, Option.toList_some, List.not_mem_nil, List.mem_singleton] at he
    rw [he]
    rfl
  · rcases hpost e he with hl | ⟨_, rfl⟩ | ⟨_, rfl⟩ | ⟨_, rfl⟩
    · obtain ⟨_, _, ⟨-, rfl⟩ | ⟨-, rfl⟩⟩ := mem_lowPower_effects hl <;> rfl
    all_goals rfl

/-- What the pop step queues is the data of the write it issues, with the countdown `WL`. -/
theorem popped_writeData (popped : Option BusPacket) (n : Nat) :
    (popped.toList.filter BusPacket.isWrite).map BusPacket.writeData =
        (poppedWrite popped n).map (·.2.writeData) ∧
      ((popped.toList.filter BusPacket.isWrite).map fun _ => cfg.WL).map UInt32.toNat =
        (poppedWrite popped n).map fun x => loadCycle cfg x + 1 - (n + 1) := by
  cases popped with
  | none => exact ⟨rfl, rfl⟩
  | some p => by_cases hp : p.isWrite <;> simp [poppedWrite, List.filter_cons, hp, loadCycle]

theorem lastReset_append {log out : List Effect} (h : out.filterMap Effect.resetAt = []) :
    lastReset (log ++ out) = lastReset log := by
  simp [lastReset, List.filterMap_append, h]

theorem lastReset_resetStats {log : List Effect} {c : Nat} :
    lastReset (log ++ [.resetStats c]) = c := by
  simp [lastReset, List.filterMap_append, Effect.resetAt]

end Blocks

/-! ## The pipeline along a run -/

/-- The write path between two events, at the start of update `n`, the clock: the buses carry
their kinds of packets; the writes issued so far are in issue order and before `n`, as is the
last reset; the FIFO holds the data of the waiting writes with their countdowns; the data bus
holds the data of the one write on it, with its cycles left; the DATA handed to the ranks and
the `WriteDataDone` callbacks are those of the writes done, at their done cycles; and each
counter counts the writes to it loaded since it was last cleared. -/
structure WritePipeline (cfg : Config) (s : State) (log : List Effect) : Prop where
  kinds : s.buses.Kinds
  sorted : (writesIssued log).Pairwise fun x y => x.1 < y.1
  issued_before : ∀ x ∈ writesIssued log, x.1 < s.currentClockCycle
  reset_before : lastReset log ≤ s.currentClockCycle
  waiting : s.writeDataToSend =
    (waitingAt cfg s.currentClockCycle (writesIssued log)).map (·.2.writeData)
  countdowns : s.writeDataCountdown.map UInt32.toNat =
    (waitingAt cfg s.currentClockCycle (writesIssued log)).map
      fun x => loadCycle cfg x + 1 - s.currentClockCycle
  on_bus : s.outgoingDataPacket =
    ((onBusAt cfg s.currentClockCycle (writesIssued log)).map (·.2.writeData)).head?
  single : (onBusAt cfg s.currentClockCycle (writesIssued log)).length ≤ 1
  cycles_left : ∀ x ∈ onBusAt cfg s.currentClockCycle (writesIssued log),
    s.dataCyclesLeft.toNat = doneCycle cfg x + 1 - s.currentClockCycle
  delivered : log.filterMap Effect.dataDelivered =
    (doneAt cfg s.currentClockCycle (writesIssued log)).map
      fun x => (doneCycle cfg x, x.2.writeData)
  write_done : log.filterMap Effect.writeDone =
    (doneAt cfg s.currentClockCycle (writesIssued log)).map
      fun x => (doneCycle cfg x, x.2.physicalAddress)
  counted : ∀ idx, s.totalWritesPerBank idx =
    (loadedTo cfg (countedFrom cfg log idx) s.currentClockCycle idx (writesIssued log)).length

section Run

variable {cfg : Config} {input : UpdateInput} {s s' : State} {log out : List Effect}
  {r : State × List Effect}

/-- One `update()` moves the pipeline one update on: the write due on the data bus reaches its
rank, the write due in the FIFO goes on the bus, and the write popped joins the FIFO. -/
theorem WritePipeline.update (hWL : 1 ≤ cfg.WL.toNat) (hBL : 2 ≤ cfg.BL.toNat)
    (h : WritePipeline cfg s log) (hu : update cfg input s = .ok r) :
    WritePipeline cfg { r.1 with currentClockCycle := r.1.currentClockCycle + 1 } (log ++ r.2) := by
  obtain ⟨written, hw, hsend, hcount, hbus, hleft, hwrites, hclock⟩ := update_writePath hu
  obtain ⟨hdel, hdone⟩ := update_dataDelivered h.kinds hu
  obtain ⟨h₀bus, h₀left, h₀clock, h₁send, h₁count, h₁writes⟩ := @before_sendWriteData cfg s
  -- the data-bus countdown, then the write-data block
  obtain ⟨hD1, hD2, hD3, hD4⟩ := @sendData_pipeline cfg _ s.currentClockCycle
    (onBusAt cfg s.currentClockCycle (writesIssued log)) (h₀bus.trans h.on_bus) h.single
    (fun x hx => by rw [h₀left]; exact h.cycles_left x hx)
    (fun x hx => (of_decide_eq_true (List.mem_filter.mp hx).2).2) h₀clock
  obtain ⟨hW1, hW2, hW3⟩ := @sendWriteData_pipeline cfg _ s.currentClockCycle
    (waitingAt cfg s.currentClockCycle (writesIssued log)) _ hw
    (h.sorted.sublist (List.filter_sublist _))
    (h₁send.trans h.waiting) (by rw [h₁count]; exact h.countdowns)
    fun x hx => of_decide_eq_true (List.mem_filter.mp hx).2
  obtain ⟨hfD, hfC⟩ := @popped_writeData cfg input.popped s.currentClockCycle
  have hW' : writesIssued (log ++ r.2) =
      writesIssued log ++ poppedWrite input.popped s.currentClockCycle := update_writesIssued hu
  have hlast : lastReset (log ++ r.2) = lastReset log := lastReset_append (update_resetAt hu)
  have hfrom : ∀ idx, countedFrom cfg log idx ≤ s.currentClockCycle := fun idx => by
    unfold countedFrom
    split
    · exact h.reset_before
    · exact Nat.zero_le _
  have hfresh := fun first idx =>
    poppedWrite_at_succ hWL input.popped s.currentClockCycle first idx (writesIssued log)
  have hcounted : ∀ idx, countedFrom cfg (log ++ r.2) idx = countedFrom cfg log idx := fun idx => by
    simp only [countedFrom, hlast]
  -- the write on the bus stays there only when no write is loaded
  have hkept : ∀ x, (waitingAt cfg s.currentClockCycle (writesIssued log)).filter
      (fun y => loadCycle cfg y = s.currentClockCycle) = [x] →
      (onBusAt cfg s.currentClockCycle (writesIssued log)).filter
        (fun y => s.currentClockCycle < doneCycle cfg y) = [] := fun x hx => by
    rcases hW3 with ⟨hnone, -⟩ | ⟨y, -, hfree, -⟩
    · rw [hnone] at hx
      cases hx
    · have hfree := hD1.symm.trans hfree
      rwa [List.head?_eq_none_iff, List.map_eq_nil_iff] at hfree
  refine ⟨h.kinds.update hu, ?_, ?_, ?_, ?_, ?_, ?_, ?_, ?_, ?_, ?_, ?_⟩ <;>
    simp only [hclock, hW', hlast, hcounted]
  · exact List.pairwise_append.mpr ⟨h.sorted,
      List.Pairwise.sublist (List.filter_sublist _) (by cases input.popped <;> simp),
      fun x hx y hy => fst_of_mem_poppedWrite hy ▸ h.issued_before x hx⟩
  · intro x hx
    rcases List.mem_append.mp hx with hx | hx
    · exact Nat.lt_succ_of_lt (h.issued_before x hx)
    · exact (fst_of_mem_poppedWrite hx).trans_lt (Nat.lt_succ_self _)
  · exact Nat.le_succ_of_le h.reset_before
  · rw [(hfresh 0 0).1, waitingAt_succ, List.map_append, hsend, hW1, hfD]
  · rw [(hfresh 0 0).1, waitingAt_succ, List.map_append, hcount, List.map_append, hW2, hfC]
  · rw [(hfresh 0 0).2.1, onBusAt_succ h.sorted hBL, hbus]
    rcases hW3 with ⟨hnone, hout, -⟩ | ⟨x, hx, -, hout, -⟩
    · rw [hnone, List.append_nil, hout, hD1]
    · rw [hx, hkept x hx, hout]
      rfl
  · rw [(hfresh 0 0).2.1, onBusAt_succ h.sorted hBL, List.length_append]
    rcases hW3 with ⟨hnone, -⟩ | ⟨x, hx, -⟩
    · rw [hnone, List.length_nil, Nat.add_zero]
      exact (List.length_filter_le _ _).trans h.single
    · rw [hx, hkept x hx]
      rfl
  · intro x hx
    rw [(hfresh 0 0).2.1, onBusAt_succ h.sorted hBL] at hx
    rw [hleft]
    rcases hW3 with ⟨hnone, -, hcyc, -⟩ | ⟨y, hy, -, -, hcyc, -⟩
    · rw [hnone, List.append_nil] at hx
      obtain ⟨hx, hlater⟩ := List.mem_filter.mp hx
      rw [hcyc]
      exact hD2 x hx (of_decide_eq_true hlater)
    · rw [hy, hkept y hy, List.nil_append, List.mem_singleton] at hx
      subst hx
      have hmem : x ∈ (waitingAt cfg s.currentClockCycle (writesIssued log)).filter
          fun y => loadCycle cfg y = s.currentClockCycle := by
        rw [hy]
        exact List.mem_singleton_self x
      have hload := of_decide_eq_true (List.mem_filter.mp hmem).2
      rw [hcyc, UInt32.toNat_div]
      simp only [loadCycle, doneCycle] at hload ⊢
      show cfg.BL.toNat / 2 = _
      omega
  · rw [List.filterMap_append, h.delivered, hdel, hD3, (hfresh 0 0).2.2.1,
      doneAt_succ h.sorted hBL, List.map_append]
    exact congrArg _ (List.map_congr_left fun x hx => by
      rw [of_decide_eq_true (List.mem_filter.mp hx).2])
  · rw [List.filterMap_append, h.write_done, hdone, hD4, (hfresh 0 0).2.2.1,
      doneAt_succ h.sorted hBL, List.map_append]
    exact congrArg _ (List.map_congr_left fun x hx => by
      rw [of_decide_eq_true (List.mem_filter.mp hx).2])
  · intro idx
    rw [(hfresh _ idx).2.2.2, loadedTo_succ h.sorted (hfrom idx), List.length_append, hwrites]
    rcases hW3 with ⟨hnone, -, -, htw⟩ | ⟨y, hy, -, -, -, htw⟩
    · rw [hnone, htw, h₁writes, h.counted idx]
      rfl
    · rw [hy, htw, h₁writes, Function.update_apply]
      by_cases hidx : idx = cfg.SEQUENTIAL y.2.rank y.2.bank
      · subst hidx
        simp [h.counted]
      · simp [h.counted, hidx, Ne.symm hidx]

/-- An event that leaves the buses, the counters and the clock alone and logs nothing on the
buses and no reset keeps the pipeline. -/
theorem WritePipeline.frame (h : WritePipeline cfg s log) (hbuses : s'.buses = s.buses)
    (hclock : s'.currentClockCycle = s.currentClockCycle)
    (hout : ∀ e ∈ out, e.onBus = false ∧ e.resetAt = none) :
    WritePipeline cfg s' (log ++ out) := by
  have hoff : ∀ {β : Type} {f : Effect → Option β}, (∀ e, e.onBus = false → f e = none) →
      (log ++ out).filterMap f = log.filterMap f := fun hf => by
    rw [List.filterMap_append, List.filterMap_eq_nil_iff.mpr fun e he => hf e (hout e he).1,
      List.append_nil]
  have hW : writesIssued (log ++ out) = writesIssued log := by
    simp only [writesIssued, hoff fun _ => Effect.issued_of_onBus]
  have hlast : lastReset (log ++ out) = lastReset log :=
    lastReset_append (List.filterMap_eq_nil_iff.mpr fun e he => (hout e he).2)
  have hb := hbuses
  simp only [State.buses, Buses.mk.injEq] at hb
  obtain ⟨-, -, hdata, hleft, hsend, hcount, hwrites⟩ := hb
  refine ⟨hbuses ▸ h.kinds, ?_, ?_, ?_, ?_, ?_, ?_, ?_, ?_, ?_, ?_, ?_⟩ <;>
    simp only [hW, hlast, hclock, hdata, hleft, hsend, hcount, hwrites, countedFrom,
      hoff fun _ => Effect.dataDelivered_of_onBus, hoff fun _ => Effect.writeDone_of_onBus]
  exacts [h.sorted, h.issued_before, h.reset_before, h.waiting, h.countdowns, h.on_bus, h.single,
    h.cycles_left, h.delivered, h.write_done, h.counted]

/-- `resetStats` clears the counters below `NUM_RANKS * NUM_BANKS`, none of which has then
counted a write loaded since. -/
theorem WritePipeline.resetStats (h : WritePipeline cfg s log) :
    WritePipeline cfg (DramSim.resetStats cfg s) (log ++ [.resetStats s.currentClockCycle]) := by
  have hoff : ∀ {β : Type} {f : Effect → Option β}, f (.resetStats s.currentClockCycle) = none →
      (log ++ [Effect.resetStats s.currentClockCycle]).filterMap f = log.filterMap f :=
    fun hf => by simp [hf]
  have hW : writesIssued (log ++ [Effect.resetStats s.currentClockCycle]) = writesIssued log := by
    simp only [writesIssued, hoff (f := Effect.issued) rfl]
  have hcounted : ∀ idx, (DramSim.resetStats cfg s).totalWritesPerBank idx =
      (loadedTo cfg (countedFrom cfg (log ++ [.resetStats s.currentClockCycle]) idx)
        s.currentClockCycle idx (writesIssued log)).length := fun idx => by
    simp only [DramSim.resetStats, lastReset_resetStats, countedFrom]
    by_cases hidx : idx < cfg.NUM_RANKS * cfg.NUM_BANKS
    · -- a counter just cleared has counted nothing loaded from now on
      simp only [hidx, if_true]
      refine (congrArg List.length (List.filter_eq_nil_iff.mpr fun x _ hx => ?_)).symm
      simp only [decide_eq_true_eq] at hx
      omega
    · simpa only [hidx, if_false, countedFrom] using h.counted idx
  refine ⟨⟨h.kinds.command, h.kinds.data, h.kinds.queued⟩, ?_, ?_, ?_, ?_, ?_, ?_, ?_, ?_, ?_,
    ?_, ?_⟩ <;>
    simp only [DramSim.resetStats, hW, lastReset_resetStats,
      hoff (f := Effect.dataDelivered) rfl, hoff (f := Effect.writeDone) rfl]
  exacts [h.sorted, h.issued_before, le_refl _, h.waiting, h.countdowns, h.on_bus, h.single,
    h.cycles_left, h.delivered, h.write_done, hcounted]

/-- Every event keeps the pipeline. -/
theorem WritePipeline.exec (hWL : 1 ≤ cfg.WL.toNat) (hBL : 2 ≤ cfg.BL.toNat) {e : Event}
    (h : WritePipeline cfg s log) (hexec : exec cfg e s = .ok (s', out)) :
    WritePipeline cfg s' (log ++ out) := by
  cases e with
  | update input =>
      obtain ⟨r, hu, rfl, rfl⟩ := exec_update_eq_ok hexec
      exact h.update hWL hBL hu
  | resetStats =>
      simp only [DramSim.exec, Except.ok.injEq, Prod.mk.injEq] at hexec
      obtain ⟨rfl, rfl⟩ := hexec
      exact h.resetStats
  | addTransaction =>
      simp only [DramSim.exec, Except.ok.injEq, Prod.mk.injEq] at hexec
      obtain ⟨rfl, rfl⟩ := hexec
      unfold addTransaction
      split <;> exact h.frame rfl rfl (by simp [Effect.onBus, Effect.resetAt])
  | receiveFromBus =>
      simp only [DramSim.exec, DramSim.receiveFromBus] at hexec
      split at hexec
      · cases hexec
      · simp only [Except.map, Except.ok.injEq, Prod.mk.injEq] at hexec
        obtain ⟨rfl, rfl⟩ := hexec
        exact h.frame rfl rfl (by simp [Effect.onBus, Effect.resetAt])
  | refreshDone =>
      simp only [DramSim.exec, Except.ok.injEq, Prod.mk.injEq] at hexec
      obtain ⟨rfl, rfl⟩ := hexec
      exact h.frame rfl rfl (by simp)

theorem writePipeline_init : WritePipeline cfg (State.init cfg) [] :=
  ⟨⟨nofun, nofun, nofun⟩, .nil, nofun, le_refl _, rfl, rfl, rfl, Nat.zero_le _, nofun, rfl, rfl,
    fun _ => rfl⟩

end Run

/-! ## The write-data FIFO along a run -/

/-- The write-data FIFO along a run with `WL ≥ 1` and `BL ≥ 2`. `writeDataToSend` and
`writeDataCountdown` have equal lengths, and the countdowns are at least 1 and strictly
increasing. At the start of update `n` the FIFO holds, in issue order, the data of the writes
issued in an update `k` with `n ≤ k + WL`, with countdown `k + WL + 1 - n`, and the data bus the
data of the write with `k + WL < n ≤ k + WL + BL/2`. The DATA handed to the ranks and the
`WriteDataDone` callbacks are, in issue order and once each, those of the writes with
`k + WL + BL/2 < n`, in update `k + WL + BL/2`. `totalWritesPerBank[idx]` counts the writes to
`idx` loaded since it was last cleared. The writes issued are the popped ones: the next
`update()` adds to them the WRITE or WRITE_P it pops, if any, at the current cycle. -/
structure WriteDataSound (cfg : Config) (s : State) (log : List Effect) : Prop where
  same_length : s.writeDataToSend.length = s.writeDataCountdown.length
  countdowns_pos : ∀ c ∈ s.writeDataCountdown, 1 ≤ c.toNat
  countdowns_increasing : s.writeDataCountdown.Pairwise fun c d => c.toNat < d.toNat
  waiting : s.writeDataToSend =
    (waitingAt cfg s.currentClockCycle (writesIssued log)).map (·.2.writeData)
  countdowns : s.writeDataCountdown.map UInt32.toNat =
    (waitingAt cfg s.currentClockCycle (writesIssued log)).map
      fun x => loadCycle cfg x + 1 - s.currentClockCycle
  on_bus : s.outgoingDataPacket =
    ((onBusAt cfg s.currentClockCycle (writesIssued log)).map (·.2.writeData)).head?
  delivered : log.filterMap Effect.dataDelivered =
    (doneAt cfg s.currentClockCycle (writesIssued log)).map
      fun x => (doneCycle cfg x, x.2.writeData)
  write_done : log.filterMap Effect.writeDone =
    (doneAt cfg s.currentClockCycle (writesIssued log)).map
      fun x => (doneCycle cfg x, x.2.physicalAddress)
  counted : ∀ idx, s.totalWritesPerBank idx =
    (loadedTo cfg (countedFrom cfg log idx) s.currentClockCycle idx (writesIssued log)).length
  popped : ∀ input r, update cfg input s = .ok r →
    writesIssued (log ++ r.2) = writesIssued log ++ poppedWrite input.popped s.currentClockCycle

theorem write_data_sound {cfg : Config} (hWL : 1 ≤ cfg.WL.toNat) (hBL : 2 ≤ cfg.BL.toNat)
    {allowed : State → List Effect → Event → Bool} {s : State} {log : List Effect}
    (hrun : Run cfg allowed s log) : WriteDataSound cfg s log := by
  have h := hrun.invariant _ writePipeline_init fun _ _ _ _ _ hinv _ hexec =>
    hinv.exec hWL hBL hexec
  -- the countdowns, in FIFO order, are those of writes issued in increasing updates
  have hincreasing : ((waitingAt cfg s.currentClockCycle (writesIssued log)).map
      fun x => loadCycle cfg x + 1 - s.currentClockCycle).Pairwise (· < ·) := by
    refine List.pairwise_map.mpr ((h.sorted.sublist (List.filter_sublist _)).imp_of_mem
      fun hx hy hxy => ?_)
    have := of_decide_eq_true (List.mem_filter.mp hx).2
    simp only [loadCycle] at this ⊢
    omega
  refine ⟨?_, fun c hc => ?_, List.pairwise_map.mp (h.countdowns ▸ hincreasing), h.waiting,
    h.countdowns, h.on_bus, h.delivered, h.write_done, h.counted,
    fun _ _ => update_writesIssued⟩
  · rw [← List.length_map s.writeDataCountdown UInt32.toNat, h.countdowns, h.waiting,
      List.length_map, List.length_map]
  · obtain ⟨x, hx, hcx⟩ := List.mem_map.mp (h.countdowns ▸ List.mem_map_of_mem UInt32.toNat hc)
    have := of_decide_eq_true (List.mem_filter.mp hx).2
    omega

set_option maxRecDepth 100000 in
/-- Writes to bank 0 of rank 0 at cycles 10 and 14: at the start of update 21 the first one's
data is on the data bus and the second one's waits with countdown 3. -/
theorem write_data_sound_sample :
    1 ≤ Config.sample.WL.toNat ∧ 2 ≤ Config.sample.BL.toNat ∧
    ∃ s log, Run Config.sample (admittedDue Config.sample) s log ∧ s.currentClockCycle = 21 ∧
      s.outgoingDataPacket = some ⟨.DATA, 0, 0, 0, 0, 0⟩ ∧
      s.writeDataCountdown = [3] ∧ WriteDataSound Config.sample s log := by
  obtain ⟨s, log, hrun, hobserved⟩ := @exists_run_of_runEvents Config.sample
    (admittedDue Config.sample)
    ([.update ⟨some ⟨.ACTIVATE, 0, 0, 0, 0, 0⟩, fun _ _ => false, fun _ => false⟩] ++
      List.replicate 9 (.update ⟨none, fun _ _ => false, fun _ => false⟩) ++
      [.update ⟨some ⟨.WRITE, 0, 0, 0, 0, 0⟩, fun _ _ => false, fun _ => false⟩] ++
      List.replicate 3 (.update ⟨none, fun _ _ => false, fun _ => false⟩) ++
      [.update ⟨some ⟨.WRITE, 0, 0, 0, 0, 0⟩, fun _ _ => false, fun _ => false⟩] ++
      List.replicate 6 (.update ⟨none, fun _ _ => false, fun _ => false⟩))
    (fun s _ => decide (s.currentClockCycle = 21 ∧
      s.outgoingDataPacket = some ⟨.DATA, 0, 0, 0, 0, 0⟩ ∧ s.writeDataCountdown = [3]))
    (by decide) (by decide)
  obtain ⟨hclock, hbus, hcountdown⟩ := of_decide_eq_true hobserved
  exact ⟨by decide, by decide, s, log, hrun, hclock, hbus, hcountdown,
    write_data_sound (by decide) (by decide) hrun⟩

end DramSim
