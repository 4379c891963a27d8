import DramSim.State

/-! # `MemoryController::update()` and the calls between cycles

One function per block of `update()`, in the order the C++ runs them: bank countdowns,
command bus, data bus, write-data FIFO, refresh gate, the popped command, admission of one
transaction, low-power management with background energy, the return path, and the refresh
countdowns. A loop over ranks or banks whose body only touches its own index is written
pointwise. The fatal exits are `Except` errors.
-/

namespace DramSim

variable (cfg : Config)

/-! ## Bank tables -/

/-- Change bank `(rank, bank)` of a bank table with `f`. -/
def setBank (banks : Nat → Nat → BankState) (rank bank : Nat) (f : BankState → BankState) :
    Nat → Nat → BankState :=
  fun i j => if i = rank ∧ j = bank then f (banks i j) else banks i j

/-- Run `f i` over every bank `(i, j)` of the configuration. -/
def Config.forEachBank (f : Nat → BankState → BankState) (banks : Nat → Nat → BankState) :
    Nat → Nat → BankState :=
  fun i j => if i < cfg.NUM_RANKS ∧ j < cfg.NUM_BANKS then f i (banks i j) else banks i j

theorem setBank_apply {banks : Nat → Nat → BankState} {rank bank : Nat}
    {f : BankState → BankState} {i j : Nat} :
    setBank banks rank bank f i j = if i = rank ∧ j = bank then f (banks i j) else banks i j :=
  rfl

theorem forEachBank_apply {f : Nat → BankState → BankState} {banks : Nat → Nat → BankState}
    {i j : Nat} :
    cfg.forEachBank f banks i j =
      if i < cfg.NUM_RANKS ∧ j < cfg.NUM_BANKS then f i (banks i j) else banks i j :=
  rfl

/-! ## Bank state countdowns -/

namespace BankState

/-- Whether this cycle's countdown ends an auto-precharge of the bank. -/
def endsAutoPrecharge (b : BankState) : Bool :=
  b.stateChangeCountdown = 1 && (b.lastCommand = .READ_P || b.lastCommand = .WRITE_P)

/-- One bank's turn in the countdown loop: decrement a running countdown, and at zero make
the implicit transition its last command asks for. Under SMART an auto-precharge ends in
Idle at once. -/
def countdown (isSmartMRAM : Bool) (tRP : UInt32) (b : BankState) : BankState :=
  if b.stateChangeCountdown > 0 then
    if b.stateChangeCountdown - 1 = 0 then
      match b.lastCommand with
      | .WRITE_P | .READ_P =>
          if isSmartMRAM then
            { b with currentBankState := .Idle, lastCommand := .PRECHARGE,
                     stateChangeCountdown := 0 }
          else
            { b with currentBankState := .Precharging, lastCommand := .PRECHARGE,
                     stateChangeCountdown := tRP.toNat }
      | .REFRESH | .PRECHARGE => { b with currentBankState := .Idle, stateChangeCountdown := 0 }
      | _ => { b with stateChangeCountdown := 0 }
    else { b with stateChangeCountdown := b.stateChangeCountdown - 1 }
  else b

end BankState

/-- The bank table the command queue sees when it pops: every bank after its countdown. -/
def popBanks (s : State) : Nat → Nat → BankState :=
  cfg.forEachBank (fun _ => BankState.countdown cfg.isSmartMRAM cfg.tRP) s.bankStates

/-- The countdown loop at the top of `update()`. -/
def updateBankStates (s : State) : State × List Effect :=
  ({ s with bankStates := popBanks cfg s },
    (List.range cfg.NUM_RANKS).flatMap fun i =>
      ((List.range cfg.NUM_BANKS).filter fun j => (s.bankStates i j).endsAutoPrecharge).map
        fun j => .autoPrecharge s.currentClockCycle i j)

/-! ## Buses and the write-data FIFO -/

/-- Count down the command in flight and hand it to its rank when the count reaches 0. -/
def sendCommand (s : State) : State × List Effect :=
  match s.outgoingCmdPacket with
  | none => (s, [])
  | some packet =>
      if s.cmdCyclesLeft - 1 = 0 then
        ({ s with cmdCyclesLeft := 0, outgoingCmdPacket := none },
          [.deliver s.currentClockCycle packet])
      else ({ s with cmdCyclesLeft := s.cmdCyclesLeft - 1 }, [])

/-- Count down the write data in flight; when the count reaches 0 fire `WriteDataDone` and
hand the packet to its rank. -/
def sendData (s : State) : State × List Effect :=
  match s.outgoingDataPacket with
  | none => (s, [])
  | some packet =>
      if s.dataCyclesLeft - 1 = 0 then
        ({ s with dataCyclesLeft := 0, outgoingDataPacket := none },
          [.writeDataDone s.currentClockCycle packet.physicalAddress,
            .deliver s.currentClockCycle packet])
      else ({ s with dataCyclesLeft := s.dataCyclesLeft - 1 }, [])

/-- Decrement every write-data countdown; a head that reaches 0 goes on the data bus for
`BL/2` cycles, or the controller exits if the bus is busy. -/
def sendWriteData (s : State) : Except Abort State :=
  match s.writeDataCountdown.map (· - 1), s.writeDataToSend with
  | countdown :: countdowns, packet :: packets =>
      if countdown = 0 then
        if s.outgoingDataPacket.isSome then .error .dataBusCollision
        else
          let k := cfg.SEQUENTIAL packet.rank packet.bank
          .ok { s with
            outgoingDataPacket := some packet
            dataCyclesLeft := cfg.BL / 2
            totalTransactions := s.totalTransactions + 1
            totalWritesPerBank := Function.update s.totalWritesPerBank k
              (s.totalWritesPerBank k + 1)
            writeDataCountdown := countdowns
            writeDataToSend := packets }
      else .ok { s with writeDataCountdown := countdown :: countdowns }
  | countdowns, _ => .ok { s with writeDataCountdown := countdowns }

/-! ## Refresh gate -/

/-- An `int` compared with an `unsigned`: C converts it to `unsigned` first. -/
def intAsUnsigned (x : Int) : Nat := (x % 2 ^ 32).toNat

/-- Ask for a refresh of `refreshRank` when its countdown is 0, re-arm it and move to the
next rank; otherwise wake a powered-down rank that is due within `tXP`. -/
def refreshGate (s : State) : State × List Effect :=
  let r := s.refreshRank
  if s.refreshCountdown r = 0 then
    ({ s with
        refreshWaiting := Function.update s.refreshWaiting r true
        refreshCountdown := Function.update s.refreshCountdown r cfg.refreshPeriod
        refreshRank := if r + 1 = cfg.NUM_RANKS then 0 else r + 1 },
      [.needRefresh s.currentClockCycle r])
  else if s.powerDown r && decide (intAsUnsigned (s.refreshCountdown r) ≤ cfg.tXP.toNat) then
    ({ s with refreshWaiting := Function.update s.refreshWaiting r true }, [])
  else (s, [])

/-! ## The popped command -/

/-- Stamp the first pending read that is `found` with the current cycle. -/
def recordTimeACTIssued (found : Transaction → Bool) (c : Nat) :
    List Transaction → List Transaction
  | [] => []
  | t :: ts => if found t then { t with timeACTIssued := c } :: ts
      else t :: recordTimeACTIssued found c ts

/-- The guards a READ or READ_P to `rank` at cycle `c` writes into bank `b` of rank `i`:
the other ranks' banks only while they are RowActive. -/
def readGuards (c rank i : Nat) (b : BankState) : BankState :=
  if i ≠ rank then
    if b.currentBankState = .RowActive then
      { b with
        nextRead := max (c + (cfg.BL / 2).toNat + cfg.tRTRS.toNat) b.nextRead
        nextWrite := max (c + cfg.READ_TO_WRITE_DELAY.toNat) b.nextWrite }
    else b
  else
    { b with
      nextRead := max (c + (max cfg.tCCD (cfg.BL / 2)).toNat) b.nextRead
      nextWrite := max (c + cfg.READ_TO_WRITE_DELAY.toNat) b.nextWrite }

/-- The guards a WRITE or WRITE_P to `rank` at cycle `c` writes into bank `b` of rank `i`. -/
def writeGuards (c rank i : Nat) (b : BankState) : BankState :=
  if i ≠ rank then
    if b.currentBankState = .RowActive then
      { b with
        nextWrite := max (c + (cfg.BL / 2).toNat + cfg.tRTRS.toNat) b.nextWrite
        nextRead := max (c + cfg.WRITE_TO_READ_DELAY_R.toNat) b.nextRead }
    else b
  else
    { b with
      nextWrite := max (c + (max (cfg.BL / 2) cfg.tCCD).toNat) b.nextWrite
      nextRead := max (c + cfg.WRITE_TO_READ_DELAY_B.toNat) b.nextRead }

/-- The bank table after a READ or READ_P: the bank's own guards and auto-precharge, then
the read guards of every bank; READ_P closes the bank to column commands until it can be
activated again. -/
def readBanks (packet : BusPacket) (c : Nat) (banks : Nat → Nat → BankState) :
    Nat → Nat → BankState :=
  let rank := packet.rank
  let autoPrecharge := packet.busPacketType = .READ_P
  let own := setBank banks rank packet.bank fun b =>
    if autoPrecharge then
      { b with
        nextActivate := max (c + cfg.READ_AUTOPRE_DELAY.toNat) b.nextActivate
        lastCommand := .READ_P
        stateChangeCountdown := cfg.READ_TO_PRE_DELAY.toNat }
    else
      { b with
        nextPrecharge := max (c + cfg.READ_TO_PRE_DELAY.toNat) b.nextPrecharge
        lastCommand := .READ }
  let guarded := cfg.forEachBank (readGuards cfg c rank) own
  if autoPrecharge then
    setBank guarded rank packet.bank fun b =>
      { b with nextRead := b.nextActivate, nextWrite := b.nextActivate }
  else guarded

/-- READ and READ_P: stamp a pending read, charge SMART's deferred sensing energy on the
first access after an ACTIVATE, charge the burst, and write the guards. -/
def issueRead (packet : BusPacket) (s : State) : State :=
  let c := s.currentClockCycle
  let rank := packet.rank
  { s with
    pendingReadTransactions := recordTimeACTIssued
      (fun t => t.address = packet.physicalAddress && t.timeACTIssued = 0) c
      s.pendingReadTransactions
    actpreEnergy :=
      if cfg.isSmartMRAM && (s.bankStates rank packet.bank).lastCommand = .ACTIVATE then
        Function.update s.actpreEnergy rank (accumulate (s.actpreEnergy rank) cfg.actpreIncrement)
      else s.actpreEnergy
    burstEnergy := Function.update s.burstEnergy rank
      (accumulate (s.burstEnergy rank) cfg.readBurstIncrement)
    bankStates := readBanks cfg packet c s.bankStates }

/-- The bank table after a WRITE or WRITE_P. -/
def writeBanks (packet : BusPacket) (c : Nat) (banks : Nat → Nat → BankState) :
    Nat → Nat → BankState :=
  let rank := packet.rank
  let autoPrecharge := packet.busPacketType = .WRITE_P
  let own := setBank banks rank packet.bank fun b =>
    if autoPrecharge then
      { b with
        nextActivate := max (c + cfg.WRITE_AUTOPRE_DELAY.toNat) b.nextActivate
        lastCommand := .WRITE_P
        stateChangeCountdown := cfg.WRITE_TO_PRE_DELAY.toNat }
    else
      { b with
        nextPrecharge := max (c + cfg.WRITE_TO_PRE_DELAY.toNat) b.nextPrecharge
        lastCommand := .WRITE }
  let guarded := cfg.forEachBank (writeGuards cfg c rank) own
  if autoPrecharge then
    setBank guarded rank packet.bank fun b =>
      { b with nextRead := b.nextActivate, nextWrite := b.nextActivate }
  else guarded

/-- WRITE and WRITE_P: the burst energy and the write guards. -/
def issueWrite (packet : BusPacket) (s : State) : State :=
  { s with
    burstEnergy := Function.update s.burstEnergy packet.rank
      (accumulate (s.burstEnergy packet.rank) cfg.writeBurstIncrement)
    bankStates := writeBanks cfg packet s.currentClockCycle s.bankStates }

/-- The guards an ACTIVATE at cycle `c` writes into its own bank: SMART drops tRCD and
tRAS and only keeps tRRD. -/
def activateGuards (c : Nat) (b : BankState) : BankState :=
  if cfg.isSmartMRAM then
    { b with
      nextActivate := max (c + cfg.tRRD.toNat) b.nextActivate
      nextPrecharge := c
      nextRead := max c b.nextRead
      nextWrite := max c b.nextWrite }
  else
    { b with
      nextActivate := max (c + cfg.tRC.toNat) b.nextActivate
      nextPrecharge := max (c + cfg.tRAS.toNat) b.nextPrecharge
      nextRead := max (c + (cfg.tRCD - cfg.AL).toNat) b.nextRead
      nextWrite := max (c + (cfg.tRCD - cfg.AL).toNat) b.nextWrite }

/-- The bank table after an ACTIVATE: the row is open, and the rank's other banks wait
tRRD. -/
def activateBanks (packet : BusPacket) (c : Nat) (banks : Nat → Nat → BankState) :
    Nat → Nat → BankState :=
  let opened := setBank banks packet.rank packet.bank fun b =>
    activateGuards cfg c
      { b with currentBankState := .RowActive, lastCommand := .ACTIVATE,
               openRowAddress := packet.row }
  fun i j =>
    if i = packet.rank ∧ j < cfg.NUM_BANKS ∧ j ≠ packet.bank then
      { opened i j with nextActivate := max (c + cfg.tRRD.toNat) (opened i j).nextActivate }
    else opened i j

/-- ACTIVATE: stamp the first pending read to the address, charge the row energy unless
SMART defers it, and open the row. -/
def issueActivate (packet : BusPacket) (s : State) : State :=
  let c := s.currentClockCycle
  let rank := packet.rank
  { s with
    pendingReadTransactions := recordTimeACTIssued
      (fun t => t.address = packet.physicalAddress) c s.pendingReadTransactions
    actpreEnergy :=
      if cfg.isSmartMRAM then s.actpreEnergy
      else Function.update s.actpreEnergy rank
        (accumulate (s.actpreEnergy rank) cfg.actpreIncrement)
    bankStates := activateBanks cfg packet c s.bankStates }

/-- The bank table after a PRECHARGE: under SMART the bank is Idle at once and may be
activated this cycle. -/
def prechargeBanks (packet : BusPacket) (c : Nat) (banks : Nat → Nat → BankState) :
    Nat → Nat → BankState :=
  setBank banks packet.rank packet.bank fun b =>
    if cfg.isSmartMRAM then
      { b with currentBankState := .Idle, lastCommand := .PRECHARGE,
               stateChangeCountdown := 0, nextActivate := c }
    else
      { b with currentBankState := .Precharging, lastCommand := .PRECHARGE,
               stateChangeCountdown := cfg.tRP.toNat,
               nextActivate := max (c + cfg.tRP.toNat) b.nextActivate }

/-- PRECHARGE. -/
def issuePrecharge (packet : BusPacket) (s : State) : State :=
  { s with bankStates := prechargeBanks cfg packet s.currentClockCycle s.bankStates }

/-- The bank table after a REFRESH: every bank of the rank is Refreshing for tRFC. -/
def refreshBanks (packet : BusPacket) (c : Nat) (banks : Nat → Nat → BankState) :
    Nat → Nat → BankState :=
  fun i j =>
    if i = packet.rank ∧ j < cfg.NUM_BANKS then
      { banks i j with
        nextActivate := c + cfg.tRFC.toNat
        currentBankState := .Refreshing
        lastCommand := .REFRESH
        stateChangeCountdown := cfg.tRFC.toNat }
    else banks i j

/-- REFRESH: charge the refresh energy and refresh the rank's banks. -/
def issueRefresh (packet : BusPacket) (s : State) : State :=
  { s with
    refreshEnergy := Function.update s.refreshEnergy packet.rank
      (accumulate (s.refreshEnergy packet.rank) cfg.refreshIncrement)
    bankStates := refreshBanks cfg packet s.currentClockCycle s.bankStates }

/-- The `switch` on the popped packet's type. -/
def applyCommand (packet : BusPacket) (s : State) : Except Abort State :=
  match packet.busPacketType with
  | .READ | .READ_P => .ok (issueRead cfg packet s)
  | .WRITE | .WRITE_P => .ok (issueWrite cfg packet s)
  | .ACTIVATE => .ok (issueActivate cfg packet s)
  | .PRECHARGE => .ok (issuePrecharge cfg packet s)
  | .REFRESH => .ok (issueRefresh cfg packet s)
  | .DATA => .error (.poppedUnexpected .DATA)

/-- A popped WRITE or WRITE_P queues its data twin, to go on the data bus `WL` cycles
later. -/
def queueWriteData (packet : BusPacket) (s : State) : State :=
  if packet.busPacketType = .WRITE ∨ packet.busPacketType = .WRITE_P then
    { s with
      writeDataToSend := s.writeDataToSend ++ [{ packet with busPacketType := .DATA }]
      writeDataCountdown := s.writeDataCountdown ++ [cfg.WL] }
  else s

/-- Issue the popped packet: queue write data, update the banks, and put the packet on the
command bus for `tCMD` cycles, or exit if the bus is busy. -/
def issue (packet : BusPacket) (s : State) : Except Abort (State × List Effect) := do
  let s ← applyCommand cfg packet (queueWriteData cfg packet s)
  if s.outgoingCmdPacket.isSome then .error .commandBusCollision
  else .ok ({ s with outgoingCmdPacket := some packet, cmdCyclesLeft := cfg.tCMD },
    [.issue s.currentClockCycle packet])

/-! ## Admission of one transaction -/

/-- The ACTIVATE update() creates for a transaction. -/
def activateCommand (t : Transaction) : BusPacket :=
  let m := cfg.addressMapping t.address
  ⟨.ACTIVATE, t.address, m.column, m.row, m.rank, m.bank⟩

/-- The read or write command update() creates for a transaction. -/
def columnCommand (t : Transaction) (busPacketType : BusPacketType) : BusPacket :=
  let m := cfg.addressMapping t.address
  ⟨busPacketType, t.address, m.column, m.row, m.rank, m.bank⟩

/-- Whether the command queue has room for a transaction's two commands. -/
def hasRoom (hasRoomFor : Nat → Nat → Bool) (t : Transaction) : Bool :=
  hasRoomFor (cfg.addressMapping t.address).rank (cfg.addressMapping t.address).bank

/-- Move the first transaction whose bank has room into the command queue as an ACTIVATE
and its column command; a read also waits in `pendingReadTransactions`. -/
def admitTransaction (hasRoomFor : Nat → Nat → Bool) (s : State) :
    Except Abort (State × List Effect) :=
  match s.transactionQueue.find? (hasRoom cfg hasRoomFor) with
  | none => .ok (s, [])
  | some t =>
      match cfg.getBusPacketType t.transactionType with
      | none => .error .noBusPacketType
      | some busPacketType =>
          .ok ({ s with
              transactionQueue := s.transactionQueue.eraseP (hasRoom cfg hasRoomFor)
              pendingReadTransactions :=
                if t.transactionType = .DATA_READ then s.pendingReadTransactions ++ [t]
                else s.pendingReadTransactions },
            [.admission s.currentClockCycle t,
              .enqueue s.currentClockCycle (activateCommand cfg t),
              .enqueue s.currentClockCycle (columnCommand cfg t busPacketType)])

/-! ## Low power and background energy -/

/-- The two switches of the low-power logic. -/
inductive PowerSwitch where
  | down | up
  deriving DecidableEq, Repr

/-- Whether rank `i` powers down (queue empty, no refresh waiting, all banks Idle) or up
(something waiting and `nextPowerUp` of bank 0 reached), if low power is on. -/
def powerSwitch (isEmpty : Bool) (s : State) (i : Nat) : Option PowerSwitch :=
  if cfg.USE_LOW_POWER then
    if isEmpty && !s.refreshWaiting i then
      if (List.range cfg.NUM_BANKS).all fun j => (s.bankStates i j).currentBankState = .Idle
      then some .down else none
    else if decide (s.currentClockCycle ≥ (s.bankStates i 0).nextPowerUp) && s.powerDown i
    then some .up else none
  else none

/-- A bank after its rank's switch. -/
def BankState.switchPower (c : Nat) (b : BankState) : Option PowerSwitch → BankState
  | none => b
  | some .down => { b with currentBankState := .PowerDown, nextPowerUp := c + cfg.tCKE.toNat }
  | some .up => { b with currentBankState := .Idle, nextActivate := c + cfg.tXP.toNat }

/-- The background current of a rank: IDD3N with a bank open or refreshing, else IDD2P
when powered down, else IDD2N. -/
def backgroundIncrement (banks : Nat → BankState) (poweredDown : Bool) : UInt32 :=
  if (List.range cfg.NUM_BANKS).any fun j =>
      (banks j).currentBankState = .Refreshing || (banks j).currentBankState = .RowActive
  then cfg.IDD3N * cfg.NUM_DEVICES
  else if poweredDown then cfg.IDD2P * cfg.NUM_DEVICES
  else cfg.IDD2N * cfg.NUM_DEVICES

/-- The per-rank loop after admission: the low-power switch, then background energy. -/
def lowPower (isEmpty : Nat → Bool) (s : State) : State × List Effect :=
  let c := s.currentClockCycle
  let switch := fun i => if i < cfg.NUM_RANKS then powerSwitch cfg (isEmpty i) s i else none
  let banks := fun i j =>
    if j < cfg.NUM_BANKS then (s.bankStates i j).switchPower cfg c (switch i)
    else s.bankStates i j
  let poweredDown := fun i =>
    match switch i with
    | some .down => true
    | some .up => false
    | none => s.powerDown i
  ({ s with
      bankStates := banks
      powerDown := poweredDown
      backgroundEnergy := fun i =>
        if i < cfg.NUM_RANKS then
          accumulate (s.backgroundEnergy i) (backgroundIncrement cfg (banks i) (poweredDown i))
        else s.backgroundEnergy i },
    (List.range cfg.NUM_RANKS).filterMap fun i =>
      (switch i).map fun
        | .down => .powerDown c i
        | .up => .powerUp c i)

/-! ## Return path and refresh countdowns -/

/-- Complete the first pending read with the address of the first returned data, or abort
when there is none. -/
def returnPath (s : State) : Except Abort (State × List Effect) :=
  match s.returnTransaction with
  | [] => .ok (s, [])
  | r :: rest =>
      match s.pendingReadTransactions.find? (fun t => t.address = r.address) with
      | none => .error (.noMatchingTransaction r.address)
      | some t =>
          .ok ({ s with
              totalTransactions := s.totalTransactions + 1
              pendingReadTransactions :=
                s.pendingReadTransactions.eraseP (fun t => t.address = r.address)
              returnTransaction := rest },
            [.returnReadData s.currentClockCycle t])

/-- Decrement every rank's refresh countdown. -/
def decrementRefresh (s : State) : State :=
  { s with refreshCountdown := fun i =>
      if i < cfg.NUM_RANKS then s.refreshCountdown i - 1 else s.refreshCountdown i }

/-! ## One cycle -/

/-- The pop step: issue the packet the command queue returns, if any. -/
def issuePopped (popped : Option BusPacket) (s : State) : Except Abort (State × List Effect) :=
  match popped with
  | none => .ok (s, [])
  | some packet => issue cfg packet s

/-- `MemoryController::update()`. -/
def update (input : UpdateInput) (s : State) : Except Abort (State × List Effect) := do
  let countdowns := updateBankStates cfg s
  let commands := sendCommand countdowns.1
  let data := sendData commands.1
  let written ← sendWriteData cfg data.1
  let refresh := refreshGate cfg written
  let issued ← issuePopped cfg input.popped refresh.1
  let admitted ← admitTransaction cfg input.hasRoomFor issued.1
  let power := lowPower cfg input.isEmpty admitted.1
  let returned ← returnPath power.1
  pure (decrementRefresh cfg returned.1,
    countdowns.2 ++ commands.2 ++ data.2 ++ refresh.2 ++ issued.2 ++ admitted.2 ++ power.2 ++
      returned.2)

/-- `addTransaction`: accept the transaction, stamped with the current cycle, while the
queue is below `TRANS_QUEUE_DEPTH`. -/
def addTransaction (transactionType : TransactionType) (address : Nat) (s : State) :
    Bool × State :=
  if s.transactionQueue.length < cfg.TRANS_QUEUE_DEPTH then
    (true, { s with transactionQueue :=
      s.transactionQueue ++ [⟨transactionType, address, s.currentClockCycle, 0⟩] })
  else (false, s)

/-- `receiveFromBus`: data returned by a rank becomes a return transaction. -/
def receiveFromBus (packet : BusPacket) (s : State) : Except Abort State :=
  if packet.busPacketType ≠ .DATA then .error .nonDataPacket
  else
    let k := cfg.SEQUENTIAL packet.rank packet.bank
    .ok { s with
      returnTransaction := s.returnTransaction ++ [⟨.RETURN_DATA, packet.physicalAddress, 0, 0⟩]
      totalReadsPerBank := Function.update s.totalReadsPerBank k (s.totalReadsPerBank k + 1) }

/-- `resetStats`: clear the per-bank counters and the energy accumulators. -/
def resetStats (s : State) : State :=
  let clearRanks := fun (v : Nat → Nat) i => if i < cfg.NUM_RANKS then 0 else v i
  let clearBanks := fun (v : Nat → Nat) k => if k < cfg.NUM_RANKS * cfg.NUM_BANKS then 0 else v k
  { s with
    totalReadsPerBank := clearBanks s.totalReadsPerBank
    totalWritesPerBank := clearBanks s.totalWritesPerBank
    burstEnergy := clearRanks s.burstEnergy
    actpreEnergy := clearRanks s.actpreEnergy
    refreshEnergy := clearRanks s.refreshEnergy
    backgroundEnergy := clearRanks s.backgroundEnergy }

/-- One event and its effects. After `update()` the clock advances, as `step()` does. -/
def exec : Event → State → Except Abort (State × List Effect)
  | .addTransaction transactionType address, s =>
      let added := addTransaction cfg transactionType address s
      .ok (added.2,
        if added.1 then [.accept ⟨transactionType, address, s.currentClockCycle, 0⟩] else [])
  | .receiveFromBus packet, s => (receiveFromBus cfg packet s).map fun s' => (s', [.receive packet])
  | .refreshDone rank, s =>
      .ok ({ s with refreshWaiting := Function.update s.refreshWaiting rank false }, [])
  | .resetStats, s => .ok (resetStats cfg s, [.resetStats s.currentClockCycle])
  | .update input, s =>
      (update cfg input s).map fun r =>
        ({ r.1 with currentClockCycle := r.1.currentClockCycle + 1 }, r.2)

end DramSim
