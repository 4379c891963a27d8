import DramSim.Config

/-! # The memory controller's state, its inputs and its effects

The fields of `MemoryController` that `update()`, `addTransaction`, `receiveFromBus` and
`resetStats` read or write, together with the two flags of the rank objects the controller
reads (`refreshWaiting`) or drives (`powerDown`). The command queue is an external
collaborator: what it answers during one `update()` is an `UpdateInput`, and what the
controller does to the ranks, the queue and the callbacks is recorded as `Effect`s.
-/

namespace DramSim

/-- The controller's fields. Vectors indexed by rank, by (rank, bank) or by
`SEQUENTIAL(rank,bank)` are functions; only the indices below `NUM_RANKS` and `NUM_BANKS`
are ever read. The two bus countdowns and the write-data countdowns are `unsigned`. -/
structure State where
  bankStates : Nat → Nat → BankState
  outgoingCmdPacket : Option BusPacket
  cmdCyclesLeft : UInt32
  outgoingDataPacket : Option BusPacket
  dataCyclesLeft : UInt32
  writeDataToSend : List BusPacket
  writeDataCountdown : List UInt32
  refreshCountdown : Nat → Int
  refreshRank : Nat
  powerDown : Nat → Bool
  refreshWaiting : Nat → Bool
  transactionQueue : List Transaction
  pendingReadTransactions : List Transaction
  returnTransaction : List Transaction
  totalTransactions : Nat
  totalReadsPerBank : Nat → Nat
  totalWritesPerBank : Nat → Nat
  backgroundEnergy : Nat → Nat
  burstEnergy : Nat → Nat
  actpreEnergy : Nat → Nat
  refreshEnergy : Nat → Nat
  currentClockCycle : Nat

/-- The state the constructor builds: idle banks, empty buses and queues, and refresh
countdowns staggered over the ranks. -/
def State.init (cfg : Config) : State where
  bankStates := fun _ _ => BankState.init
  outgoingCmdPacket := none
  cmdCyclesLeft := 0
  outgoingDataPacket := none
  dataCyclesLeft := 0
  writeDataToSend := []
  writeDataCountdown := []
  refreshCountdown := fun i => ((cfg.refreshPeriod / cfg.NUM_RANKS) * (i + 1) : Nat)
  refreshRank := 0
  powerDown := fun _ => false
  refreshWaiting := fun _ => false
  transactionQueue := []
  pendingReadTransactions := []
  returnTransaction := []
  totalTransactions := 0
  totalReadsPerBank := fun _ => 0
  totalWritesPerBank := fun _ => 0
  backgroundEnergy := fun _ => 0
  burstEnergy := fun _ => 0
  actpreEnergy := fun _ => 0
  refreshEnergy := fun _ => 0
  currentClockCycle := 0

instance : Nonempty State := ⟨State.init Config.sample⟩

/-- The fatal exits of the controller. -/
inductive Abort where
  | dataBusCollision
  | commandBusCollision
  | poppedUnexpected (busPacketType : BusPacketType)
  | noMatchingTransaction (address : Nat)
  | nonDataPacket
  | noBusPacketType
  deriving DecidableEq, Repr

/-- The diagnostic each exit prints. -/
def Abort.message : Abort → String
  | .dataBusCollision => "== Error - Data Bus Collision"
  | .commandBusCollision => "== Error - Command Bus Collision"
  | .poppedUnexpected _ => "== Error - Popped a command we shouldn't have of type : "
  | .noMatchingTransaction address =>
      "Can't find a matching transaction for 0x" ++ (Nat.toDigits 16 address).asString
  | .nonDataPacket => "== Error - Memory Controller received a non-DATA bus packet from rank"
  | .noBusPacketType => "This transaction type doesn't have a corresponding bus packet type"

/-- What the command queue answers during one `update()`: the packet `pop` returns, and
`hasRoomFor(2, rank, bank)` and `isEmpty(rank)` as functions. -/
structure UpdateInput where
  popped : Option BusPacket
  hasRoomFor : Nat → Nat → Bool
  isEmpty : Nat → Bool

/-- What the controller does to its collaborators, stamped with the cycle. `autoPrecharge`
records the implicit end of a READ_P/WRITE_P countdown. -/
inductive Effect where
  | autoPrecharge (cycle rank bank : Nat)
  | deliver (cycle : Nat) (packet : BusPacket)
  | writeDataDone (cycle address : Nat)
  | needRefresh (cycle rank : Nat)
  | issue (cycle : Nat) (packet : BusPacket)
  | admission (cycle : Nat) (transaction : Transaction)
  | enqueue (cycle : Nat) (packet : BusPacket)
  | powerDown (cycle rank : Nat)
  | powerUp (cycle rank : Nat)
  | returnReadData (cycle : Nat) (transaction : Transaction)
  | accept (transaction : Transaction)
  | receive (packet : BusPacket)
  | resetStats (cycle : Nat)
  deriving DecidableEq, Repr

instance : Nonempty Effect := ⟨.resetStats 0⟩

/-- The calls the controller serves between two cycles, and `update()` itself.
`refreshDone` is a rank clearing its `refreshWaiting` flag. -/
inductive Event where
  | addTransaction (transactionType : TransactionType) (address : Nat)
  | receiveFromBus (packet : BusPacket)
  | refreshDone (rank : Nat)
  | resetStats
  | update (input : UpdateInput)

end DramSim
