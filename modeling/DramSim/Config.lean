import Mathlib

/-! # Configuration, bus packets, transactions and bank states

The value types that `MemoryController.cpp` reads and writes. The timing and current
parameters are the `unsigned` globals of the device profile; the derived delays
(`READ_TO_PRE_DELAY`, `WRITE_TO_READ_DELAY_B`, ...) are macros of the simulator's
configuration header, which is not among the repository's files, so they are parameters
here. Cycle counts and the `uint64_t` timestamps are natural numbers.
-/

namespace DramSim

/-- The kinds of command and data packets on the buses. -/
inductive BusPacketType where
  | READ | READ_P | WRITE | WRITE_P | ACTIVATE | PRECHARGE | REFRESH | DATA
  deriving DecidableEq, Repr

/-- The states of the per-bank state machine. -/
inductive CurrentBankState where
  | Idle | RowActive | Precharging | Refreshing | PowerDown
  deriving DecidableEq, Repr

/-- The kinds of transactions the controller holds. -/
inductive TransactionType where
  | DATA_READ | DATA_WRITE | RETURN_DATA
  deriving DecidableEq, Repr

/-- The row buffer policy of the system profile. -/
inductive RowBufferPolicy where
  | OpenPage | ClosePage
  deriving DecidableEq, Repr

/-- A packet on the command or data bus. The payload pointer is left out: the controller
only moves it. -/
structure BusPacket where
  busPacketType : BusPacketType
  physicalAddress : Nat
  column : Nat
  row : Nat
  rank : Nat
  bank : Nat
  deriving DecidableEq, Repr

/-- A memory request, with the two timestamps the controller writes. -/
structure Transaction where
  transactionType : TransactionType
  address : Nat
  timeAdded : Nat
  timeACTIssued : Nat
  deriving DecidableEq, Repr

instance : Nonempty BusPacket := ⟨⟨.DATA, 0, 0, 0, 0, 0⟩⟩

instance : Nonempty Transaction := ⟨⟨.DATA_READ, 0, 0, 0⟩⟩

/-- The controller's view of one bank: its state, open row, `not before` guards and the
countdown to its next implicit transition. -/
structure BankState where
  currentBankState : CurrentBankState
  openRowAddress : Nat
  nextRead : Nat
  nextWrite : Nat
  nextActivate : Nat
  nextPrecharge : Nat
  nextPowerUp : Nat
  lastCommand : BusPacketType
  stateChangeCountdown : Nat
  deriving DecidableEq, Repr

/-- Modelled from the spec: the constructor of `BankState`, which is not among the
repository's files. A bank starts Idle, with every guard at cycle 0 and no pending
transition. -/
def BankState.init : BankState where
  currentBankState := .Idle
  openRowAddress := 0
  nextRead := 0
  nextWrite := 0
  nextActivate := 0
  nextPrecharge := 0
  nextPowerUp := 0
  lastCommand := .READ
  stateChangeCountdown := 0

/-- The result of `addressMapping`, an external pure function of the physical address. -/
structure MappedAddress where
  chan : Nat
  rank : Nat
  bank : Nat
  row : Nat
  column : Nat
  deriving DecidableEq, Repr

/-- The device and system profile as `update()` reads it. The two positivity fields are
preconditions of the code itself: it reads `refreshCountdown[0]` and `bankStates[i][0]`
unconditionally. `refreshPeriod` is `REFRESH_PERIOD/tCK`, the value the refresh countdown
is re-armed with. -/
structure Config where
  NUM_RANKS : Nat
  NUM_BANKS : Nat
  numRanks_pos : 0 < NUM_RANKS
  numBanks_pos : 0 < NUM_BANKS
  TRANS_QUEUE_DEPTH : Nat
  isSmartMRAM : Bool
  USE_LOW_POWER : Bool
  rowBufferPolicy : RowBufferPolicy
  addressMapping : Nat → MappedAddress
  refreshPeriod : Nat
  tRCD : UInt32
  tRP : UInt32
  tRAS : UInt32
  tRC : UInt32
  tRFC : UInt32
  tRRD : UInt32
  tCCD : UInt32
  tRTRS : UInt32
  tCMD : UInt32
  tXP : UInt32
  tCKE : UInt32
  AL : UInt32
  BL : UInt32
  WL : UInt32
  READ_TO_PRE_DELAY : UInt32
  WRITE_TO_PRE_DELAY : UInt32
  READ_AUTOPRE_DELAY : UInt32
  WRITE_AUTOPRE_DELAY : UInt32
  READ_TO_WRITE_DELAY : UInt32
  WRITE_TO_READ_DELAY_B : UInt32
  WRITE_TO_READ_DELAY_R : UInt32
  IDD0 : UInt32
  IDD2N : UInt32
  IDD2P : UInt32
  IDD3N : UInt32
  IDD4R : UInt32
  IDD4W : UInt32
  IDD5 : UInt32
  NUM_DEVICES : UInt32

namespace Config

variable (cfg : Config)

/-- `SEQUENTIAL(rank,bank)`, the flat index of a bank in the per-bank counters. -/
def SEQUENTIAL (rank bank : Nat) : Nat := rank * cfg.NUM_BANKS + bank

/-- The activate-precharge energy of one row, in `unsigned` arithmetic. -/
def actpreIncrement : UInt32 :=
  (cfg.IDD0 * cfg.tRC - (cfg.IDD3N * cfg.tRAS + cfg.IDD2N * (cfg.tRC - cfg.tRAS))) *
    cfg.NUM_DEVICES

/-- The burst energy of one read, in `unsigned` arithmetic. -/
def readBurstIncrement : UInt32 := (cfg.IDD4R - cfg.IDD3N) * cfg.BL / 2 * cfg.NUM_DEVICES

/-- The burst energy of one write, in `unsigned` arithmetic. -/
def writeBurstIncrement : UInt32 := (cfg.IDD4W - cfg.IDD3N) * cfg.BL / 2 * cfg.NUM_DEVICES

/-- The energy of one refresh, in `unsigned` arithmetic. -/
def refreshIncrement : UInt32 := (cfg.IDD5 - cfg.IDD3N) * cfg.tRFC * cfg.NUM_DEVICES

/-- Modelled from the spec: `Transaction::getBusPacketType`, which is not among the
repository's files. Open page gives READ or WRITE, close page READ_P or WRITE_P; a return
transaction has no command. -/
def getBusPacketType : TransactionType → Option BusPacketType
  | .DATA_READ => some (if cfg.rowBufferPolicy = .ClosePage then .READ_P else .READ)
  | .DATA_WRITE => some (if cfg.rowBufferPolicy = .ClosePage then .WRITE_P else .WRITE)
  | .RETURN_DATA => none

end Config

/-- A `uint64_t` accumulator after `+=` of an `unsigned` amount. -/
def accumulate (total : Nat) (amount : UInt32) : Nat := (total + amount.toNat) % 2 ^ 64

/-- A concrete profile to evaluate the model at: two ranks of eight banks, DDR3-like
timings and currents, conventional technology, open page, low power on, and an address
mapping with the column in the low bits, then bank, rank and row. The device files the
repository's scripts name are not among its sources, so the values are this development's
choice. -/
def Config.sample : Config where
  NUM_RANKS := 2
  NUM_BANKS := 8
  numRanks_pos := by decide
  numBanks_pos := by decide
  TRANS_QUEUE_DEPTH := 32
  isSmartMRAM := false
  USE_LOW_POWER := true
  rowBufferPolicy := .OpenPage
  addressMapping := fun a => ⟨0, a / 8192 % 2, a / 1024 % 8, a / 16384, a % 1024⟩
  refreshPeriod := 5200
  tRCD := 10
  tRP := 10
  tRAS := 24
  tRC := 34
  tRFC := 107
  tRRD := 4
  tCCD := 4
  tRTRS := 1
  tCMD := 1
  tXP := 4
  tCKE := 4
  AL := 0
  BL := 8
  WL := 9
  READ_TO_PRE_DELAY := 7
  WRITE_TO_PRE_DELAY := 23
  READ_AUTOPRE_DELAY := 15
  WRITE_AUTOPRE_DELAY := 33
  READ_TO_WRITE_DELAY := 6
  WRITE_TO_READ_DELAY_B := 18
  WRITE_TO_READ_DELAY_R := 4
  IDD0 := 85
  IDD2N := 42
  IDD2P := 12
  IDD3N := 45
  IDD4R := 180
  IDD4W := 185
  IDD5 := 215
  NUM_DEVICES := 8

end DramSim
