import DramSim.Update

/-! # Runs of the controller

A run starts at the constructor's state and serves events one after another. The command
queue, the ranks and the caller are the environment: an `allowed` predicate says which
events it may produce at the state and history it meets, so each property of the
controller is stated for every environment that keeps a contract. The command queue's
contract (§4.3 of the spec) is `admits` and `due`.
-/

namespace DramSim

variable (cfg : Config)

/-- The runs from construction in which every event is `allowed` at the state and the
effects so far. -/
inductive Run (allowed : State → List Effect → Event → Bool) :
    State → List Effect → Prop where
  | init : Run allowed (State.init cfg) []
  | step {s : State} {log : List Effect} {e : Event} {s' : State} {out : List Effect} :
      Run allowed s log → allowed s log e = true → exec cfg e s = .ok (s', out) →
        Run allowed s' (log ++ out)

variable {cfg}

/-- A property of states and histories that holds at construction and is kept by every
allowed event holds along every run. -/
theorem Run.invariant {allowed : State → List Effect → Event → Bool}
    (inv : State → List Effect → Prop) (hinit : inv (State.init cfg) [])
    (hstep : ∀ s log e s' out, inv s log → allowed s log e = true →
      exec cfg e s = .ok (s', out) → inv s' (log ++ out))
    {s : State} {log : List Effect} (hrun : Run cfg allowed s log) : inv s log := by
  induction hrun with
  | init => exact hinit
  | step _ hallowed hexec ih => exact hstep _ _ _ _ _ ih hallowed hexec

/-- A run of a stricter environment is a run of a more permissive one. -/
theorem Run.mono {allowed allowed' : State → List Effect → Event → Bool}
    (hsub : ∀ s log e, allowed s log e = true → allowed' s log e = true)
    {s : State} {log : List Effect} (hrun : Run cfg allowed s log) : Run cfg allowed' s log := by
  induction hrun with
  | init => exact .init
  | step _ hallowed hexec ih => exact .step ih (hsub _ _ _ hallowed) hexec

variable (cfg)

/-! ## The command queue's contract -/

/-- The command queue pops only what the target bank's state admits: ACTIVATE to an Idle
bank, a column command to a bank RowActive on the command's row, PRECHARGE to a RowActive
bank, REFRESH when every bank of the rank is Idle; never a DATA packet. -/
def admits (banks : Nat → Nat → BankState) (p : BusPacket) : Bool :=
  decide (p.rank < cfg.NUM_RANKS) && decide (p.bank < cfg.NUM_BANKS) &&
    match p.busPacketType with
    | .ACTIVATE => (banks p.rank p.bank).currentBankState = .Idle
    | .READ | .READ_P | .WRITE | .WRITE_P =>
        (banks p.rank p.bank).currentBankState = .RowActive &&
          (banks p.rank p.bank).openRowAddress = p.row
    | .PRECHARGE => (banks p.rank p.bank).currentBankState = .RowActive
    | .REFRESH => (List.range cfg.NUM_BANKS).all fun j =>
        (banks p.rank j).currentBankState = .Idle
    | .DATA => false

/-- The popped packet is no earlier than its bank's guard at cycle `c`; a REFRESH is no
earlier than every bank's `nextActivate`. -/
def due (banks : Nat → Nat → BankState) (c : Nat) (p : BusPacket) : Bool :=
  match p.busPacketType with
  | .ACTIVATE => (banks p.rank p.bank).nextActivate ≤ c
  | .READ | .READ_P => (banks p.rank p.bank).nextRead ≤ c
  | .WRITE | .WRITE_P => (banks p.rank p.bank).nextWrite ≤ c
  | .PRECHARGE => (banks p.rank p.bank).nextPrecharge ≤ c
  | .REFRESH => (List.range cfg.NUM_BANKS).all fun j => (banks p.rank j).nextActivate ≤ c
  | .DATA => true

/-- An environment whose command queue pops only packets `ok` accepts against the bank
table at the pop and the current cycle; the other events are unconstrained. -/
def popsOnly (ok : (Nat → Nat → BankState) → Nat → BusPacket → Bool) :
    State → List Effect → Event → Bool
  | s, _, .update input =>
      match input.popped with
      | some p => ok (popBanks cfg s) s.currentClockCycle p
      | none => true
  | _, _, _ => true

/-- The command queue pops only admitted packets. -/
def admitted : State → List Effect → Event → Bool :=
  popsOnly cfg fun banks _ p => admits cfg banks p

/-- The command queue pops only admitted packets, and each no earlier than its guard. -/
def admittedDue : State → List Effect → Event → Bool :=
  popsOnly cfg fun banks c p => admits cfg banks p && due cfg banks c p

/-! ## Replaying a list of events -/

/-- Serve a list of events in order, collecting the effects. -/
def runEvents : List Event → State → List Effect → Except Abort (State × List Effect)
  | [], s, log => .ok (s, log)
  | e :: es, s, log =>
      match exec cfg e s with
      | .ok (s', out) => runEvents es s' (log ++ out)
      | .error a => .error a

/-- Whether every event of the list is `allowed` when it is served. -/
def allowedAlong (allowed : State → List Effect → Event → Bool) :
    List Event → State → List Effect → Bool
  | [], _, _ => true
  | e :: es, s, log =>
      allowed s log e &&
        match exec cfg e s with
        | .ok (s', out) => allowedAlong allowed es s' (log ++ out)
        | .error _ => true

variable {cfg}

theorem run_of_runEvents {allowed : State → List Effect → Event → Bool} :
    ∀ {es : List Event} {s : State} {log : List Effect} {s' : State} {log' : List Effect},
      Run cfg allowed s log → allowedAlong cfg allowed es s log = true →
        runEvents cfg es s log = .ok (s', log') → Run cfg allowed s' log'
  | [], _, _, _, _, hrun, _, hevents => by
      simp only [runEvents, Except.ok.injEq, Prod.mk.injEq] at hevents
      obtain ⟨rfl, rfl⟩ := hevents
      exact hrun
  | e :: es, s, log, _, _, hrun, hallowed, hevents => by
      simp only [allowedAlong, Bool.and_eq_true] at hallowed
      simp only [runEvents] at hevents
      cases hexec : exec cfg e s with
      | error a => simp [hexec] at hevents
      | ok r =>
          rw [hexec] at hevents hallowed
          exact run_of_runEvents (.step hrun hallowed.1 hexec) hallowed.2 hevents

/-- Whether a replay ended without an exit in a state and history satisfying `p`. -/
def observe (p : State → List Effect → Bool) : Except Abort (State × List Effect) → Bool
  | .ok r => p r.1 r.2
  | .error _ => false

/-- A replayed list of allowed events ends in a run whose last state and history satisfy
the observation `p`. -/
theorem exists_run_of_runEvents {allowed : State → List Effect → Event → Bool}
    {es : List Event} {p : State → List Effect → Bool}
    (hallowed : allowedAlong cfg allowed es (State.init cfg) [] = true)
    (hp : observe p (runEvents cfg es (State.init cfg) []) = true) :
    ∃ s log, Run cfg allowed s log ∧ p s log = true := by
  cases hevents : runEvents cfg es (State.init cfg) [] with
  | error a => simp [hevents, observe] at hp
  | ok r =>
      rw [hevents] at hp
      exact ⟨r.1, r.2, run_of_runEvents .init hallowed hevents, hp⟩

end DramSim
