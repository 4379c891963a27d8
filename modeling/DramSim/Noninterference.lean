import DramSim.Run

/-! # The statistics never steer the controller

`printStats` reports the transaction counter, the per-bank read and write counters and the
four energy accumulators, and ends each epoch with `resetStats`. No block of `update()`, no
call of the caller's and no callback reads them but to add to them. So two states that agree
but for them serve every event alike: the same effects, the same exits, and again states
that agree but for them (`runEvents_control`). In particular, printing the statistics and
resetting them anywhere in a run changes nothing else the controller does
(`resetStats_unobservable`).
-/

namespace DramSim

/-- The state with its statistics cleared: what every decision of the controller reads. -/
def State.control (s : State) : State :=
  { s with
    totalTransactions := 0
    totalReadsPerBank := fun _ => 0
    totalWritesPerBank := fun _ => 0
    backgroundEnergy := fun _ => 0
    burstEnergy := fun _ => 0
    actpreEnergy := fun _ => 0
    refreshEnergy := fun _ => 0 }

/-- A block's result with the statistics of its state cleared. -/
def controlOf (r : State × List Effect) : State × List Effect := (r.1.control, r.2)

/-- Whether an event is the statistics reset that ends each `printStats`. -/
def Event.isResetStats : Event → Bool
  | .resetStats => true
  | _ => false

/-- Whether an effect records a statistics reset. -/
def Effect.isResetStats : Effect → Bool
  | .resetStats _ => true
  | _ => false

variable {cfg : Config}

/-! ## Composing blocks that ignore the statistics -/

section Compose

variable {α β : Type}

/-- A block whose result, statistics cleared, is the same from the state with its statistics
cleared gives the same result from any two states that agree but for their statistics. -/
theorem eq_of_control {f : State → α} {F : α → α} (hf : ∀ s, F (f s) = F (f s.control))
    {a b : State} (h : a.control = b.control) : F (f a) = F (f b) := by
  rw [hf a, hf b, h]

/-- Sequencing two fallible blocks that ignore the statistics ignores them. -/
theorem map_bind_control {x y : Except Abort α} {Fa : α → α} {f g : α → Except Abort β}
    {F : β → β} (hxy : x.map Fa = y.map Fa)
    (hfg : ∀ a b, Fa a = Fa b → (f a).map F = (g b).map F) :
    (x >>= f).map F = (y >>= g).map F := by
  cases x with
  | error e =>
      cases y with
      | error e' =>
          cases hxy
          rfl
      | ok b => cases hxy
  | ok a =>
      cases y with
      | error e' => cases hxy
      | ok b => exact hfg a b (Except.ok.inj hxy)

end Compose

/-! ## The blocks of one cycle -/

section Blocks

variable (s : State)

theorem updateBankStates_control :
    controlOf (updateBankStates cfg s) = controlOf (updateBankStates cfg s.control) := rfl

theorem sendCommand_control : controlOf (sendCommand s) = controlOf (sendCommand s.control) := by
  unfold sendCommand
  dsimp only [State.control]
  split <;> (try split_ifs) <;> rfl

theorem sendData_control : controlOf (sendData s) = controlOf (sendData s.control) := by
  unfold sendData
  dsimp only [State.control]
  split <;> (try split_ifs) <;> rfl

/-- The write-data block counts the write it loads, and reads no counter to do it. -/
theorem sendWriteData_control :
    (sendWriteData cfg s).map State.control = (sendWriteData cfg s.control).map State.control := by
  unfold sendWriteData
  dsimp only [State.control]
  split <;> (try split_ifs) <;> rfl

theorem refreshGate_control :
    controlOf (refreshGate cfg s) = controlOf (refreshGate cfg s.control) := by
  unfold refreshGate
  dsimp only [State.control]
  split_ifs <;> rfl

theorem queueWriteData_control (packet : BusPacket) :
    (queueWriteData cfg packet s).control = (queueWriteData cfg packet s.control).control := by
  unfold queueWriteData
  split_ifs <;> rfl

/-- The popped command charges its energy, and reads no accumulator to decide anything. -/
theorem applyCommand_control (packet : BusPacket) :
    (applyCommand cfg packet s).map State.control =
      (applyCommand cfg packet s.control).map State.control := by
  unfold applyCommand
  split <;> rfl

theorem issuePopped_control (popped : Option BusPacket) :
    (issuePopped cfg popped s).map controlOf =
      (issuePopped cfg popped s.control).map controlOf := by
  cases popped with
  | none => rfl
  | some packet =>
      refine map_bind_control
        (eq_of_control (applyCommand_control · packet) (queueWriteData_control s packet))
        fun a b hab => ?_
      have hbus := congrArg State.outgoingCmdPacket hab
      change a.outgoingCmdPacket = b.outgoingCmdPacket at hbus
      rw [hbus]
      split_ifs
      · rfl
      · exact congrArg (fun t : State =>
          Except.ok
            (({ t with outgoingCmdPacket := some packet, cmdCyclesLeft := cfg.tCMD }).control,
              [Effect.issue t.currentClockCycle packet])) hab

theorem admitTransaction_control (hasRoomFor : Nat → Nat → Bool) :
    (admitTransaction cfg hasRoomFor s).map controlOf =
      (admitTransaction cfg hasRoomFor s.control).map controlOf := by
  unfold admitTransaction
  dsimp only [State.control]
  split
  · rfl
  · split <;> rfl

theorem lowPower_control (isEmpty : Nat → Bool) :
    controlOf (lowPower cfg isEmpty s) = controlOf (lowPower cfg isEmpty s.control) := rfl

/-- The return path counts the read it completes, and reads no counter to do it. -/
theorem returnPath_control :
    (returnPath s).map controlOf = (returnPath s.control).map controlOf := by
  unfold returnPath
  dsimp only [State.control]
  split
  · rfl
  · split <;> rfl

theorem decrementRefresh_control :
    (decrementRefresh cfg s).control = (decrementRefresh cfg s.control).control := rfl

end Blocks

/-! ## One cycle and one event -/

/-- One `update()` ignores the statistics. -/
theorem update_control (input : UpdateInput) (s : State) :
    (update cfg input s).map controlOf = (update cfg input s.control).map controlOf := by
  have hu := @updateBankStates_control cfg s
  have hc := eq_of_control sendCommand_control (congrArg Prod.fst hu)
  have hd := eq_of_control sendData_control (congrArg Prod.fst hc)
  unfold update
  refine map_bind_control (eq_of_control sendWriteData_control (congrArg Prod.fst hd))
    fun w w' hw => ?_
  have hg := eq_of_control (@refreshGate_control cfg) hw
  refine map_bind_control (eq_of_control (issuePopped_control · input.popped)
    (congrArg Prod.fst hg)) fun i i' hi => ?_
  refine map_bind_control (eq_of_control (admitTransaction_control · input.hasRoomFor)
    (congrArg Prod.fst hi)) fun a a' ha => ?_
  have hp := eq_of_control (@lowPower_control cfg · input.isEmpty) (congrArg Prod.fst ha)
  refine map_bind_control (eq_of_control returnPath_control (congrArg Prod.fst hp))
    fun r r' hr => ?_
  have hk := eq_of_control (@decrementRefresh_control cfg) (congrArg Prod.fst hr)
  simp only [controlOf, Prod.mk.injEq] at hu hc hd hg hi ha hp hr
  show Except.ok (_, _) = Except.ok (_, _)
  rw [hk, hu.2, hc.2, hd.2, hg.2, hi.2, ha.2, hp.2, hr.2]

/-- Every event ignores the statistics: `resetStats` changes nothing else, and
`receiveFromBus` and `update()` only add to them. -/
theorem exec_control (e : Event) (s : State) :
    (exec cfg e s).map controlOf = (exec cfg e s.control).map controlOf := by
  cases e with
  | addTransaction transactionType address =>
      dsimp only [exec, addTransaction, State.control]
      split_ifs <;> rfl
  | receiveFromBus packet =>
      dsimp only [exec, receiveFromBus, State.control]
      split_ifs <;> rfl
  | refreshDone rank => rfl
  | resetStats => rfl
  | update input =>
      have h := @update_control cfg input s
      simp only [exec]
      revert h
      cases update cfg input s <;> cases update cfg input s.control <;> intro h <;>
        simp only [Except.map, Except.error.injEq, Except.ok.injEq, reduceCtorEq] at h ⊢
      · exact h
      · exact congrArg (fun x : State × List Effect =>
          (({ x.1 with currentClockCycle := x.1.currentClockCycle + 1 }).control, x.2)) h

/-! ## Whole runs -/

/-- Two states that agree but for their statistics serve every sequence of events alike: the
same effects, the same exit, and states that again agree but for their statistics. -/
theorem runEvents_control (es : List Event) {s t : State} (h : s.control = t.control)
    (log : List Effect) :
    (runEvents cfg es s log).map controlOf = (runEvents cfg es t log).map controlOf := by
  induction es generalizing s t log with
  | nil => exact congrArg (fun x => Except.ok (x, log)) h
  | cons e es ih =>
      have he := eq_of_control (@exec_control cfg e) h
      simp only [runEvents]
      revert he
      cases exec cfg e s with
      | error a =>
          cases exec cfg e t with
          | error b => intro he; cases he; rfl
          | ok r' => intro he; cases he
      | ok r =>
          obtain ⟨s₁, out⟩ := r
          cases exec cfg e t with
          | error b => intro he; cases he
          | ok r' =>
              obtain ⟨t₁, out'⟩ := r'
              intro he
              simp only [Except.map, Except.ok.injEq, controlOf, Prod.mk.injEq] at he
              obtain ⟨hc, rfl⟩ := he
              exact ih hc _

set_option maxRecDepth 100000 in
/-- A controller whose counters were cleared and one whose counters were not issue the same
ACTIVATE, then the same WRITE: only the statistics tell them apart. -/
theorem runEvents_control_sample :
    (State.init Config.sample).control =
        ({ State.init Config.sample with
          totalTransactions := 7, burstEnergy := fun _ => 3 } : State).control ∧
      (runEvents Config.sample
          [.update ⟨some ⟨.ACTIVATE, 0, 0, 0, 0, 0⟩, fun _ _ => false, fun _ => false⟩,
            .update ⟨some ⟨.WRITE, 0, 0, 0, 0, 0⟩, fun _ _ => false, fun _ => false⟩]
          (State.init Config.sample) []).map controlOf =
        (runEvents Config.sample
          [.update ⟨some ⟨.ACTIVATE, 0, 0, 0, 0, 0⟩, fun _ _ => false, fun _ => false⟩,
            .update ⟨some ⟨.WRITE, 0, 0, 0, 0, 0⟩, fun _ _ => false, fun _ => false⟩]
          { State.init Config.sample with
            totalTransactions := 7, burstEnergy := fun _ => 3 } []).map controlOf := by
  refine ⟨rfl, runEvents_control _ ?_ []⟩
  rfl

/-- Removing `resetStats` calls from a sequence of events, from two states that agree but for
their statistics and two histories that agree but for reset records, changes neither the exit
nor anything but the statistics and the reset records. -/
theorem runEvents_filter_resetStats (es : List Event) {s t : State} (h : s.control = t.control)
    {log log' : List Effect}
    (hlog : log.filter (fun e => !e.isResetStats) = log'.filter fun e => !e.isResetStats) :
    (runEvents cfg es s log).map (fun r => (r.1.control, r.2.filter fun e => !e.isResetStats)) =
      (runEvents cfg (es.filter fun e => !e.isResetStats) t log').map
        fun r => (r.1.control, r.2.filter fun e => !e.isResetStats) := by
  induction es generalizing s t log log' with
  | nil => exact congrArg Except.ok (Prod.ext h hlog)
  | cons e es ih =>
      by_cases hreset : e.isResetStats = true
      · -- a reset clears statistics only, and leaves only its own record
        cases e <;> simp only [Event.isResetStats, reduceCtorEq] at hreset
        rw [List.filter_cons_of_neg (by simp [Event.isResetStats])]
        simp only [runEvents, exec]
        refine ih (s := resetStats cfg s) h ?_
        rw [List.filter_append, hlog]
        simp [Effect.isResetStats]
      · have he := eq_of_control (@exec_control cfg e) h
        rw [List.filter_cons_of_pos (by simpa using hreset)]
        simp only [runEvents]
        revert he
        cases exec cfg e s with
        | error a =>
            cases exec cfg e t with
            | error b => intro he; cases he; rfl
            | ok r' => intro he; cases he
        | ok r =>
            obtain ⟨s₁, out⟩ := r
            cases exec cfg e t with
            | error b => intro he; cases he
            | ok r' =>
                obtain ⟨t₁, out'⟩ := r'
                intro he
                simp only [Except.map, Except.ok.injEq, controlOf, Prod.mk.injEq] at he
                obtain ⟨hc, rfl⟩ := he
                exact ih hc (by simp only [List.filter_append, hlog])

/-- `printStats` ends each epoch with `resetStats`. Printing the statistics anywhere in any
sequence of events changes nothing else the controller does: without the resets it issues the
same commands, makes the same calls and callbacks, exits alike, and ends in the same state but
for the statistics. -/
theorem resetStats_unobservable (es : List Event) :
    (runEvents cfg es (State.init cfg) []).map
        (fun r => (r.1.control, r.2.filter fun e => !e.isResetStats)) =
      (runEvents cfg (es.filter fun e => !e.isResetStats) (State.init cfg) []).map
        fun r => (r.1.control, r.2.filter fun e => !e.isResetStats) :=
  runEvents_filter_resetStats es rfl rfl

end DramSim
