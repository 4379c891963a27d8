import DramSim.Frame

/-! # The command bus

The pop step puts the issued command on the command bus for `tCMD` cycles, and the top of
every `update()` counts it down and hands it to its rank when the count reaches zero. With
`tCMD = 1` the command reaches its rank in the next `update()`, so the bus is free whenever
the next pop comes and the command bus collision exit is never taken. The data bus and the
write-data queue only ever hold DATA packets, so the commands handed to the ranks are the
deliveries of the other packets: they are the issued commands, one cycle later, in issue
order.
-/

namespace DramSim

/-! ## The buses of a state -/

/-- The two buses, the write-data queue, and the per-bank write counters it keeps. -/
structure Buses where
  outgoingCmdPacket : Option BusPacket
  cmdCyclesLeft : UInt32
  outgoingDataPacket : Option BusPacket
  dataCyclesLeft : UInt32
  writeDataToSend : List BusPacket
  writeDataCountdown : List UInt32
  totalWritesPerBank : Nat → Nat

/-- The buses of a state. -/
def State.buses (s : State) : Buses :=
  ⟨s.outgoingCmdPacket, s.cmdCyclesLeft, s.outgoingDataPacket, s.dataCyclesLeft,
    s.writeDataToSend, s.writeDataCountdown, s.totalWritesPerBank⟩

/-- Whether an effect is a bus event: a command issued, or a packet handed to a rank with the
`WriteDataDone` of a write burst. -/
def Effect.onBus : Effect → Bool
  | .issue .. | .deliver .. | .writeDataDone .. => true
  | _ => false

/-- The cycle and packet of an issued command. -/
def Effect.issued : Effect → Option (Nat × BusPacket)
  | .issue c p => some (c, p)
  | _ => none

/-- The cycle and packet of a command handed to its rank from the command bus: a delivery of
a packet other than DATA. -/
def Effect.commandDelivered : Effect → Option (Nat × BusPacket)
  | .deliver c p => if p.busPacketType = .DATA then none else some (c, p)
  | _ => none

theorem Effect.issued_of_onBus {e : Effect} (h : e.onBus = false) : e.issued = none := by
  cases e <;> first | rfl | simp [Effect.onBus] at h

theorem Effect.commandDelivered_of_onBus {e : Effect} (h : e.onBus = false) :
    e.commandDelivered = none := by
  cases e <;> first | rfl | simp [Effect.onBus] at h

/-- The buses carry their own kind of packet: the command bus a command, the data bus and
the write-data queue DATA packets. -/
structure Buses.Kinds (b : Buses) : Prop where
  command : ∀ p, b.outgoingCmdPacket = some p → p.busPacketType ≠ .DATA
  data : ∀ p, b.outgoingDataPacket = some p → p.busPacketType = .DATA
  queued : ∀ p ∈ b.writeDataToSend, p.busPacketType = .DATA

variable {cfg : Config}

/-! ## The blocks on the buses -/

section Blocks

variable {s : State}

theorem refreshGate_buses : (refreshGate cfg s).1.buses = s.buses := by
  obtain ⟨_, _, _, h⟩ := @refreshGate_shape cfg s
  rw [h]
  rfl

theorem refreshGate_currentClockCycle :
    (refreshGate cfg s).1.currentClockCycle = s.currentClockCycle := by
  obtain ⟨_, _, _, h⟩ := @refreshGate_shape cfg s
  rw [h]

/-- The countdown of the command bus: a command with one cycle left reaches its rank. -/
theorem sendCommand_one_left (h : ∀ p, s.outgoingCmdPacket = some p → s.cmdCyclesLeft = 1) :
    (sendCommand s).1.outgoingCmdPacket = none ∧
      (sendCommand s).2 = (s.outgoingCmdPacket.map (.deliver s.currentClockCycle)).toList := by
  unfold sendCommand
  cases hp : s.outgoingCmdPacket with
  | none => exact ⟨hp, rfl⟩
  | some p => simp [h p hp]

/-- The pop step on the buses: the issued command goes on the free command bus for `tCMD`
cycles, after a WRITE or WRITE_P has queued its data; without a command nothing changes. -/
theorem issuePopped_buses {popped : Option BusPacket} {r : State × List Effect}
    (h : issuePopped cfg popped s = .ok r) :
    popped = none ∧ r.1.buses = s.buses ∨
      ∃ p, popped = some p ∧ p.busPacketType ≠ .DATA ∧ s.outgoingCmdPacket = none ∧
        r.1.buses = { (queueWriteData cfg p s).buses with
          outgoingCmdPacket := some p, cmdCyclesLeft := cfg.tCMD } := by
  rcases issuePopped_eq_ok h with ⟨hp, rfl⟩ | ⟨p, hp, hissue⟩
  · exact .inl ⟨hp, rfl⟩
  · obtain ⟨applied, happ, hfree, rfl⟩ := issue_eq_ok hissue
    have hdata : p.busPacketType ≠ .DATA := fun hd => by simp [applyCommand, hd] at happ
    obtain ⟨_, _, hq⟩ := @queueWriteData_shape cfg p s
    obtain ⟨_, _, _, _, _, rfl⟩ := applyCommand_shape happ
    have hcmd : (queueWriteData cfg p s).outgoingCmdPacket = s.outgoingCmdPacket := by rw [hq]
    exact .inr ⟨p, hp, hdata, hcmd ▸ hfree, rfl⟩

/-- The blocks after the pop step leave the buses and the clock alone. -/
theorem buses_after_pop {hasRoomFor : Nat → Nat → Bool} {isEmpty : Nat → Bool}
    {admitted returned : State × List Effect}
    (ha : admitTransaction cfg hasRoomFor s = .ok admitted)
    (hr : returnPath (lowPower cfg isEmpty admitted.1).1 = .ok returned) :
    (decrementRefresh cfg returned.1).buses = s.buses ∧
      (decrementRefresh cfg returned.1).currentClockCycle = s.currentClockCycle := by
  obtain ⟨_, _, ha'⟩ := admitTransaction_shape ha
  obtain ⟨_, _, _, hr'⟩ := returnPath_shape hr
  show returned.1.buses = _ ∧ returned.1.currentClockCycle = _
  rw [hr']
  show admitted.1.buses = _ ∧ admitted.1.currentClockCycle = _
  rw [ha']
  exact ⟨rfl, rfl⟩

/-- The pop step sees the command bus the command countdown left, at the cycle `update()`
started in. -/
theorem popStep_commandBus {written : State} (hw : DramSim.sendWriteData cfg
      (sendData (sendCommand (updateBankStates cfg s).1).1).1 = .ok written) :
    (refreshGate cfg written).1.outgoingCmdPacket =
        (sendCommand (updateBankStates cfg s).1).1.outgoingCmdPacket ∧
      (refreshGate cfg written).1.currentClockCycle = s.currentClockCycle := by
  obtain ⟨_, _, _, _, _, _, rfl⟩ := sendWriteData_shape hw
  obtain ⟨_, _, hd⟩ := sendData_shape (sendCommand (updateBankStates cfg s).1).1
  obtain ⟨_, _, hc⟩ := sendCommand_shape (updateBankStates cfg s).1
  obtain ⟨_, _, _, hg⟩ := @refreshGate_shape cfg
    { (sendData (sendCommand (updateBankStates cfg s).1).1).1 with
      outgoingDataPacket := _, dataCyclesLeft := _, totalTransactions := _,
      totalWritesPerBank := _, writeDataCountdown := _, writeDataToSend := _ }
  rw [hg, hd]
  exact ⟨rfl, by rw [hc]; rfl⟩

/-- The "Command Bus Collision" exit: the pop step found a command still on the bus. -/
theorem issuePopped_eq_commandBusCollision {popped : Option BusPacket}
    (h : issuePopped cfg popped s = .error .commandBusCollision) :
    s.outgoingCmdPacket.isSome := by
  cases popped with
  | none => cases h
  | some packet =>
      simp only [issuePopped, issue, except_bind_eq_error] at h
      rcases h with h | ⟨applied, happ, h⟩
      · cases applyCommand_eq_error h
      · obtain ⟨_, _, _, _, _, rfl⟩ := applyCommand_shape happ
        obtain ⟨_, _, hq⟩ := @queueWriteData_shape cfg packet s
        split at h
        · rw [hq] at *
          assumption
        · cases h

/-- An `update()` takes the "Command Bus Collision" exit only when its pop step finds the
command bus busy. -/
theorem update_eq_commandBusCollision {input : UpdateInput}
    (h : update cfg input s = .error .commandBusCollision) :
    ∃ written, DramSim.sendWriteData cfg (sendData (sendCommand (updateBankStates cfg s).1).1).1
      = .ok written ∧ (refreshGate cfg written).1.outgoingCmdPacket.isSome := by
  simp only [update, except_bind_eq_error] at h
  rcases h with
    hw | ⟨written, hw, hi | ⟨issued, -, ha | ⟨admitted, -, hr | ⟨_, -, hpure⟩⟩⟩⟩
  · cases sendWriteData_eq_error hw
  · exact ⟨written, hw, issuePopped_eq_commandBusCollision hi⟩
  · cases admitTransaction_eq_error ha
  · obtain ⟨_, h⟩ := returnPath_eq_error hr
    cases h
  · cases hpure

end Blocks

/-! ## One update on the buses -/

/-- One `update()` on the buses: the two bus countdowns at the top, the write-data queue,
and the pop step. The later blocks touch neither the buses nor the clock, and the bus events
come from the countdowns and the pop step alone. -/
theorem update_onBus {input : UpdateInput} {s : State} {r : State × List Effect}
    (hu : update cfg input s = .ok r) :
    ∃ written issued,
      sendWriteData cfg (sendData (sendCommand (updateBankStates cfg s).1).1).1 = .ok written ∧
      issuePopped cfg input.popped (refreshGate cfg written).1 = .ok issued ∧
      r.1.buses = issued.1.buses ∧ r.1.currentClockCycle = s.currentClockCycle ∧
      r.2.filter Effect.onBus = (sendCommand (updateBankStates cfg s).1).2 ++
        (sendData (sendCommand (updateBankStates cfg s).1).1).2 ++ issued.2 := by
  obtain ⟨written, issued, admitted, returned, hw, hi, ha, hr, rfl⟩ := update_eq_ok hu
  obtain ⟨hbuses, hclock⟩ := buses_after_pop ha hr
  obtain ⟨_, _, _, _, _, _, _, _, _, _, _, hgate⟩ := refreshGate_written_shape hw
  refine ⟨written, issued, hw, hi, hbuses, ?_, ?_⟩
  · rw [hclock, (issuePopped_fields hi).2.2.2, hgate]
  · have hnone : ∀ {l : List Effect}, (∀ e ∈ l, e.onBus = false) → l.filter Effect.onBus = [] :=
      fun hl => List.filter_eq_nil_iff.mpr fun e he => by simp [hl e he]
    have hall : ∀ {l : List Effect}, (∀ e ∈ l, e.onBus = true) → l.filter Effect.onBus = l :=
      fun hl => List.filter_eq_self.mpr hl
    simp only [List.filter_append]
    rw [hnone fun e he => by obtain ⟨_, _, _, _, _, rfl⟩ := mem_updateBankStates_effects he; rfl,
      hall fun e he => by obtain ⟨_, -, rfl⟩ := mem_sendCommand_effects he; rfl,
      hall fun e he => by obtain ⟨_, -, rfl | rfl⟩ := mem_sendData_effects he <;> rfl,
      hnone fun e he => by obtain ⟨-, rfl⟩ := mem_refreshGate_effects he; rfl,
      hall fun e he => by obtain ⟨_, -, rfl⟩ := mem_issuePopped_effects hi he; rfl,
      hnone fun e he => by
        rcases mem_admitTransaction_effects ha he with ⟨_, rfl⟩ | ⟨_, rfl⟩ <;> rfl,
      hnone fun e he => by
        obtain ⟨_, -, ⟨-, rfl⟩ | ⟨-, rfl⟩⟩ := mem_lowPower_effects he <;> rfl,
      hnone fun e he => by obtain ⟨_, rfl⟩ := mem_returnPath_effects hr he; rfl]
    simp only [List.append_nil, List.nil_append]


/-! ## What the buses carry -/

namespace Buses.Kinds

variable {s s' : State}

theorem sendCommand (h : s.buses.Kinds) : (DramSim.sendCommand s).1.buses.Kinds := by
  unfold DramSim.sendCommand
  split
  · exact h
  · split
    · exact ⟨fun _ hp => (by cases hp), h.data, h.queued⟩
    · exact ⟨h.command, h.data, h.queued⟩

theorem sendData (h : s.buses.Kinds) : (DramSim.sendData s).1.buses.Kinds := by
  unfold DramSim.sendData
  split
  · exact h
  · split
    · exact ⟨h.command, fun _ hp => (by cases hp), h.queued⟩
    · exact ⟨h.command, h.data, h.queued⟩

/-- The write-data block puts the head of the queue on the data bus. -/
theorem sendWriteData (h : s.buses.Kinds) (hw : DramSim.sendWriteData cfg s = .ok s') :
    s'.buses.Kinds := by
  rcases sendWriteData_eq_ok hw with ⟨_, packet, packets, -, hp, -, rfl⟩ | ⟨-, rfl⟩
  · have hqueued : ∀ p ∈ packet :: packets, p.busPacketType = .DATA := hp ▸ h.queued
    exact ⟨h.command, fun p hp' => Option.some.inj hp' ▸ hqueued packet (List.mem_cons_self _ _),
      fun p hp' => hqueued p (List.mem_cons_of_mem _ hp')⟩
  · exact ⟨h.command, h.data, h.queued⟩

/-- The pop step puts a command on the command bus and queues the DATA twin of a write. -/
theorem issuePopped {popped : Option BusPacket} {r : State × List Effect} (h : s.buses.Kinds)
    (hi : DramSim.issuePopped cfg popped s = .ok r) : r.1.buses.Kinds := by
  rcases issuePopped_buses hi with ⟨-, hr⟩ | ⟨p, -, hdata, -, hr⟩ <;> rw [hr]
  · exact h
  · unfold queueWriteData
    split
    · refine ⟨fun _ hp => Option.some.inj hp ▸ hdata, h.data, fun q hq => ?_⟩
      rcases List.mem_append.mp hq with hq | hq
      · exact h.queued q hq
      · rw [List.mem_singleton.mp hq]
    · exact ⟨fun _ hp => Option.some.inj hp ▸ hdata, h.data, h.queued⟩

end Buses.Kinds

theorem Buses.Kinds.update {input : UpdateInput} {s : State} {r : State × List Effect}
    (h : s.buses.Kinds) (hu : update cfg input s = .ok r) : r.1.buses.Kinds := by
  obtain ⟨written, issued, hw, hi, hbuses, -, -⟩ := update_onBus hu
  have hwritten := ((h.sendCommand (s := (updateBankStates cfg s).1)).sendData).sendWriteData hw
  rw [hbuses]
  exact ((@refreshGate_buses cfg written).symm ▸ hwritten).issuePopped hi

/-! ## The command bus along a run -/

/-- The command bus between two updates: the buses carry their kinds of packets, a command on
the command bus has one cycle left, and the commands issued so far, each one cycle later, are
the commands delivered followed by the one on the bus. -/
structure CommandBus (s : State) (log : List Effect) : Prop where
  kinds : s.buses.Kinds
  one_left : ∀ p, s.outgoingCmdPacket = some p → s.cmdCyclesLeft = 1
  delivered : (log.filterMap Effect.issued).map (fun x => (x.1 + 1, x.2)) =
    log.filterMap Effect.commandDelivered ++
      (s.outgoingCmdPacket.map fun p => (s.currentClockCycle, p)).toList

section Step

variable {input : UpdateInput} {s : State} {log : List Effect} {r : State × List Effect}

/-- A command with one cycle left is handed to its rank at the top of the next `update()`, and
the only command that `update()` hands over. -/
theorem update_commandDelivered (h : CommandBus s log) (hu : update cfg input s = .ok r) :
    r.2.filterMap Effect.commandDelivered =
      (s.outgoingCmdPacket.map fun p => (s.currentClockCycle, p)).toList := by
  obtain ⟨written, issued, -, hi, -, -, hfilter⟩ := update_onBus hu
  have hdeliver : (sendCommand (updateBankStates cfg s).1).2 =
      (s.outgoingCmdPacket.map (.deliver s.currentClockCycle)).toList :=
    (sendCommand_one_left (s := (updateBankStates cfg s).1) h.one_left).2
  have hdata : (sendData (sendCommand (updateBankStates cfg s).1).1).2.filterMap
      Effect.commandDelivered = [] := List.filterMap_eq_nil_iff.mpr fun e he => by
    obtain ⟨p, hp, rfl | rfl⟩ := mem_sendData_effects he
    · rfl
    · obtain ⟨_, _, hs⟩ := sendCommand_shape (updateBankStates cfg s).1
      rw [hs] at hp
      simp [Effect.commandDelivered, h.kinds.data p hp]
  have hpop : issued.2.filterMap Effect.commandDelivered = [] :=
    List.filterMap_eq_nil_iff.mpr fun e he => by
      obtain ⟨_, -, rfl⟩ := mem_issuePopped_effects hi he
      rfl
  rw [← filterMap_filter_of_none fun _ => Effect.commandDelivered_of_onBus, hfilter,
    List.filterMap_append, List.filterMap_append, hdata, hpop, hdeliver]
  cases hp : s.outgoingCmdPacket with
  | none => rfl
  | some p => simp [hp, Effect.commandDelivered, h.kinds.command p hp]

/-- The commands `update()` issues are the popped one, at the current cycle. -/
theorem update_issued (hu : update cfg input s = .ok r) :
    r.2.filterMap Effect.issued = (input.popped.map fun p => (s.currentClockCycle, p)).toList := by
  obtain ⟨written, issued, hw, hi, -, -, hfilter⟩ := update_onBus hu
  have hcount : ∀ {l : List Effect}, (∀ e ∈ l, ∃ c p, e = .deliver c p ∨
      e = .writeDataDone c p.physicalAddress) → l.filterMap Effect.issued = [] :=
    fun hl => List.filterMap_eq_nil_iff.mpr fun e he => by
      obtain ⟨_, _, rfl | rfl⟩ := hl e he <;> rfl
  rw [← filterMap_filter_of_none fun _ => Effect.issued_of_onBus, hfilter,
    List.filterMap_append, List.filterMap_append,
    hcount fun e he => by obtain ⟨p, -, rfl⟩ := mem_sendCommand_effects he; exact ⟨_, p, .inl rfl⟩,
    hcount fun e he => by
      obtain ⟨p, -, rfl | rfl⟩ := mem_sendData_effects he
      exacts [⟨_, p, .inr rfl⟩, ⟨_, p, .inl rfl⟩],
    issuePopped_effects hi, (popStep_commandBus hw).2]
  cases input.popped <;> rfl

/-- With `tCMD = 1` the command an `update()` pops goes on the free command bus with one cycle
left, and the bus is left empty when nothing is popped. -/
theorem update_outgoingCmdPacket (htCMD : cfg.tCMD = 1) (h : CommandBus s log)
    (hu : update cfg input s = .ok r) :
    r.1.outgoingCmdPacket = input.popped ∧
      ∀ p, r.1.outgoingCmdPacket = some p → r.1.cmdCyclesLeft = 1 := by
  obtain ⟨written, issued, hw, hi, hbuses, -, -⟩ := update_onBus hu
  obtain ⟨hfree, -⟩ := sendCommand_one_left (s := (updateBankStates cfg s).1) h.one_left
  have hb : r.1.outgoingCmdPacket = issued.1.outgoingCmdPacket :=
    congrArg Buses.outgoingCmdPacket hbuses
  have hc : r.1.cmdCyclesLeft = issued.1.cmdCyclesLeft := congrArg Buses.cmdCyclesLeft hbuses
  rw [hb, hc]
  rcases issuePopped_buses hi with ⟨hp, hr⟩ | ⟨p, hp, -, -, hr⟩
  · have hnone : issued.1.outgoingCmdPacket = none :=
      (congrArg Buses.outgoingCmdPacket hr).trans ((popStep_commandBus hw).1.trans hfree)
    exact ⟨hnone.trans hp.symm, fun _ h' => Option.noConfusion (hnone.symm.trans h')⟩
  · have hsome : issued.1.outgoingCmdPacket = some p := congrArg Buses.outgoingCmdPacket hr
    exact ⟨hsome.trans hp.symm, fun _ _ => (congrArg Buses.cmdCyclesLeft hr).trans htCMD⟩

/-- With `tCMD = 1` one `update()` keeps the command bus: the command it pops goes on the
free bus with one cycle left, and the one the bus held reaches its rank. -/
theorem CommandBus.update (htCMD : cfg.tCMD = 1) (h : CommandBus s log)
    (hu : update cfg input s = .ok r) :
    CommandBus { r.1 with currentClockCycle := r.1.currentClockCycle + 1 } (log ++ r.2) := by
  obtain ⟨-, -, -, -, -, hclock, -⟩ := update_onBus hu
  have hcmd := update_outgoingCmdPacket htCMD h hu
  refine ⟨h.kinds.update hu, fun p hp => hcmd.2 p hp, ?_⟩
  show ((log ++ r.2).filterMap Effect.issued).map _ =
    (log ++ r.2).filterMap Effect.commandDelivered ++
      (r.1.outgoingCmdPacket.map fun p => (r.1.currentClockCycle + 1, p)).toList
  rw [List.filterMap_append, List.filterMap_append, List.map_append, h.delivered,
    update_issued hu, update_commandDelivered h hu, hcmd.1, hclock]
  cases input.popped <;> simp only [List.append_assoc] <;> rfl

/-- The events other than `update()` leave the buses and the clock alone and use no bus. -/
theorem CommandBus.frame {e : Event} {s' : State} {out : List Effect} (h : CommandBus s log)
    (he : ∀ input, e ≠ .update input) (hexec : exec cfg e s = .ok (s', out)) :
    CommandBus s' (log ++ out) := by
  obtain ⟨⟨_, _, _, _, _, _, _, _, _, rfl⟩, hout⟩ := exec_eq_ok_of_ne_update he hexec
  have hnone : ∀ {β : Type} {f : Effect → Option β}, (∀ e, e.onBus = false → f e = none) →
      out.filterMap f = [] := fun hf => List.filterMap_eq_nil_iff.mpr fun x hx => hf x (by
        rcases hout x hx with ⟨_, rfl⟩ | ⟨_, rfl⟩ | ⟨_, rfl⟩ <;> rfl)
  refine ⟨⟨h.kinds.command, h.kinds.data, h.kinds.queued⟩, h.one_left, ?_⟩
  rw [List.filterMap_append, List.filterMap_append,
    hnone fun _ => Effect.issued_of_onBus, hnone fun _ => Effect.commandDelivered_of_onBus,
    List.append_nil, List.append_nil]
  exact h.delivered

end Step

theorem commandBus_init : CommandBus (State.init cfg) [] :=
  ⟨⟨nofun, nofun, nofun⟩, nofun, rfl⟩

theorem commandBus_of_run (htCMD : cfg.tCMD = 1) {allowed : State → List Effect → Event → Bool}
    {s : State} {log : List Effect} (hrun : Run cfg allowed s log) : CommandBus s log := by
  refine hrun.invariant _ commandBus_init fun s log e s' out h _ hexec => ?_
  by_cases he : ∃ input, e = .update input
  · obtain ⟨input, rfl⟩ := he
    obtain ⟨r, hu, rfl, rfl⟩ := exec_update_eq_ok hexec
    exact h.update htCMD hu
  · exact h.frame (fun input he' => he ⟨input, he'⟩) hexec

variable (cfg) in
/-- The command bus with `tCMD = 1`: the pop step of every `update()` finds the bus free, so
the "Command Bus Collision" exit is never taken. The next `update()` issues exactly the packet
it pops, and the update after it hands that packet to its rank; each `update()` hands over the
command on the bus and no other. The commands issued so far, each one cycle later, are the
commands delivered, in issue order, followed by the one still on the bus. -/
structure CommandBusSound (s : State) (log : List Effect) : Prop where
  free_at_pop : ∀ written, DramSim.sendWriteData cfg
      (sendData (sendCommand (updateBankStates cfg s).1).1).1 = .ok written →
    (refreshGate cfg written).1.outgoingCmdPacket = none
  no_collision : ∀ input, update cfg input s ≠ .error .commandBusCollision
  next_issues : ∀ input r, update cfg input s = .ok r →
    r.2.filterMap Effect.issued = (input.popped.map fun p => (s.currentClockCycle, p)).toList
  popped_delivered_next : ∀ input r input' r', update cfg input s = .ok r →
    update cfg input' { r.1 with currentClockCycle := r.1.currentClockCycle + 1 } = .ok r' →
    r'.2.filterMap Effect.commandDelivered =
      (input.popped.map fun p => (s.currentClockCycle + 1, p)).toList
  next_delivers : ∀ input r, update cfg input s = .ok r →
    r.2.filterMap Effect.commandDelivered =
      (s.outgoingCmdPacket.map fun p => (s.currentClockCycle, p)).toList
  delivered : (log.filterMap Effect.issued).map (fun x => (x.1 + 1, x.2)) =
    log.filterMap Effect.commandDelivered ++
      (s.outgoingCmdPacket.map fun p => (s.currentClockCycle, p)).toList

theorem command_bus_sound (htCMD : cfg.tCMD = 1) {allowed : State → List Effect → Event → Bool}
    {s : State} {log : List Effect} (hrun : Run cfg allowed s log) :
    CommandBusSound cfg s log := by
  have h := commandBus_of_run htCMD hrun
  have hfree : ∀ written, DramSim.sendWriteData cfg
      (sendData (sendCommand (updateBankStates cfg s).1).1).1 = .ok written →
      (refreshGate cfg written).1.outgoingCmdPacket = none := fun _ hw =>
    (popStep_commandBus hw).1.trans (sendCommand_one_left (s := (updateBankStates cfg s).1)
      h.one_left).1
  refine ⟨hfree, fun input hu => ?_, fun _ _ => update_issued, fun _ r _ _ hu hu' => ?_,
    fun _ _ => update_commandDelivered h, h.delivered⟩
  · obtain ⟨written, hw, hbusy⟩ := update_eq_commandBusCollision hu
    simp [hfree written hw] at hbusy
  · obtain ⟨-, -, -, -, -, hclock, -⟩ := update_onBus hu
    rw [update_commandDelivered (h.update htCMD hu) hu']
    show (r.1.outgoingCmdPacket.map fun p => (r.1.currentClockCycle + 1, p)).toList = _
    rw [(update_outgoingCmdPacket htCMD h hu).1, hclock]

set_option maxRecDepth 100000 in
/-- An ACTIVATE popped at cycle 0 reaches its rank in update 1; a WRITE popped at cycle 10 is
on the command bus when the run stops. -/
theorem command_bus_sound_sample :
    Config.sample.tCMD = 1 ∧
    ∃ s log, Run Config.sample (admittedDue Config.sample) s log ∧
      log.filterMap Effect.issued =
        [(0, ⟨.ACTIVATE, 0, 0, 0, 0, 0⟩), (10, ⟨.WRITE, 0, 0, 0, 0, 0⟩)] ∧
      log.filterMap Effect.commandDelivered = [(1, ⟨.ACTIVATE, 0, 0, 0, 0, 0⟩)] ∧
      s.outgoingCmdPacket = some ⟨.WRITE, 0, 0, 0, 0, 0⟩ ∧ CommandBusSound Config.sample s log := by
  obtain ⟨s, log, hrun, hobserved⟩ := @exists_run_of_runEvents Config.sample
    (admittedDue Config.sample)
    ([.update ⟨some ⟨.ACTIVATE, 0, 0, 0, 0, 0⟩, fun _ _ => false, fun _ => false⟩] ++
      List.replicate 9 (.update ⟨none, fun _ _ => false, fun _ => false⟩) ++
      [.update ⟨some ⟨.WRITE, 0, 0, 0, 0, 0⟩, fun _ _ => false, fun _ => false⟩])
    (fun s log => decide (log.filterMap Effect.issued =
        [(0, ⟨.ACTIVATE, 0, 0, 0, 0, 0⟩), (10, ⟨.WRITE, 0, 0, 0, 0, 0⟩)] ∧
      log.filterMap Effect.commandDelivered = [(1, ⟨.ACTIVATE, 0, 0, 0, 0, 0⟩)] ∧
      s.outgoingCmdPacket = some ⟨.WRITE, 0, 0, 0, 0, 0⟩))
    (by decide) (by decide)
  obtain ⟨hissued, hdelivered, hbus⟩ := of_decide_eq_true hobserved
  exact ⟨rfl, s, log, hrun, hissued, hdelivered, hbus, command_bus_sound rfl hrun⟩

end DramSim
