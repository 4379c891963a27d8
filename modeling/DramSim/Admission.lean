import DramSim.Reads

/-! # Admission into the command queue

`addTransaction` appends to `transactionQueue` while it is below `TRANS_QUEUE_DEPTH`. Each
`update()` scans the queue from the front and moves the first transaction whose bank's command
queue has room for two commands into it, as an ACTIVATE followed by the transaction's column
command. The room answer is one per (rank, bank), so the transactions of one bank leave the
queue in the order they arrived and their commands are enqueued in that order, although
transactions of different banks overtake each other.
-/

namespace DramSim

/-! ## Banks of transactions and commands -/

/-- The (rank, bank) a transaction's address maps to. -/
def Transaction.bankOf (cfg : Config) (t : Transaction) : Nat × Nat :=
  ((cfg.addressMapping t.address).rank, (cfg.addressMapping t.address).bank)

/-- The (rank, bank) a command is for. -/
def BusPacket.bankOf (p : BusPacket) : Nat × Nat := (p.rank, p.bank)

/-- The command a logged `enqueue` put into the command queue. -/
def Effect.enqueued : Effect → Option BusPacket
  | .enqueue _ p => some p
  | _ => none

/-- Whether an effect is on the transaction queue's record: an acceptance, an admission or an
enqueued command. -/
def Effect.onQueue : Effect → Bool
  | .accept _ | .admission .. | .enqueue .. => true
  | _ => false

section Record

variable (cfg : Config)

/-- The commands `update()` enqueues when it admits `t`: its ACTIVATE, then its column
command. -/
def admissionCommands (t : Transaction) : List BusPacket :=
  match cfg.getBusPacketType t.transactionType with
  | some busPacketType => [activateCommand cfg t, columnCommand cfg t busPacketType]
  | none => []

/-- The transactions `addTransaction` accepted for bank `k`, in order. -/
def acceptedTo (k : Nat × Nat) (log : List Effect) : List Transaction :=
  (log.filterMap Effect.accepted).filter fun t => t.bankOf cfg = k

/-- The transactions admitted into the command queue for bank `k`, in order. -/
def admittedTo (k : Nat × Nat) (log : List Effect) : List Transaction :=
  (log.filterMap Effect.admitted).filter fun t => t.bankOf cfg = k

/-- The commands enqueued for bank `k`, in order. -/
def enqueuedTo (k : Nat × Nat) (log : List Effect) : List BusPacket :=
  (log.filterMap Effect.enqueued).filter fun p => p.bankOf = k

end Record

section Lists

variable {cfg : Config} {hasRoomFor : Nat → Nat → Bool}

theorem hasRoom_eq_bankOf (t : Transaction) :
    hasRoom cfg hasRoomFor t = hasRoomFor (t.bankOf cfg).1 (t.bankOf cfg).2 := rfl

/-- Removing the first transaction with room removes the head of its bank's transactions and
keeps every bank's others in order. -/
theorem filter_bankOf_eraseP {l : List Transaction} {t : Transaction}
    (ht : l.find? (hasRoom cfg hasRoomFor) = some t) (k : Nat × Nat) :
    l.filter (fun u => u.bankOf cfg = k) = [t].filter (fun u => u.bankOf cfg = k) ++
      (l.eraseP (hasRoom cfg hasRoomFor)).filter fun u => u.bankOf cfg = k := by
  obtain ⟨hroom, pre, post, rfl, hpre⟩ := List.find?_eq_some.mp ht
  rw [List.eraseP_append_right _ fun u hu => by simpa using hpre u hu,
    List.eraseP_cons_of_pos hroom]
  by_cases hk : t.bankOf cfg = k
  · -- the transactions before `t` share no bank with it: they would have room too
    have hnil : pre.filter (fun u => u.bankOf cfg = k) = [] :=
      List.filter_eq_nil_iff.mpr fun u hu huk => by
        have hsame : hasRoom cfg hasRoomFor u = hasRoom cfg hasRoomFor t := by
          rw [hasRoom_eq_bankOf, hasRoom_eq_bankOf, of_decide_eq_true huk, hk]
        simpa [hsame, hroom] using hpre u hu
    simp [List.filter_append, List.filter_cons, hk, hnil]
  · simp [List.filter_append, List.filter_cons, hk]

/-- Both commands of an admitted transaction are for its bank. -/
theorem filter_admissionCommands (t : Transaction) (k : Nat × Nat) :
    (admissionCommands cfg t).filter (fun p => p.bankOf = k) =
      ([t].filter fun u => u.bankOf cfg = k).flatMap (admissionCommands cfg) := by
  have hact : (activateCommand cfg t).bankOf = t.bankOf cfg := rfl
  have hcol : ∀ b, (columnCommand cfg t b).bankOf = t.bankOf cfg := fun _ => rfl
  cases hb : cfg.getBusPacketType t.transactionType <;> by_cases hk : t.bankOf cfg = k <;>
    simp [admissionCommands, hb, List.filter_cons, hact, hcol, hk]

/-- Two logs with the same entries on the queue's record have the same acceptances,
admissions and enqueued commands. -/
theorem filterMap_eq_of_onQueue {β : Type} {f : Effect → Option β}
    (hf : ∀ e, e.onQueue = false → f e = none) {l l' : List Effect}
    (h : l'.filter Effect.onQueue = l.filter Effect.onQueue) : l'.filterMap f = l.filterMap f := by
  rw [← filterMap_filter_of_none hf, h, filterMap_filter_of_none hf]

theorem Effect.off_queue {e : Effect} (he : e.onQueue = false) :
    e.accepted = none ∧ e.admitted = none ∧ e.enqueued = none := by
  cases e <;> simp_all [Effect.onQueue, Effect.accepted, Effect.admitted, Effect.enqueued]

theorem Effect.off_queue_of_off_ledger {e : Effect} (he : e.onLedger = false) :
    e.onQueue = false := by
  cases e <;> simp_all [Effect.onLedger, Effect.onQueue]

end Lists

/-! ## Admission in one `update()` -/

section Update

variable {cfg : Config} {hasRoomFor : Nat → Nat → Bool} {input : UpdateInput} {s s' : State}
  {r : State × List Effect}

/-- Admission logs nothing only when no transaction in the queue has room. -/
theorem find?_hasRoom_of_admitTransaction
    (h : admitTransaction cfg hasRoomFor s = .ok (s', [])) :
    s.transactionQueue.find? (hasRoom cfg hasRoomFor) = none := by
  unfold admitTransaction at h
  split at h
  · assumption
  · split at h <;> cases h

/-- One `update()` on the queue's record: the blocks before admission keep the queue and the
clock, and besides admission no block changes the queue or logs anything on its record. -/
theorem update_onQueue (hu : update cfg input s = .ok r) :
    ∃ issued admitted : State × List Effect, issued.1.transactionQueue = s.transactionQueue ∧
      issued.1.currentClockCycle = s.currentClockCycle ∧
      admitTransaction cfg input.hasRoomFor issued.1 = .ok admitted ∧
      r.1.transactionQueue = admitted.1.transactionQueue ∧
      r.2.filter Effect.onQueue = admitted.2.filter Effect.onQueue ∧ admitted.2 <:+: r.2 := by
  obtain ⟨written, issued, admitted, returned, hw, hi, ha, hr, rfl⟩ := update_eq_ok hu
  obtain ⟨_, _, _, _, _, _, _, _, _, _, _, hgate⟩ := refreshGate_written_shape hw
  obtain ⟨_, _, _, hr'⟩ := returnPath_shape hr
  have hnil : ∀ {l : List Effect}, (∀ e ∈ l, e.onQueue = false) → l.filter Effect.onQueue = [] :=
    fun hl => List.filter_eq_nil_iff.mpr fun e he => by simp [hl e he]
  have hpre : ((updateBankStates cfg s).2 ++ (sendCommand (updateBankStates cfg s).1).2 ++
      (sendData (sendCommand (updateBankStates cfg s).1).1).2 ++
      (refreshGate cfg written).2).filter Effect.onQueue = [] :=
    hnil fun e he => Effect.off_queue_of_off_ledger (update_pre_quiet e he).1
  have hissued := hnil fun e he => by obtain ⟨_, -, rfl⟩ := mem_issuePopped_effects hi he; rfl
  have hlow : (lowPower cfg input.isEmpty admitted.1).2.filter Effect.onQueue = [] :=
    hnil fun e he => by
    obtain ⟨_, _, ⟨_, rfl⟩ | ⟨_, rfl⟩⟩ := mem_lowPower_effects he <;> rfl
  have hret := hnil fun e he => by obtain ⟨_, rfl⟩ := mem_returnPath_effects hr he; rfl
  refine ⟨issued, admitted, (sameReadPath_before_admission hw hi).queue,
    (issuePopped_fields hi).2.2.2.trans (by rw [hgate]), ha, by rw [hr']; rfl, ?_,
    by rw [List.append_assoc _ _ returned.2]; exact List.infix_append _ _ _⟩
  simp only [List.filter_append, hpre, hissued, hlow, hret, List.nil_append, List.append_nil]

/-- With no transaction whose bank has room, `update()` keeps the queue and enqueues
nothing. -/
theorem update_admits_none (hu : update cfg input s = .ok r)
    (hnone : ∀ t ∈ s.transactionQueue, hasRoom cfg input.hasRoomFor t = false) :
    r.1.transactionQueue = s.transactionQueue ∧ r.2.filterMap Effect.enqueued = [] := by
  obtain ⟨issued, admitted, hq, -, ha, hq', hfilter, -⟩ := update_onQueue hu
  rcases admitTransaction_eq_ok ha with rfl | ⟨t, -, hfind, -, -⟩
  · exact ⟨hq'.trans hq, filterMap_eq_of_onQueue (fun _ he => (Effect.off_queue he).2.2) hfilter⟩
  · have hroom := hnone t (hq ▸ List.mem_of_find?_eq_some hfind)
    rw [List.find?_some hfind] at hroom
    cases hroom

/-- `update()` removes the first transaction whose bank has room, keeps the others in order,
and enqueues its ACTIVATE immediately followed by its column command. -/
theorem update_admits_first {pre post : List Transaction} {t : Transaction}
    (hu : update cfg input s = .ok r) (hq : s.transactionQueue = pre ++ t :: post)
    (hpre : ∀ u ∈ pre, hasRoom cfg input.hasRoomFor u = false)
    (ht : hasRoom cfg input.hasRoomFor t = true) :
    r.1.transactionQueue = pre ++ post ∧ ∃ busPacketType,
      cfg.getBusPacketType t.transactionType = some busPacketType ∧
      r.2.filterMap Effect.enqueued = [activateCommand cfg t, columnCommand cfg t busPacketType] ∧
      [Effect.enqueue s.currentClockCycle (activateCommand cfg t),
        .enqueue s.currentClockCycle (columnCommand cfg t busPacketType)] <:+: r.2 := by
  obtain ⟨issued, admitted, hq₀, hclock, ha, hq', hfilter, hinfix⟩ := update_onQueue hu
  have hfind : issued.1.transactionQueue.find? (hasRoom cfg input.hasRoomFor) = some t :=
    List.find?_eq_some.mpr ⟨ht, pre, post, hq₀.trans hq, fun u hu => by simp [hpre u hu]⟩
  rcases admitTransaction_eq_ok ha with rfl | ⟨t', busPacketType, hfind', hb, rfl⟩
  · rw [find?_hasRoom_of_admitTransaction ha] at hfind
    cases hfind
  obtain rfl : t' = t := Option.some.inj (hfind'.symm.trans hfind)
  refine ⟨?_, busPacketType, hb,
    filterMap_eq_of_onQueue (fun _ he => (Effect.off_queue he).2.2) hfilter, ?_⟩
  · rw [hq', hq₀, hq, List.eraseP_append_right _ fun u hu => by simp [hpre u hu],
      List.eraseP_cons_of_pos ht]
  · rw [← hclock]
    exact (List.suffix_cons _ _).isInfix.trans hinfix

/-- A refused `addTransaction` leaves the state as it was. -/
theorem addTransaction_refused {transactionType : TransactionType} {address : Nat}
    (h : (addTransaction cfg transactionType address s).1 = false) :
    (addTransaction cfg transactionType address s).2 = s := by
  by_cases hroom : s.transactionQueue.length < cfg.TRANS_QUEUE_DEPTH
  · simp [addTransaction, hroom] at h
  · simp only [addTransaction, hroom, if_false]

end Update

/-! ## The admission ledger -/

/-- The transaction queue's bookkeeping: the queue stays within `TRANS_QUEUE_DEPTH`; per bank
the accepted transactions are the admitted ones followed by the queued ones; and per bank the
commands enqueued are the admitted transactions' commands, in order. -/
structure AdmissionLedger (cfg : Config) (s : State) (log : List Effect) : Prop where
  bounded : s.transactionQueue.length ≤ cfg.TRANS_QUEUE_DEPTH
  fifo : ∀ k, acceptedTo cfg k log =
    admittedTo cfg k log ++ s.transactionQueue.filter fun t => t.bankOf cfg = k
  enqueued : ∀ k, enqueuedTo k log = (admittedTo cfg k log).flatMap (admissionCommands cfg)

section Ledger

variable {cfg : Config} {input : UpdateInput} {s s' : State} {log log' out : List Effect}
  {r : State × List Effect}

/-- The ledger reads the log only through its entries on the queue's record. -/
theorem AdmissionLedger.congr (h : AdmissionLedger cfg s log)
    (hq : s'.transactionQueue = s.transactionQueue)
    (hlog : log'.filter Effect.onQueue = log.filter Effect.onQueue) :
    AdmissionLedger cfg s' log' := by
  have hacc := filterMap_eq_of_onQueue (fun _ he => (Effect.off_queue he).1) hlog
  have hadm := filterMap_eq_of_onQueue (fun _ he => (Effect.off_queue he).2.1) hlog
  have henq := filterMap_eq_of_onQueue (fun _ he => (Effect.off_queue he).2.2) hlog
  refine ⟨hq ▸ h.bounded, fun k => ?_, fun k => ?_⟩
  · simpa only [acceptedTo, admittedTo, hacc, hadm, hq] using h.fifo k
  · simpa only [enqueuedTo, admittedTo, henq, hadm] using h.enqueued k

/-- Admission moves the first transaction with room from the queue to the admitted ones and
enqueues its two commands. -/
theorem AdmissionLedger.admitTransaction {hasRoomFor : Nat → Nat → Bool}
    (h : AdmissionLedger cfg s log) (ha : admitTransaction cfg hasRoomFor s = .ok r) :
    AdmissionLedger cfg r.1 (log ++ r.2) := by
  rcases admitTransaction_eq_ok ha with rfl | ⟨t, busPacketType, hfind, hb, rfl⟩
  · simpa using h
  have hcommands :
      admissionCommands cfg t = [activateCommand cfg t, columnCommand cfg t busPacketType] := by
    simp [admissionCommands, hb]
  have hadm : ∀ k, admittedTo cfg k (log ++ [.admission s.currentClockCycle t,
      .enqueue s.currentClockCycle (activateCommand cfg t),
      .enqueue s.currentClockCycle (columnCommand cfg t busPacketType)]) =
      admittedTo cfg k log ++ [t].filter fun u => u.bankOf cfg = k := fun k => by
    simp only [admittedTo, List.filterMap_append, List.filter_append]
    rfl
  have henq : ∀ k, enqueuedTo k (log ++ [.admission s.currentClockCycle t,
      .enqueue s.currentClockCycle (activateCommand cfg t),
      .enqueue s.currentClockCycle (columnCommand cfg t busPacketType)]) =
      enqueuedTo k log ++ (admissionCommands cfg t).filter fun p => p.bankOf = k := fun k => by
    rw [hcommands]
    simp only [enqueuedTo, List.filterMap_append, List.filter_append]
    rfl
  refine ⟨(List.length_eraseP_le _).trans h.bounded, fun k => ?_, fun k => ?_⟩
  · have hacc : acceptedTo cfg k (log ++ [.admission s.currentClockCycle t,
        .enqueue s.currentClockCycle (activateCommand cfg t),
        .enqueue s.currentClockCycle (columnCommand cfg t busPacketType)]) =
        acceptedTo cfg k log := by
      simp [acceptedTo, Effect.accepted]
    rw [hacc, hadm, h.fifo k, filter_bankOf_eraseP hfind k, List.append_assoc]
  · rw [henq, hadm, List.flatMap_append, h.enqueued k, filter_admissionCommands]

/-- One `update()` keeps the ledger: only its admission step touches the queue's record. -/
theorem AdmissionLedger.update (h : AdmissionLedger cfg s log)
    (hu : update cfg input s = .ok r) : AdmissionLedger cfg r.1 (log ++ r.2) := by
  obtain ⟨issued, admitted, hq, -, ha, hq', hfilter, -⟩ := update_onQueue hu
  exact ((h.congr hq rfl).admitTransaction ha).congr hq'
    (by simp only [List.filter_append, hfilter])

/-- `addTransaction` appends what it accepts to the queue and to the log. -/
theorem AdmissionLedger.addTransaction {transactionType : TransactionType} {address : Nat}
    (h : AdmissionLedger cfg s log)
    (hexec : exec cfg (.addTransaction transactionType address) s = .ok (s', out)) :
    AdmissionLedger cfg s' (log ++ out) := by
  by_cases hroom : s.transactionQueue.length < cfg.TRANS_QUEUE_DEPTH
  · simp only [DramSim.exec, DramSim.addTransaction, hroom, if_true, Except.ok.injEq,
      Prod.mk.injEq] at hexec
    obtain ⟨rfl, rfl⟩ := hexec
    refine ⟨by rw [List.length_append, List.length_singleton]; omega, fun k => ?_, fun k => ?_⟩
    · have hfifo := h.fifo k
      simp only [acceptedTo, admittedTo] at hfifo ⊢
      simp [Effect.accepted, Effect.admitted, List.filter_append, hfifo]
    · simpa [enqueuedTo, admittedTo, Effect.enqueued, Effect.admitted] using h.enqueued k
  · simp only [DramSim.exec, DramSim.addTransaction, hroom, if_false, Except.ok.injEq,
      Prod.mk.injEq] at hexec
    obtain ⟨rfl, rfl⟩ := hexec
    simpa using h

/-- Every event keeps the ledger. -/
theorem AdmissionLedger.exec {e : Event} (h : AdmissionLedger cfg s log)
    (hexec : exec cfg e s = .ok (s', out)) : AdmissionLedger cfg s' (log ++ out) := by
  cases e with
  | addTransaction => exact h.addTransaction hexec
  | update input =>
      obtain ⟨r, hu, rfl, rfl⟩ := exec_update_eq_ok hexec
      exact (h.update hu).congr rfl rfl
  | receiveFromBus =>
      simp only [DramSim.exec, DramSim.receiveFromBus] at hexec
      split at hexec
      · cases hexec
      · simp only [Except.map, Except.ok.injEq, Prod.mk.injEq] at hexec
        obtain ⟨rfl, rfl⟩ := hexec
        exact h.congr rfl (by simp [Effect.onQueue])
  | refreshDone | resetStats =>
      simp only [DramSim.exec, Except.ok.injEq, Prod.mk.injEq] at hexec
      obtain ⟨rfl, rfl⟩ := hexec
      exact h.congr rfl (by simp [Effect.onQueue])

theorem admissionLedger_init : AdmissionLedger cfg (State.init cfg) [] :=
  ⟨Nat.zero_le _, fun _ => rfl, fun _ => rfl⟩

end Ledger

/-! ## Admission along a run -/

/-- Admission along a run: the queue stays within `TRANS_QUEUE_DEPTH` and a refused
`addTransaction` changes nothing; each `update()` removes the first transaction whose bank has
room, if any, keeps the others in order and enqueues its ACTIVATE immediately followed by its
column command; so per bank the commands enqueued are those of the accepted transactions, in
the order they were accepted. -/
structure AdmissionSound (cfg : Config) (s : State) (log : List Effect) : Prop where
  bounded : s.transactionQueue.length ≤ cfg.TRANS_QUEUE_DEPTH
  refused : ∀ transactionType address,
    (addTransaction cfg transactionType address s).1 = false →
      (addTransaction cfg transactionType address s).2 = s
  admits_none : ∀ input r, update cfg input s = .ok r →
    (∀ t ∈ s.transactionQueue, hasRoom cfg input.hasRoomFor t = false) →
      r.1.transactionQueue = s.transactionQueue ∧ r.2.filterMap Effect.enqueued = []
  admits_first : ∀ input r pre t post, update cfg input s = .ok r →
    s.transactionQueue = pre ++ t :: post →
    (∀ u ∈ pre, hasRoom cfg input.hasRoomFor u = false) → hasRoom cfg input.hasRoomFor t →
    r.1.transactionQueue = pre ++ post ∧ ∃ busPacketType,
      cfg.getBusPacketType t.transactionType = some busPacketType ∧
      r.2.filterMap Effect.enqueued = [activateCommand cfg t, columnCommand cfg t busPacketType] ∧
      [Effect.enqueue s.currentClockCycle (activateCommand cfg t),
        .enqueue s.currentClockCycle (columnCommand cfg t busPacketType)] <:+: r.2
  in_order : ∀ k, enqueuedTo k log = (admittedTo cfg k log).flatMap (admissionCommands cfg) ∧
    admittedTo cfg k log <+: acceptedTo cfg k log

theorem admission_sound {cfg : Config} {allowed : State → List Effect → Event → Bool}
    {s : State} {log : List Effect} (hrun : Run cfg allowed s log) : AdmissionSound cfg s log := by
  have h := hrun.invariant _ admissionLedger_init fun _ _ _ _ _ hinv _ hexec => hinv.exec hexec
  exact ⟨h.bounded, fun _ _ => addTransaction_refused, fun _ _ => update_admits_none,
    fun _ _ _ _ _ => update_admits_first, fun k => ⟨h.enqueued k, _, (h.fifo k).symm⟩⟩

/-- A read of address 0 and a write to rank 1 are accepted; the next update admits the read,
the first transaction whose bank has room, and enqueues its ACTIVATE and READ, leaving the
write queued. -/
theorem admission_sound_sample :
    ∃ s log, Run Config.sample (fun _ _ _ => true) s log ∧
      log.filterMap Effect.enqueued = [⟨.ACTIVATE, 0, 0, 0, 0, 0⟩, ⟨.READ, 0, 0, 0, 0, 0⟩] ∧
      s.transactionQueue = [⟨.DATA_WRITE, 8192, 0, 0⟩] ∧ AdmissionSound Config.sample s log := by
  obtain ⟨s, log, hrun, hobserved⟩ := @exists_run_of_runEvents Config.sample
    (fun _ _ _ => true)
    [.addTransaction .DATA_READ 0, .addTransaction .DATA_WRITE 8192,
      .update ⟨none, fun _ _ => true, fun _ => false⟩]
    (fun s log => decide (log.filterMap Effect.enqueued =
        [⟨.ACTIVATE, 0, 0, 0, 0, 0⟩, ⟨.READ, 0, 0, 0, 0, 0⟩] ∧
      s.transactionQueue = [⟨.DATA_WRITE, 8192, 0, 0⟩]))
    (by decide) (by decide)
  obtain ⟨henqueued, hqueue⟩ := of_decide_eq_true hobserved
  exact ⟨s, log, hrun, henqueued, hqueue, admission_sound hrun⟩

end DramSim
