import DramSim.Frame

/-! # The read path

A read transaction waits in `transactionQueue`, moves to `pendingReadTransactions` when its
commands are enqueued, and completes when data with its address comes back from a rank; the
return path matches data to a pending read by address alone. Per address the controller is a
FIFO: the reads accepted to an address are, in order, those already returned, then those
pending, then those still queued, with the stamps `timeACTIssued` a pending read collects set
aside. When the ranks answer only reads the controller issued, and the command queue pops only
commands enqueued into it, data never comes back for an address with no pending read, so the
"Can't find a matching transaction" exit is never taken.
-/

namespace DramSim

/-! ## Reads of one address -/

/-- A transaction without the stamp its commands leave on it. -/
def Transaction.unstamped (t : Transaction) : Transaction := { t with timeACTIssued := 0 }

/-- Whether a transaction is a read of address `a`. -/
def Transaction.readsFrom (a : Nat) (t : Transaction) : Bool :=
  t.transactionType = .DATA_READ && t.address = a

/-- The reads of address `a` among `ts`, in order, stamps set aside. -/
def readsTo (a : Nat) (ts : List Transaction) : List Transaction :=
  (ts.filter (Transaction.readsFrom a)).map Transaction.unstamped

section ReadsTo

variable {a : Nat} {t : Transaction} {l l' : List Transaction}

@[simp] theorem readsTo_append : readsTo a (l ++ l') = readsTo a l ++ readsTo a l' := by
  simp [readsTo]

theorem readsTo_singleton : readsTo a [t] = if t.readsFrom a then [t.unstamped] else [] := by
  unfold readsTo
  split <;> simp [List.filter_cons, *]

theorem readsTo_eq_filter_map :
    readsTo a l = (l.map Transaction.unstamped).filter (·.readsFrom a) := by
  simp only [readsTo, List.filter_map]
  rfl

/-- Stamps do not change the reads of an address. -/
theorem readsTo_congr (h : l'.map Transaction.unstamped = l.map Transaction.unstamped) :
    readsTo a l' = readsTo a l := by
  rw [readsTo_eq_filter_map, h, ← readsTo_eq_filter_map]

theorem map_unstamped_recordTimeACTIssued {found : Transaction → Bool} {c : Nat} :
    ∀ l : List Transaction,
      (recordTimeACTIssued found c l).map Transaction.unstamped = l.map Transaction.unstamped
  | [] => rfl
  | t :: ts => by
      simp only [recordTimeACTIssued]
      split
      · rfl
      · rw [List.map_cons, map_unstamped_recordTimeACTIssued ts, List.map_cons]

/-- Removing the first transaction `p` finds, for a `p` that only looks at the address: the
reads of every address lose at most their head, and that head is the found transaction. -/
theorem filter_readsFrom_eraseP {p : Transaction → Bool}
    (hp : ∀ u v : Transaction, u.address = v.address → p u = p v) :
    ∀ {l : List Transaction} {t : Transaction}, l.find? p = some t →
      l.filter (Transaction.readsFrom a) =
        [t].filter (Transaction.readsFrom a) ++ (l.eraseP p).filter (Transaction.readsFrom a)
  | u :: l, t, ht => by
      by_cases hu : p u
      · rw [List.find?_cons_of_pos _ hu, Option.some_inj] at ht
        subst ht
        rw [List.eraseP_cons_of_pos hu, ← List.filter_append, List.singleton_append]
      · rw [List.find?_cons_of_neg _ hu] at ht
        rw [List.eraseP_cons_of_neg hu, ← List.singleton_append, List.filter_append,
          filter_readsFrom_eraseP hp ht, ← List.singleton_append (l := l.eraseP p),
          List.filter_append]
        -- `u` and `t` are not both reads of `a`: they would share an address, and `p` found `t`
        have hboth : ¬ (u.readsFrom a ∧ t.readsFrom a) := fun ⟨hua, hta⟩ => by
          simp only [Transaction.readsFrom, Bool.and_eq_true, decide_eq_true_eq] at hua hta
          exact hu ((hp u t (hua.2.trans hta.2.symm)).trans (List.find?_some ht))
        by_cases hua : u.readsFrom a <;> by_cases hta : t.readsFrom a <;> simp_all

theorem readsTo_eraseP {p : Transaction → Bool}
    (hp : ∀ u v : Transaction, u.address = v.address → p u = p v) {l : List Transaction}
    {t : Transaction} (ht : l.find? p = some t) :
    readsTo a l = readsTo a [t] ++ readsTo a (l.eraseP p) := by
  simp only [readsTo, filter_readsFrom_eraseP hp ht, List.map_append]

end ReadsTo

/-! ## The read path in the effect log -/

/-- The transaction `addTransaction` accepted. -/
def Effect.accepted : Effect → Option Transaction
  | .accept t => some t
  | _ => none

/-- The transaction admitted into the command queue. -/
def Effect.admitted : Effect → Option Transaction
  | .admission _ t => some t
  | _ => none

/-- The transaction a `ReturnReadData` callback completes. -/
def Effect.returned : Effect → Option Transaction
  | .returnReadData _ t => some t
  | _ => none

/-- Whether a packet is a read command, READ or READ_P, for address `a`. -/
def BusPacket.readsFrom (a : Nat) (p : BusPacket) : Bool :=
  (p.busPacketType = .READ || p.busPacketType = .READ_P) && p.physicalAddress = a

/-- Whether an effect issues a read command for address `a`. -/
def Effect.issuesRead (a : Nat) : Effect → Bool
  | .issue _ p => p.readsFrom a
  | _ => false

/-- Whether an effect enqueues a read command for address `a`. -/
def Effect.enqueuesRead (a : Nat) : Effect → Bool
  | .enqueue _ p => p.readsFrom a
  | _ => false

/-- Whether an effect is data for address `a` received from a rank. -/
def Effect.receivesData (a : Nat) : Effect → Bool
  | .receive p => p.physicalAddress = a
  | _ => false

/-- Whether an effect enters the read path's ledger: an acceptance, an admission, an enqueued
command, a completed read or received data. -/
def Effect.onLedger : Effect → Bool
  | .accept _ | .admission .. | .enqueue .. | .returnReadData .. | .receive _ => true
  | _ => false

/-- The reads of address `a` accepted by `addTransaction`, in order. -/
def acceptedReads (a : Nat) (log : List Effect) : List Transaction :=
  readsTo a (log.filterMap Effect.accepted)

/-- The reads of address `a` completed by a `ReturnReadData` callback, in order. -/
def returnedReads (a : Nat) (log : List Effect) : List Transaction :=
  readsTo a (log.filterMap Effect.returned)

/-- The reads admitted into the command queue, in order, stamps set aside. -/
def admittedReads (log : List Effect) : List Transaction :=
  ((log.filterMap Effect.admitted).filter fun t => t.transactionType = .DATA_READ).map
    Transaction.unstamped

section Log

variable {a : Nat} {log out : List Effect}

/-- An effect off the ledger is none of the ledger's entries. -/
theorem Effect.off_ledger {e : Effect} (he : e.onLedger = false) :
    e.accepted = none ∧ e.admitted = none ∧ e.returned = none ∧
      e.enqueuesRead a = false ∧ e.receivesData a = false := by
  cases e <;> simp_all [Effect.onLedger, Effect.accepted, Effect.admitted, Effect.returned,
    Effect.enqueuesRead, Effect.receivesData]

variable (hout : ∀ e ∈ out, e.onLedger = false)
include hout

theorem filterMap_accepted_off_ledger : out.filterMap Effect.accepted = [] :=
  List.filterMap_eq_nil_iff.mpr fun e he => (Effect.off_ledger (a := 0) (hout e he)).1

theorem filterMap_admitted_off_ledger : out.filterMap Effect.admitted = [] :=
  List.filterMap_eq_nil_iff.mpr fun e he => (Effect.off_ledger (a := 0) (hout e he)).2.1

theorem filterMap_returned_off_ledger : out.filterMap Effect.returned = [] :=
  List.filterMap_eq_nil_iff.mpr fun e he => (Effect.off_ledger (a := 0) (hout e he)).2.2.1

theorem countP_enqueuesRead_off_ledger : out.countP (Effect.enqueuesRead a) = 0 :=
  List.countP_eq_zero.mpr fun e he => by simp [(Effect.off_ledger (hout e he)).2.2.2.1]

theorem countP_receivesData_off_ledger : out.countP (Effect.receivesData a) = 0 :=
  List.countP_eq_zero.mpr fun e he => by simp [(Effect.off_ledger (hout e he)).2.2.2.2]

end Log

/-! ## The ledger -/

/-- The read path's bookkeeping. Pending reads and completed ones are reads; per address the
accepted reads are the returned ones, then the pending ones, then the queued ones; the pending
reads keep the order of admission; every pending or returned read enqueued one read command;
and every data packet received is either waiting in `returnTransaction` or completed a read. -/
structure ReadLedger (s : State) (log : List Effect) : Prop where
  pending_reads : ∀ t ∈ s.pendingReadTransactions, t.transactionType = .DATA_READ
  returned_reads : ∀ t ∈ log.filterMap Effect.returned, t.transactionType = .DATA_READ
  fifo : ∀ a, acceptedReads a log =
    returnedReads a log ++ readsTo a s.pendingReadTransactions ++ readsTo a s.transactionQueue
  admission_order :
    (s.pendingReadTransactions.map Transaction.unstamped).Sublist (admittedReads log)
  enqueued : ∀ a, log.countP (Effect.enqueuesRead a) =
    (returnedReads a log).length + (readsTo a s.pendingReadTransactions).length
  received : ∀ a, log.countP (Effect.receivesData a) =
    (returnedReads a log).length + s.returnTransaction.countP fun d => d.address = a

/-- `s'` has the read path of `s`, up to the stamps on pending reads. -/
structure SameReadPath (s s' : State) : Prop where
  queue : s'.transactionQueue = s.transactionQueue
  pending : s'.pendingReadTransactions.map Transaction.unstamped =
    s.pendingReadTransactions.map Transaction.unstamped
  returns : s'.returnTransaction = s.returnTransaction

theorem SameReadPath.refl (s : State) : SameReadPath s s := ⟨rfl, rfl, rfl⟩

theorem SameReadPath.trans {s s' s'' : State} (h : SameReadPath s s')
    (h' : SameReadPath s' s'') : SameReadPath s s'' :=
  ⟨h'.queue.trans h.queue, h'.pending.trans h.pending, h'.returns.trans h.returns⟩

theorem SameReadPath.of_eq {s s' : State} (hq : s'.transactionQueue = s.transactionQueue)
    (hp : s'.pendingReadTransactions = s.pendingReadTransactions)
    (hr : s'.returnTransaction = s.returnTransaction) : SameReadPath s s' :=
  ⟨hq, by rw [hp], hr⟩

section Ledger

variable {s s' : State} {log out : List Effect}

/-- A step that only stamps pending reads and logs nothing on the ledger keeps it. -/
theorem ReadLedger.frame (h : ReadLedger s log) (hs : SameReadPath s s')
    (hout : ∀ e ∈ out, e.onLedger = false) : ReadLedger s' (log ++ out) := by
  have hpending :
      ∀ a, readsTo a s'.pendingReadTransactions = readsTo a s.pendingReadTransactions :=
    fun a => readsTo_congr hs.pending
  have hreturned : (log ++ out).filterMap Effect.returned = log.filterMap Effect.returned := by
    rw [List.filterMap_append, filterMap_returned_off_ledger hout, List.append_nil]
  have hacc : ∀ a, acceptedReads a (log ++ out) = acceptedReads a log := fun a => by
    rw [acceptedReads, List.filterMap_append, filterMap_accepted_off_ledger hout,
      List.append_nil, acceptedReads]
  have hret : ∀ a, returnedReads a (log ++ out) = returnedReads a log := fun a => by
    rw [returnedReads, hreturned, returnedReads]
  refine ⟨fun t ht => ?_, hreturned ▸ h.returned_reads, fun a => ?_, ?_, fun a => ?_,
    fun a => ?_⟩
  · obtain ⟨u, hu, hut⟩ := List.mem_map.mp (hs.pending ▸ List.mem_map_of_mem _ ht)
    have htype : u.transactionType = t.transactionType := congrArg (·.transactionType) hut
    exact htype ▸ h.pending_reads u hu
  · rw [hacc, hret, hpending, hs.queue]
    exact h.fifo a
  · rw [hs.pending, admittedReads, List.filterMap_append, filterMap_admitted_off_ledger hout,
      List.append_nil]
    exact h.admission_order
  · rw [List.countP_append, countP_enqueuesRead_off_ledger hout, hret, hpending]
    exact h.enqueued a
  · rw [List.countP_append, countP_receivesData_off_ledger hout, hret, hs.returns]
    exact h.received a

/-- The ledger holds of a state with the same read path. -/
theorem ReadLedger.congr (h : ReadLedger s log) (hs : SameReadPath s s') : ReadLedger s' log := by
  simpa using @ReadLedger.frame s s' log [] h hs (by simp)

end Ledger

/-! ## Admission and the return path on the ledger -/

section Steps

variable {cfg : Config} {s : State} {log : List Effect} {r : State × List Effect}

/-- Whether the command queue has room for a transaction depends on its address only. -/
theorem hasRoom_congr {hasRoomFor : Nat → Nat → Bool} {u v : Transaction}
    (h : u.address = v.address) : hasRoom cfg hasRoomFor u = hasRoom cfg hasRoomFor v := by
  simp only [hasRoom, h]

/-- The column command update() creates for a transaction reads its address exactly when the
transaction is a read. -/
theorem columnCommand_readsFrom {t : Transaction} {busPacketType : BusPacketType}
    (h : cfg.getBusPacketType t.transactionType = some busPacketType) (a : Nat) :
    (columnCommand cfg t busPacketType).readsFrom a = t.readsFrom a := by
  cases ht : t.transactionType <;> rw [ht] at h <;>
    simp only [Config.getBusPacketType, Option.some.injEq, reduceCtorEq] at h <;> subst h <;>
    split <;> simp [columnCommand, BusPacket.readsFrom, Transaction.readsFrom, ht]

/-- Admission moves the first transaction with room from the queue to the pending reads, if
it is a read, and enqueues one read command for it. -/
theorem ReadLedger.admitTransaction {hasRoomFor : Nat → Nat → Bool} (h : ReadLedger s log)
    (ha : admitTransaction cfg hasRoomFor s = .ok r) : ReadLedger r.1 (log ++ r.2) := by
  rcases admitTransaction_eq_ok ha with rfl | ⟨t, busPacketType, hfind, hb, rfl⟩
  · simpa using h
  have hqueue : ∀ a, readsTo a s.transactionQueue =
      readsTo a [t] ++ readsTo a (s.transactionQueue.eraseP (hasRoom cfg hasRoomFor)) :=
    fun a => readsTo_eraseP (fun _ _ huv => hasRoom_congr huv) hfind
  have hpending : ∀ a, readsTo a (if t.transactionType = .DATA_READ then
      s.pendingReadTransactions ++ [t] else s.pendingReadTransactions) =
      readsTo a s.pendingReadTransactions ++ readsTo a [t] := fun a => by
    split_ifs with hread
    · exact readsTo_append
    · simp [readsTo_singleton, Transaction.readsFrom, hread]
  have hacc : ∀ a, acceptedReads a (log ++ [.admission s.currentClockCycle t,
      .enqueue s.currentClockCycle (activateCommand cfg t),
      .enqueue s.currentClockCycle (columnCommand cfg t busPacketType)]) = acceptedReads a log :=
    fun a => by simp [acceptedReads, Effect.accepted]
  have hret : ∀ a, returnedReads a (log ++ [.admission s.currentClockCycle t,
      .enqueue s.currentClockCycle (activateCommand cfg t),
      .enqueue s.currentClockCycle (columnCommand cfg t busPacketType)]) = returnedReads a log :=
    fun a => by simp [returnedReads, Effect.returned]
  refine ⟨fun u hu => ?_, ?_, fun a => ?_, ?_, fun a => ?_, fun a => ?_⟩
  · dsimp only at hu
    split_ifs at hu with hread
    · rcases List.mem_append.mp hu with hu | hu
      · exact h.pending_reads u hu
      · rw [List.mem_singleton.mp hu, hread]
    · exact h.pending_reads u hu
  · simpa only [List.filterMap_append, List.filterMap_cons, Effect.returned, List.filterMap_nil,
      List.append_nil] using h.returned_reads
  · dsimp only
    rw [hacc, hret, hpending, h.fifo a, hqueue a]
    simp only [List.append_assoc]
  · dsimp only
    have hadm : admittedReads (log ++ [.admission s.currentClockCycle t,
        .enqueue s.currentClockCycle (activateCommand cfg t),
        .enqueue s.currentClockCycle (columnCommand cfg t busPacketType)]) =
        admittedReads log ++ if t.transactionType = .DATA_READ then [t.unstamped] else [] := by
      split_ifs <;> simp [admittedReads, Effect.admitted, *]
    rw [hadm]
    split_ifs
    · simpa using h.admission_order.append (List.Sublist.refl [t.unstamped])
    · simpa using h.admission_order
  · dsimp only
    have hcount : [Effect.admission s.currentClockCycle t,
        .enqueue s.currentClockCycle (activateCommand cfg t),
        .enqueue s.currentClockCycle (columnCommand cfg t busPacketType)].countP
        (Effect.enqueuesRead a) = (readsTo a [t]).length := by
      have hact : (activateCommand cfg t).readsFrom a = false := by
        simp [activateCommand, BusPacket.readsFrom]
      simp only [List.countP_cons, List.countP_nil, Effect.enqueuesRead, hact,
        columnCommand_readsFrom hb, readsTo_singleton]
      split <;> simp
    rw [List.countP_append, hcount, hret, hpending, h.enqueued a, List.length_append]
    omega
  · rw [List.countP_append, hret, h.received a]
    simp [Effect.receivesData]

/-- The return path completes the first pending read with the address of the first returned
data. -/
theorem ReadLedger.returnPath (h : ReadLedger s log) (hr : returnPath s = .ok r) :
    ReadLedger r.1 (log ++ r.2) := by
  rcases returnPath_eq_ok hr with ⟨rfl, -⟩ | ⟨d, rest, t, hd, hfind, rfl⟩
  · simpa using h
  have hpending : ∀ a, readsTo a s.pendingReadTransactions = readsTo a [t] ++
      readsTo a (s.pendingReadTransactions.eraseP fun t => t.address = d.address) :=
    fun a => readsTo_eraseP (fun _ _ huv => by simp only [huv]) hfind
  have hread : t.transactionType = .DATA_READ :=
    h.pending_reads t (List.mem_of_find?_eq_some hfind)
  have haddress : t.address = d.address := by simpa using List.find?_some hfind
  have hret : ∀ a, returnedReads a (log ++ [.returnReadData s.currentClockCycle t]) =
      returnedReads a log ++ readsTo a [t] := fun a => by
    simp [returnedReads, Effect.returned]
  refine ⟨fun u hu => h.pending_reads u ((List.eraseP_sublist _).subset hu), fun u hu => ?_,
    fun a => ?_, ?_, fun a => ?_, fun a => ?_⟩ <;> dsimp only at *
  · simp only [List.filterMap_append, List.filterMap_cons, List.filterMap_nil, Effect.returned,
      List.mem_append, List.mem_singleton] at hu
    rcases hu with hu | rfl
    · exact h.returned_reads u hu
    · exact hread
  · have hacc : acceptedReads a (log ++ [.returnReadData s.currentClockCycle t]) =
        acceptedReads a log := by
      simp [acceptedReads, Effect.accepted]
    rw [hacc, hret, h.fifo a, hpending a]
    simp only [List.append_assoc]
  · simpa [admittedReads, Effect.admitted] using
      ((List.eraseP_sublist _).map Transaction.unstamped).trans h.admission_order
  · rw [List.countP_append, hret, h.enqueued a, hpending a]
    simp [Effect.enqueuesRead]
    omega
  · rw [List.countP_append, hret, h.received a, hd]
    by_cases hda : d.address = a
    · simp [Effect.receivesData, readsTo_singleton, Transaction.readsFrom, hread, haddress,
        List.countP_cons, hda]
      omega
    · simp [Effect.receivesData, readsTo_singleton, Transaction.readsFrom, haddress,
        List.countP_cons, hda]

/-- Whether data are waiting in `returnTransaction` with, per address, as many pending reads
to complete. -/
def ReturnsCovered (s : State) : Prop :=
  ∀ a, s.returnTransaction.countP (fun d => d.address = a) ≤
    (readsTo a s.pendingReadTransactions).length

theorem ReturnsCovered.congr {s' : State} (h : ReturnsCovered s) (hs : SameReadPath s s') :
    ReturnsCovered s' := fun a => by
  rw [hs.returns, readsTo_congr hs.pending]
  exact h a

theorem ReturnsCovered.admitTransaction {hasRoomFor : Nat → Nat → Bool} (h : ReturnsCovered s)
    (ha : admitTransaction cfg hasRoomFor s = .ok r) : ReturnsCovered r.1 := by
  rcases admitTransaction_eq_ok ha with rfl | ⟨t, _, _, _, rfl⟩
  · exact h
  · intro a
    dsimp only
    split_ifs
    · rw [readsTo_append, List.length_append]
      exact (h a).trans (Nat.le_add_right _ _)
    · exact h a

/-- With data covered by pending reads, some pending read has the address of the first data
waiting. -/
theorem ReturnsCovered.find?_isSome (h : ReturnsCovered s) {d : Transaction}
    {rest : List Transaction} (hd : s.returnTransaction = d :: rest) :
    (s.pendingReadTransactions.find? fun t => t.address = d.address).isSome := by
  have hpos : 0 < (readsTo d.address s.pendingReadTransactions).length := by
    have hd' := h d.address
    rw [hd, List.countP_cons_of_pos _ _ (by simp)] at hd'
    omega
  obtain ⟨x, hx⟩ := List.exists_mem_of_length_pos hpos
  simp only [readsTo, List.mem_map, List.mem_filter, Transaction.readsFrom, Bool.and_eq_true,
    decide_eq_true_eq] at hx
  obtain ⟨y, ⟨hy, -, hya⟩, -⟩ := hx
  exact List.find?_isSome.mpr ⟨y, hy, by simpa using hya⟩

/-- With data covered by pending reads the return path always finds a matching read. -/
theorem returnPath_ne_noMatchingTransaction (h : ReturnsCovered s) {a : Nat} :
    returnPath s ≠ .error (.noMatchingTransaction a) := by
  unfold returnPath
  split
  · nofun
  · rename_i d rest hd
    split
    · rename_i hnone
      simpa [hnone] using h.find?_isSome hd
    · nofun

end Steps

/-! ## One cycle, and one event, on the ledger -/

section Cycle

variable {cfg : Config} {input : UpdateInput} {s s' : State} {log out : List Effect}
  {r : State × List Effect}

theorem applyCommand_pending {packet : BusPacket} (h : applyCommand cfg packet s = .ok s') :
    s'.pendingReadTransactions.map Transaction.unstamped =
      s.pendingReadTransactions.map Transaction.unstamped := by
  unfold applyCommand at h
  split at h <;> cases h <;>
    simp only [issueRead, issueWrite, issueActivate, issuePrecharge, issueRefresh,
      map_unstamped_recordTimeACTIssued]

/-- The pop step only stamps pending reads. -/
theorem sameReadPath_issuePopped {popped : Option BusPacket}
    (h : issuePopped cfg popped s = .ok r) : SameReadPath s r.1 := by
  rcases issuePopped_eq_ok h with ⟨-, rfl⟩ | ⟨packet, -, hissue⟩
  · exact .refl s
  · obtain ⟨applied, happ, -, rfl⟩ := issue_eq_ok hissue
    obtain ⟨_, _, hq⟩ := @queueWriteData_shape cfg packet s
    have hpending := applyCommand_pending happ
    rw [hq] at happ hpending
    obtain ⟨_, _, _, _, _, rfl⟩ := applyCommand_shape happ
    exact ⟨rfl, hpending, rfl⟩

/-- Up to admission, `update()` only stamps pending reads. -/
theorem sameReadPath_before_admission {written : State} {issued : State × List Effect}
    (hw : sendWriteData cfg (sendData (sendCommand (updateBankStates cfg s).1).1).1 = .ok written)
    (hi : issuePopped cfg input.popped (refreshGate cfg written).1 = .ok issued) :
    SameReadPath s issued.1 := by
  obtain ⟨_, _, _, _, _, _, _, _, _, _, _, hgate⟩ := refreshGate_written_shape hw
  refine SameReadPath.trans ?_ (sameReadPath_issuePopped hi)
  rw [hgate]
  exact .of_eq rfl rfl rfl

/-- What `update()` emits before the pop step (auto-precharges, deliveries, completed writes
and refresh requests) is off the ledger and issues no read command. -/
theorem update_pre_quiet {written : State} :
    ∀ e ∈ (updateBankStates cfg s).2 ++ (sendCommand (updateBankStates cfg s).1).2 ++
      (sendData (sendCommand (updateBankStates cfg s).1).1).2 ++ (refreshGate cfg written).2,
      e.onLedger = false ∧ ∀ a, e.issuesRead a = false := by
  intro e he
  simp only [List.mem_append] at he
  rcases he with ((he | he) | he) | he
  · obtain ⟨_, _, _, _, _, rfl⟩ := mem_updateBankStates_effects he
    exact ⟨rfl, fun _ => rfl⟩
  · obtain ⟨_, _, rfl⟩ := mem_sendCommand_effects he; exact ⟨rfl, fun _ => rfl⟩
  · obtain ⟨_, _, rfl | rfl⟩ := mem_sendData_effects he <;> exact ⟨rfl, fun _ => rfl⟩
  · obtain ⟨_, rfl⟩ := mem_refreshGate_effects he; exact ⟨rfl, fun _ => rfl⟩

/-- Up to the return path, one `update()` keeps the ledger: it stamps pending reads, admits
and switches power. -/
theorem ReadLedger.before_return {written : State} {issued admitted : State × List Effect}
    (h : ReadLedger s log)
    (hw : sendWriteData cfg (sendData (sendCommand (updateBankStates cfg s).1).1).1 = .ok written)
    (hi : issuePopped cfg input.popped (refreshGate cfg written).1 = .ok issued)
    (ha : DramSim.admitTransaction cfg input.hasRoomFor issued.1 = .ok admitted) :
    ReadLedger (lowPower cfg input.isEmpty admitted.1).1
      (log ++ ((updateBankStates cfg s).2 ++ (sendCommand (updateBankStates cfg s).1).2 ++
        (sendData (sendCommand (updateBankStates cfg s).1).1).2 ++ (refreshGate cfg written).2 ++
        issued.2) ++ admitted.2 ++ (lowPower cfg input.isEmpty admitted.1).2) := by
  have hpre : ∀ e ∈ (updateBankStates cfg s).2 ++ (sendCommand (updateBankStates cfg s).1).2 ++
      (sendData (sendCommand (updateBankStates cfg s).1).1).2 ++ (refreshGate cfg written).2 ++
      issued.2, e.onLedger = false := by
    intro e he
    rcases List.mem_append.mp he with he | he
    · exact (update_pre_quiet e he).1
    · obtain ⟨_, _, rfl⟩ := mem_issuePopped_effects hi he; rfl
  have hlow : ∀ e ∈ (lowPower cfg input.isEmpty admitted.1).2, e.onLedger = false := by
    intro e he
    obtain ⟨_, _, ⟨_, rfl⟩ | ⟨_, rfl⟩⟩ := mem_lowPower_effects he <;> rfl
  exact ((h.frame (sameReadPath_before_admission hw hi) hpre).admitTransaction ha).frame
    (.of_eq rfl rfl rfl) hlow

/-- One `update()` keeps the ledger: up to admission it only stamps pending reads, then it
admits, switches power and completes at most one read. -/
theorem ReadLedger.update (h : ReadLedger s log) (hu : update cfg input s = .ok r) :
    ReadLedger r.1 (log ++ r.2) := by
  obtain ⟨written, issued, admitted, returned, hw, hi, ha, hr, rfl⟩ := update_eq_ok hu
  have hcycle : ReadLedger (decrementRefresh cfg returned.1) _ :=
    ((h.before_return hw hi ha).returnPath hr).congr (.of_eq rfl rfl rfl)
  simpa only [List.append_assoc] using hcycle

/-- `addTransaction` appends what it accepts to the queue and to the log. -/
theorem ReadLedger.addTransaction {transactionType : TransactionType} {address : Nat}
    (h : ReadLedger s log) (hexec : exec cfg (.addTransaction transactionType address) s =
      .ok (s', out)) : ReadLedger s' (log ++ out) := by
  by_cases hroom : s.transactionQueue.length < cfg.TRANS_QUEUE_DEPTH
  · simp only [DramSim.exec, DramSim.addTransaction, hroom, if_true, Except.ok.injEq,
      Prod.mk.injEq] at hexec
    obtain ⟨rfl, rfl⟩ := hexec
    have hacc : ∀ a, acceptedReads a (log ++ [.accept
        ⟨transactionType, address, s.currentClockCycle, 0⟩]) = acceptedReads a log ++
        readsTo a [⟨transactionType, address, s.currentClockCycle, 0⟩] := fun a => by
      simp [acceptedReads, Effect.accepted]
    have hret : ∀ a, returnedReads a (log ++ [.accept
        ⟨transactionType, address, s.currentClockCycle, 0⟩]) = returnedReads a log :=
      fun a => by simp [returnedReads, Effect.returned]
    refine ⟨h.pending_reads, ?_, fun a => ?_, ?_, fun a => ?_, fun a => ?_⟩
    · simpa only [List.filterMap_append, List.filterMap_cons, Effect.returned,
        List.filterMap_nil, List.append_nil] using h.returned_reads
    · rw [hacc, hret, h.fifo a, readsTo_append]
      simp only [List.append_assoc]
    · simpa only [admittedReads, List.filterMap_append, List.filterMap_cons, Effect.admitted,
        List.filterMap_nil, List.append_nil] using h.admission_order
    · simpa [hret, Effect.enqueuesRead] using h.enqueued a
    · simpa [hret, Effect.receivesData] using h.received a
  · simp only [DramSim.exec, DramSim.addTransaction, hroom, if_false, Except.ok.injEq,
      Prod.mk.injEq] at hexec
    obtain ⟨rfl, rfl⟩ := hexec
    simpa using h

/-- `receiveFromBus` appends returned data to `returnTransaction`. -/
theorem ReadLedger.receiveFromBus {packet : BusPacket} (h : ReadLedger s log)
    (hexec : exec cfg (.receiveFromBus packet) s = .ok (s', out)) : ReadLedger s' (log ++ out) := by
  simp only [exec, DramSim.receiveFromBus] at hexec
  split at hexec
  · cases hexec
  · simp only [Except.map, Except.ok.injEq, Prod.mk.injEq] at hexec
    obtain ⟨rfl, rfl⟩ := hexec
    have hret : ∀ a, returnedReads a (log ++ [.receive packet]) = returnedReads a log :=
      fun a => by simp [returnedReads, Effect.returned]
    refine ⟨h.pending_reads, ?_, fun a => ?_, ?_, fun a => ?_, fun a => ?_⟩
    · simpa only [List.filterMap_append, List.filterMap_cons, Effect.returned,
        List.filterMap_nil, List.append_nil] using h.returned_reads
    · simpa [acceptedReads, Effect.accepted, hret] using h.fifo a
    · simpa only [admittedReads, List.filterMap_append, List.filterMap_cons, Effect.admitted,
        List.filterMap_nil, List.append_nil] using h.admission_order
    · simpa [hret, Effect.enqueuesRead] using h.enqueued a
    · rw [List.countP_append, hret, h.received a]
      by_cases ha : packet.physicalAddress = a
      · simp [Effect.receivesData, ha]
        omega
      · simp [Effect.receivesData, ha]

/-- Every event keeps the ledger. -/
theorem ReadLedger.exec {e : Event} (h : ReadLedger s log) (hexec : exec cfg e s = .ok (s', out)) :
    ReadLedger s' (log ++ out) := by
  cases e with
  | addTransaction => exact h.addTransaction hexec
  | receiveFromBus => exact h.receiveFromBus hexec
  | update input =>
      obtain ⟨r, hu, rfl, rfl⟩ := exec_update_eq_ok hexec
      exact (h.update hu).congr (.of_eq rfl rfl rfl)
  | refreshDone | resetStats =>
      simp only [DramSim.exec, Except.ok.injEq, Prod.mk.injEq] at hexec
      obtain ⟨rfl, rfl⟩ := hexec
      exact h.frame (.of_eq rfl rfl rfl) (by simp [Effect.onLedger])

theorem readLedger_init : ReadLedger (State.init cfg) [] :=
  ⟨nofun, nofun, fun _ => rfl, .slnil, fun _ => rfl, fun _ => rfl⟩

end Cycle

/-! ## The environment of the read path -/

/-- The contract of the command queue and the ranks on the read path. The queue pops a read
command only for an address with more read commands enqueued than issued, as a queue that
hands out each enqueued packet once does (§4.3 of the spec); the ranks pass data for an
address only while more reads of it have been issued than data received, so every data packet
answers a distinct earlier READ or READ_P with its address. -/
def readContract : State → List Effect → Event → Bool
  | _, log, .update input =>
      match input.popped with
      | some p => !p.readsFrom p.physicalAddress ||
          decide (log.countP (Effect.issuesRead p.physicalAddress) <
            log.countP (Effect.enqueuesRead p.physicalAddress))
      | none => true
  | _, log, .receiveFromBus p =>
      decide (log.countP (Effect.receivesData p.physicalAddress) <
        log.countP (Effect.issuesRead p.physicalAddress))
  | _, _, _ => true

/-- What the contract keeps along a run: per address, no more read commands issued than
enqueued, and no more data received than reads issued. -/
structure ReadCounts (log : List Effect) : Prop where
  issued_le : ∀ a, log.countP (Effect.issuesRead a) ≤ log.countP (Effect.enqueuesRead a)
  received_le : ∀ a, log.countP (Effect.receivesData a) ≤ log.countP (Effect.issuesRead a)

section Counts

variable {cfg : Config} {input : UpdateInput} {s s' : State} {log out : List Effect}
  {r : State × List Effect}

/-- The only read command an `update()` issues is the popped one, and it receives no data. -/
theorem update_countP (hu : update cfg input s = .ok r) (a : Nat) :
    r.2.countP (Effect.issuesRead a) =
      (input.popped.map (.issue s.currentClockCycle)).toList.countP (Effect.issuesRead a) ∧
    r.2.countP (Effect.receivesData a) = 0 := by
  obtain ⟨t, pre, post, -, -, -, -, -, hr2, hpre, hpost, -⟩ := update_anatomy hu
  have hpre' : ∀ e ∈ pre, e.issuesRead a = false ∧ e.receivesData a = false := by
    intro e he
    rcases hpre e he with ⟨_, _, _, _, _, rfl⟩ | ⟨_, rfl⟩ | ⟨_, rfl⟩ | ⟨_, rfl⟩ <;>
      exact ⟨rfl, rfl⟩
  have hpost' : ∀ e ∈ post, e.issuesRead a = false ∧ e.receivesData a = false := by
    intro e he
    rcases hpost e he with he | ⟨_, rfl⟩ | ⟨_, rfl⟩ | ⟨_, rfl⟩
    · obtain ⟨_, _, ⟨_, rfl⟩ | ⟨_, rfl⟩⟩ := mem_lowPower_effects he <;>
        exact ⟨rfl, rfl⟩
    all_goals exact ⟨rfl, rfl⟩
  have hissued : (input.popped.map (.issue s.currentClockCycle)).toList.countP
      (Effect.receivesData a) = 0 := by
    cases input.popped <;> rfl
  have hzero : ∀ l : List Effect,
      (∀ e ∈ l, e.issuesRead a = false ∧ e.receivesData a = false) →
      l.countP (Effect.issuesRead a) = 0 ∧ l.countP (Effect.receivesData a) = 0 :=
    fun l hl => ⟨List.countP_eq_zero.mpr fun e he => by simp [(hl e he).1],
      List.countP_eq_zero.mpr fun e he => by simp [(hl e he).2]⟩
  obtain ⟨hpreIssued, hpreReceived⟩ := hzero pre hpre'
  obtain ⟨hpostIssued, hpostReceived⟩ := hzero post hpost'
  rw [hr2]
  simp only [List.countP_append, hpreIssued, hpreReceived, hpostIssued, hpostReceived, hissued]
  simp

/-- Effects that issue no read command and receive no data keep the counts. -/
theorem ReadCounts.frame (h : ReadCounts log)
    (hout : ∀ e ∈ out, ∀ a, e.issuesRead a = false ∧ e.receivesData a = false) :
    ReadCounts (log ++ out) := by
  have hiss : ∀ a, out.countP (Effect.issuesRead a) = 0 :=
    fun a => List.countP_eq_zero.mpr fun e he => by simp [(hout e he a).1]
  have hrec : ∀ a, out.countP (Effect.receivesData a) = 0 :=
    fun a => List.countP_eq_zero.mpr fun e he => by simp [(hout e he a).2]
  refine ⟨fun a => ?_, fun a => ?_⟩
  · rw [List.countP_append, List.countP_append, hiss a]
    exact (h.issued_le a).trans (Nat.le_add_right _ _)
  · rw [List.countP_append, List.countP_append, hiss a, hrec a]
    exact h.received_le a

/-- Under the contract the pop step issues no more read commands than were enqueued. -/
theorem ReadCounts.pop (h : ReadCounts log) (hallowed : readContract s log (.update input) = true)
    (c a : Nat) :
    (log ++ (input.popped.map (Effect.issue c)).toList).countP (Effect.issuesRead a) ≤
      log.countP (Effect.enqueuesRead a) := by
  rw [List.countP_append]
  have henq := h.issued_le a
  cases hp : input.popped with
  | none => simpa using henq
  | some p =>
      simp only [readContract, hp, Bool.or_eq_true, Bool.not_eq_true',
        decide_eq_true_eq] at hallowed
      by_cases hread : p.readsFrom a
      · have ha : p.physicalAddress = a := by
          simp only [BusPacket.readsFrom, Bool.and_eq_true, decide_eq_true_eq] at hread
          exact hread.2
        subst ha
        simp only [Option.map_some', Option.toList_some, List.countP_singleton,
          Effect.issuesRead, hread, if_true]
        rcases hallowed with hnot | hlt
        · exact absurd hread (by simp [hnot])
        · omega
      · simpa [Effect.issuesRead, hread] using henq

/-- Every event the contract allows keeps the counts. -/
theorem ReadCounts.exec {e : Event} (h : ReadCounts log) (hallowed : readContract s log e = true)
    (hexec : exec cfg e s = .ok (s', out)) : ReadCounts (log ++ out) := by
  cases e with
  | update input =>
      obtain ⟨r, hu, -, rfl⟩ := exec_update_eq_ok hexec
      refine ⟨fun a => ?_, fun a => ?_⟩
      · have hpop := h.pop hallowed s.currentClockCycle a
        rw [List.countP_append] at hpop
        rw [List.countP_append, List.countP_append, (update_countP hu a).1]
        omega
      · rw [List.countP_append, List.countP_append, (update_countP hu a).1,
          (update_countP hu a).2]
        exact (h.received_le a).trans (Nat.le_add_right _ _)
  | receiveFromBus p =>
      simp only [DramSim.exec, DramSim.receiveFromBus] at hexec
      split at hexec
      · cases hexec
      · simp only [Except.map, Except.ok.injEq, Prod.mk.injEq] at hexec
        obtain ⟨-, rfl⟩ := hexec
        simp only [readContract, decide_eq_true_eq] at hallowed
        refine ⟨fun a => by simpa [Effect.issuesRead, Effect.enqueuesRead] using h.issued_le a,
          fun a => ?_⟩
        by_cases ha : p.physicalAddress = a
        · subst ha
          simp [Effect.receivesData, Effect.issuesRead]
          omega
        · simpa [Effect.receivesData, Effect.issuesRead, ha] using h.received_le a
  | addTransaction =>
      simp only [DramSim.exec, Except.ok.injEq, Prod.mk.injEq] at hexec
      obtain ⟨-, rfl⟩ := hexec
      exact h.frame fun e he a => by
        split at he <;> simp_all [Effect.issuesRead, Effect.receivesData]
  | refreshDone | resetStats =>
      simp only [DramSim.exec, Except.ok.injEq, Prod.mk.injEq] at hexec
      obtain ⟨-, rfl⟩ := hexec
      exact h.frame fun e he a => by simp_all [Effect.issuesRead, Effect.receivesData]

end Counts

/-! ## No read is lost, completed twice or left unmatched -/

section Complete

variable {cfg : Config} {input : UpdateInput} {s : State} {log : List Effect} {a : Nat}

theorem ReadLedger.returnsCovered (h : ReadLedger s log) (hc : ReadCounts log) :
    ReturnsCovered s := fun a => by
  have hreceived := h.received a
  have henqueued := h.enqueued a
  have hissued := hc.issued_le a
  have hanswered := hc.received_le a
  omega

/-- An `update()` that exits with no matching transaction got through admission and failed in
the return path. -/
theorem update_eq_noMatchingTransaction
    (h : update cfg input s = .error (.noMatchingTransaction a)) :
    ∃ written issued admitted,
      sendWriteData cfg (sendData (sendCommand (updateBankStates cfg s).1).1).1 = .ok written ∧
      issuePopped cfg input.popped (refreshGate cfg written).1 = .ok issued ∧
      admitTransaction cfg input.hasRoomFor issued.1 = .ok admitted ∧
      returnPath (lowPower cfg input.isEmpty admitted.1).1 =
        .error (.noMatchingTransaction a) := by
  simp only [update, except_bind_eq_error] at h
  rcases h with
    hw | ⟨written, hw, hi | ⟨issued, hi, ha | ⟨admitted, ha, hr | ⟨_, -, hpure⟩⟩⟩⟩
  · cases sendWriteData_eq_error hw
  · rcases issuePopped_eq_error hi with h | h <;> cases h
  · cases admitTransaction_eq_error ha
  · exact ⟨written, issued, admitted, hw, hi, ha, hr⟩
  · cases hpure

/-- From a state whose waiting data are covered by pending reads, no event takes the
"Can't find a matching transaction" exit. -/
theorem exec_ne_noMatchingTransaction (h : ReturnsCovered s) (e : Event) :
    exec cfg e s ≠ .error (.noMatchingTransaction a) := by
  cases e with
  | update input =>
      intro hexec
      have hu : update cfg input s = .error (.noMatchingTransaction a) := by
        simp only [DramSim.exec] at hexec
        cases hu : update cfg input s <;> simp_all [Except.map]
      obtain ⟨written, issued, admitted, hw, hi, ha, hr⟩ := update_eq_noMatchingTransaction hu
      have hcovered : ReturnsCovered admitted.1 :=
        (h.congr (sameReadPath_before_admission hw hi)).admitTransaction ha
      have hpowered : ReturnsCovered (lowPower cfg input.isEmpty admitted.1).1 :=
        hcovered.congr (.of_eq rfl rfl rfl)
      exact returnPath_ne_noMatchingTransaction hpowered hr
  | receiveFromBus =>
      simp only [DramSim.exec, DramSim.receiveFromBus]
      split <;> nofun
  | addTransaction | refreshDone | resetStats => nofun

/-- Finding a transaction by its address does not see the stamps. -/
theorem find?_address_unstamped {l l' : List Transaction}
    (h : l'.map Transaction.unstamped = l.map Transaction.unstamped) :
    (l'.find? fun t => t.address = a).map Transaction.unstamped =
      (l.find? fun t => t.address = a).map Transaction.unstamped := by
  have hmap : ∀ l : List Transaction, (l.find? fun t => t.address = a).map Transaction.unstamped
      = (l.map Transaction.unstamped).find? fun t => t.address = a :=
    fun l => by rw [List.find?_map]; rfl
  rw [hmap, hmap, h]

/-- One `update()` takes the first data waiting in `returnTransaction`, if any, and with it
completes the earliest pending read of the data's address, stamps set aside: the pop step only
stamps pending reads and admission only appends to them, so the read the return path finds
was pending when the cycle began. -/
theorem update_completes {r : State × List Effect} (hcov : ReturnsCovered s)
    (hu : update cfg input s = .ok r) :
    r.1.returnTransaction = s.returnTransaction.tail ∧
      (r.2.filterMap Effect.returned).map Transaction.unstamped =
        ((s.returnTransaction.head?.bind fun d =>
          s.pendingReadTransactions.find? fun t => t.address = d.address).map
            Transaction.unstamped).toList := by
  obtain ⟨written, issued, admitted, returned, hw, hi, ha, hr, rfl⟩ := update_eq_ok hu
  have hsame := sameReadPath_before_admission hw hi
  -- nothing before the return path completes a read
  have hbefore : ∀ e ∈ (updateBankStates cfg s).2 ++ (sendCommand (updateBankStates cfg s).1).2 ++
      (sendData (sendCommand (updateBankStates cfg s).1).1).2 ++ (refreshGate cfg written).2 ++
      issued.2 ++ admitted.2 ++ (lowPower cfg input.isEmpty admitted.1).2,
      e.returned = none := by
    intro e he
    rcases List.mem_append.mp he with he | he
    · rcases List.mem_append.mp he with he | he
      · rcases List.mem_append.mp he with he | he
        · exact (Effect.off_ledger (a := 0) (update_pre_quiet e he).1).2.2.1
        · obtain ⟨_, _, rfl⟩ := mem_issuePopped_effects hi he; rfl
      · obtain ⟨_, rfl⟩ | ⟨_, rfl⟩ := mem_admitTransaction_effects ha he <;> rfl
    · obtain ⟨_, _, ⟨_, rfl⟩ | ⟨_, rfl⟩⟩ := mem_lowPower_effects he <;> rfl
  -- admission keeps the waiting data and appends at most one pending read
  have hadmit : admitted.1.returnTransaction = issued.1.returnTransaction ∧
      ∃ extra, admitted.1.pendingReadTransactions = issued.1.pendingReadTransactions ++ extra := by
    rcases admitTransaction_eq_ok ha with rfl | ⟨t, _, _, _, rfl⟩
    · exact ⟨rfl, [], (List.append_nil _).symm⟩
    · refine ⟨rfl, if t.transactionType = .DATA_READ then [t] else [], ?_⟩
      dsimp only
      split_ifs <;> simp
  obtain ⟨hreturns, extra, hpending⟩ := hadmit
  have hwaiting : (lowPower cfg input.isEmpty admitted.1).1.returnTransaction =
      s.returnTransaction := hreturns.trans hsame.returns
  rw [List.filterMap_append, List.filterMap_eq_nil_iff.mpr hbefore, List.nil_append]
  rcases returnPath_eq_ok hr with ⟨rfl, hnil⟩ | ⟨d, rest, t, hd, hfind, rfl⟩
  · rw [hwaiting] at hnil
    simp [hwaiting, hnil, decrementRefresh]
  · rw [hwaiting] at hd
    obtain ⟨t₀, ht₀⟩ := Option.isSome_iff_exists.mp (hcov.find?_isSome hd)
    have hissued := find?_address_unstamped (a := d.address) hsame.pending
    rw [ht₀] at hissued
    obtain ⟨t₁, ht₁, hunstamped⟩ := Option.map_eq_some'.mp hissued
    -- the read found was pending before admission
    have ht : t = t₁ := by
      change admitted.1.pendingReadTransactions.find? _ = _ at hfind
      rw [hpending, List.find?_append, ht₁, Option.or_some] at hfind
      exact (Option.some_inj.mp hfind).symm
    subst ht
    simp [hd, ht₀, hunstamped, decrementRefresh, Effect.returned]

theorem length_readsTo {l : List Transaction} :
    (readsTo a l).length = l.countP (Transaction.readsFrom a) := by
  simp [readsTo, List.countP_eq_length_filter]

/-- Among reads, the reads of an address are the transactions with that address. -/
theorem countP_readsFrom {l : List Transaction}
    (h : ∀ t ∈ l, t.transactionType = .DATA_READ) :
    l.countP (Transaction.readsFrom a) = l.countP fun t => t.address = a :=
  List.countP_congr fun t ht => by simp [Transaction.readsFrom, h t ht]

variable (cfg) in
/-- The read path along a run. Per address the accepted reads are, in order, the completed
ones, then the pending ones, then the queued ones, so their numbers add up and reads of one
address complete in the order they were accepted; the pending reads keep the order of
admission. Every data packet received has completed a read of its address or waits in
`returnTransaction`, and the next `update()` completes with the first one waiting the earliest
pending read of its address. No event can take the "Can't find a matching transaction"
exit. -/
structure ReadsComplete (s : State) (log : List Effect) : Prop where
  fifo : ∀ a, acceptedReads a log =
    returnedReads a log ++ readsTo a s.pendingReadTransactions ++ readsTo a s.transactionQueue
  count : ∀ a, (log.filterMap Effect.accepted).countP (Transaction.readsFrom a) =
    s.transactionQueue.countP (Transaction.readsFrom a) +
      s.pendingReadTransactions.countP (fun t => t.address = a) +
      (log.filterMap Effect.returned).countP (fun t => t.address = a)
  admission_order :
    (s.pendingReadTransactions.map Transaction.unstamped).Sublist (admittedReads log)
  received : ∀ a, log.countP (Effect.receivesData a) =
    (returnedReads a log).length + s.returnTransaction.countP fun d => d.address = a
  completes : ∀ input r, update cfg input s = .ok r →
    r.1.returnTransaction = s.returnTransaction.tail ∧
      (r.2.filterMap Effect.returned).map Transaction.unstamped =
        ((s.returnTransaction.head?.bind fun d =>
          s.pendingReadTransactions.find? fun t => t.address = d.address).map
            Transaction.unstamped).toList
  no_abort : ∀ e a, exec cfg e s ≠ .error (.noMatchingTransaction a)

theorem reads_complete (hrun : Run cfg readContract s log) : ReadsComplete cfg s log := by
  obtain ⟨hl, hc⟩ := Run.invariant (fun s log => ReadLedger s log ∧ ReadCounts log)
    ⟨readLedger_init, fun _ => le_rfl, fun _ => le_rfl⟩
    (fun _ _ _ _ _ hinv hallowed hexec => ⟨hinv.1.exec hexec, hinv.2.exec hallowed hexec⟩) hrun
  refine ⟨hl.fifo, fun a => ?_, hl.admission_order, hl.received,
    fun _ _ hu => update_completes (hl.returnsCovered hc) hu,
    fun e _ => exec_ne_noMatchingTransaction (hl.returnsCovered hc) e⟩
  have hlength := congrArg List.length (hl.fifo a)
  simp only [acceptedReads, returnedReads, List.length_append, length_readsTo] at hlength
  rw [countP_readsFrom hl.pending_reads, countP_readsFrom hl.returned_reads] at hlength
  omega

set_option maxRecDepth 100000 in
/-- Reads of address 0 are accepted at cycles 0 and 1 and their commands served in order; the
first read completes at 16, and the data for the second waits in `returnTransaction`. -/
theorem reads_complete_sample :
    ∃ s log, Run Config.sample readContract s log ∧
      log.filterMap Effect.returned = [⟨.DATA_READ, 0, 0, 1⟩] ∧
      s.returnTransaction.length = 1 ∧ s.pendingReadTransactions.length = 1 ∧
      ReadsComplete Config.sample s log := by
  obtain ⟨s, log, hrun, hobserved⟩ := @exists_run_of_runEvents Config.sample readContract
    ([.addTransaction .DATA_READ 0, .update ⟨none, fun _ _ => true, fun _ => false⟩,
      .addTransaction .DATA_READ 0,
      .update ⟨some ⟨.ACTIVATE, 0, 0, 0, 0, 0⟩, fun _ _ => true, fun _ => false⟩] ++
      List.replicate 9 (.update ⟨none, fun _ _ => true, fun _ => false⟩) ++
      [.update ⟨some ⟨.READ, 0, 0, 0, 0, 0⟩, fun _ _ => true, fun _ => false⟩] ++
      List.replicate 3 (.update ⟨none, fun _ _ => true, fun _ => false⟩) ++
      [.update ⟨some ⟨.READ, 0, 0, 0, 0, 0⟩, fun _ _ => true, fun _ => false⟩,
        .receiveFromBus ⟨.DATA, 0, 0, 0, 0, 0⟩,
        .update ⟨none, fun _ _ => true, fun _ => false⟩,
        .receiveFromBus ⟨.DATA, 0, 0, 0, 0, 0⟩])
    (fun s log => decide (log.filterMap Effect.returned = [⟨.DATA_READ, 0, 0, 1⟩] ∧
      s.returnTransaction.length = 1 ∧ s.pendingReadTransactions.length = 1))
    (by decide) (by decide)
  obtain ⟨hreturned, hwaiting, hpending⟩ := of_decide_eq_true hobserved
  exact ⟨s, log, hrun, hreturned, hwaiting, hpending, reads_complete hrun⟩

end Complete

end DramSim
