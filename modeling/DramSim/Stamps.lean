import DramSim.Refresh
import DramSim.Reads

/-! # Access-latency stamps

A pending read records in `timeACTIssued` when its row was opened: an ACTIVATE stamps the
first pending read with the ACTIVATE's address, and a READ or READ_P the first one with its
address not stamped yet. The return path reads the stamp to compute the access latency. The
stamps are keyed by address, not by transaction, so a stamp need not come from the read's
own commands: with two reads of one address in flight, the first READ stamps the second
read. What does hold, when the command queue pops only commands enqueued into it and the
ranks answer only reads that were issued, is that every completed read carries the cycle of
an ACTIVATE, READ or READ_P to its address issued after it was accepted. So the recorded
latencies are ordered: access latency at most total latency.
-/

namespace DramSim

/-- Whether a command stamps pending reads of its address: ACTIVATE, READ or READ_P. -/
def BusPacket.stampsReads (p : BusPacket) : Bool :=
  p.busPacketType = .ACTIVATE || p.busPacketType = .READ || p.busPacketType = .READ_P

/-- The pending reads after the pop step's `switch`. -/
def poppedPending (popped : Option BusPacket) (c : Nat) (pending : List Transaction) :
    List Transaction :=
  match popped with
  | none => pending
  | some p =>
      match p.busPacketType with
      | .READ | .READ_P => recordTimeACTIssued
          (fun t => t.address = p.physicalAddress && t.timeACTIssued = 0) c pending
      | .ACTIVATE => recordTimeACTIssued (fun t => t.address = p.physicalAddress) c pending
      | _ => pending

theorem issuePopped_pending {cfg : Config} {popped : Option BusPacket} {s : State}
    {r : State × List Effect} (h : issuePopped cfg popped s = .ok r) :
    r.1.pendingReadTransactions =
      poppedPending popped s.currentClockCycle s.pendingReadTransactions := by
  rcases issuePopped_eq_ok h with ⟨rfl, rfl⟩ | ⟨packet, rfl, hissue⟩
  · rfl
  · obtain ⟨applied, happ, -, rfl⟩ := issue_eq_ok hissue
    obtain ⟨_, _, hq⟩ := @queueWriteData_shape cfg packet s
    rw [hq] at happ
    unfold applyCommand at happ
    simp only [poppedPending]
    split at happ <;> rename_i hty <;> cases happ <;> simp only [hty] <;> rfl

/-! ## Stamping a list of pending reads -/

section Stamping

variable {f g : Transaction → Bool} {c k : Nat}

theorem mem_recordTimeACTIssued {u : Transaction} :
    ∀ {l : List Transaction}, u ∈ recordTimeACTIssued f c l →
      u ∈ l ∨ ∃ t ∈ l, f t = true ∧ u = { t with timeACTIssued := c }
  | t :: ts, h => by
      simp only [recordTimeACTIssued] at h
      split at h
      · rcases List.mem_cons.mp h with rfl | h
        · exact .inr ⟨t, List.mem_cons_self _ _, ‹_›, rfl⟩
        · exact .inl (List.mem_cons_of_mem _ h)
      · rcases List.mem_cons.mp h with rfl | h
        · exact .inl (List.mem_cons_self _ _)
        · rcases mem_recordTimeACTIssued h with h | ⟨t', ht', hf, rfl⟩
          · exact .inl (List.mem_cons_of_mem _ h)
          · exact .inr ⟨t', List.mem_cons_of_mem _ ht', hf, rfl⟩

variable (hg : ∀ t : Transaction, g { t with timeACTIssued := c } = g t)
include hg

/-- Stamping commutes with a filter that keeps every transaction the stamp may hit. -/
theorem filter_recordTimeACTIssued :
    ∀ {l : List Transaction}, (∀ t ∈ l, f t → g t) →
      (recordTimeACTIssued f c l).filter g = recordTimeACTIssued f c (l.filter g)
  | [], _ => rfl
  | t :: ts, hfg => by
      have ih := filter_recordTimeACTIssued fun u hu => hfg u (List.mem_cons_of_mem _ hu)
      by_cases hf : f t
      · simp [recordTimeACTIssued, List.filter_cons, hf, hg, hfg t (List.mem_cons_self _ _) hf]
      · by_cases hgt : g t <;> simp [recordTimeACTIssued, List.filter_cons, hf, hgt, ih]

/-- Stamping leaves alone a filter that drops every transaction the stamp may hit. -/
theorem filter_recordTimeACTIssued_of_not :
    ∀ {l : List Transaction}, (∀ t ∈ l, f t → g t = false) →
      (recordTimeACTIssued f c l).filter g = l.filter g
  | [], _ => rfl
  | t :: ts, hfg => by
      have ih := filter_recordTimeACTIssued_of_not fun u hu => hfg u (List.mem_cons_of_mem _ hu)
      by_cases hf : f t
      · simp [recordTimeACTIssued, List.filter_cons, hf, hg, hfg t (List.mem_cons_self _ _) hf]
      · by_cases hgt : g t <;> simp [recordTimeACTIssued, List.filter_cons, hf, hgt, ih]

end Stamping

section Prefix

variable {f : Transaction → Bool} {c : Nat} (hc : c ≠ 0)
include hc

/-- A stamp never clears a stamped prefix. -/
theorem stamped_take_recordTimeACTIssued :
    ∀ {k : Nat} {l : List Transaction}, (∀ t ∈ l.take k, t.timeACTIssued ≠ 0) →
      ∀ t ∈ (recordTimeACTIssued f c l).take k, t.timeACTIssued ≠ 0
  | 0, _, _ => by simp
  | _ + 1, [], _ => by simp [recordTimeACTIssued]
  | k + 1, t :: ts, h => by
      simp only [List.take_succ_cons, List.mem_cons, forall_eq_or_imp] at h
      simp only [recordTimeACTIssued]
      split
      · simpa [List.take_succ_cons, hc] using h.2
      · simpa [List.take_succ_cons, h.1] using stamped_take_recordTimeACTIssued h.2

/-- A READ's stamp, which goes to the first transaction not stamped yet, lengthens a stamped
prefix by one. -/
theorem stamped_take_succ_recordTimeACTIssued :
    ∀ {k : Nat} {l : List Transaction}, (∀ t ∈ l, f t = true ↔ t.timeACTIssued = 0) →
      (∀ t ∈ l.take k, t.timeACTIssued ≠ 0) →
      ∀ t ∈ (recordTimeACTIssued f c l).take (k + 1), t.timeACTIssued ≠ 0
  | _, [], _, _ => by simp [recordTimeACTIssued]
  | k, t :: ts, hf, h => by
      simp only [recordTimeACTIssued]
      by_cases hft : f t
      · -- `t` is not stamped, so the stamped prefix was empty
        have hk : k = 0 := by
          rcases k with _ | k
          · rfl
          · exact absurd ((hf t (List.mem_cons_self _ _)).mp hft)
              (h t (by simp))
        subst hk
        simp [hft, hc]
      · have ht : t.timeACTIssued ≠ 0 := fun h0 => hft ((hf t (List.mem_cons_self _ _)).mpr h0)
        simp only [hft, Bool.false_eq_true, if_false, List.take_succ_cons, List.mem_cons,
          forall_eq_or_imp]
        refine ⟨ht, ?_⟩
        rcases k with _ | k
        · simp
        · simp only [List.take_succ_cons, List.mem_cons, forall_eq_or_imp] at h
          exact stamped_take_succ_recordTimeACTIssued
            (fun u hu => hf u (List.mem_cons_of_mem _ hu)) h.2

end Prefix

/-! ## The pop step on the pending reads -/

section Pop

variable {popped : Option BusPacket} {c : Nat} {l : List Transaction} {log : List Effect}

/-- A pending read after the pop step is as it was, or stamped with the cycle by the popped
command, which stamps reads of its address. -/
theorem mem_poppedPending {u : Transaction} (h : u ∈ poppedPending popped c l) :
    u ∈ l ∨ ∃ t ∈ l, ∃ p, popped = some p ∧ p.stampsReads = true ∧
      t.address = p.physicalAddress ∧ u = { t with timeACTIssued := c } := by
  rcases popped with _ | p
  · exact .inl h
  · simp only [poppedPending] at h
    split at h <;> rename_i hty
    all_goals first
      | exact .inl h
      | rcases mem_recordTimeACTIssued h with h | ⟨t, ht, hf, rfl⟩
        · exact .inl h
        · simp only [Bool.and_eq_true, decide_eq_true_eq] at hf
          refine .inr ⟨t, ht, p, rfl, by simp [BusPacket.stampsReads, hty], ?_, rfl⟩
          first | exact hf | exact hf.1

theorem timeAdded_of_mem_poppedPending {u : Transaction} (h : u ∈ poppedPending popped c l) :
    ∃ t ∈ l, u.timeAdded = t.timeAdded := by
  rcases mem_poppedPending h with h | ⟨t, ht, -, -, -, -, rfl⟩
  · exact ⟨u, h, rfl⟩
  · exact ⟨t, ht, rfl⟩

/-- Reads of another address than the stamping command's keep their filter. -/
theorem filter_recordTimeACTIssued_other {a b : Nat} {f : Transaction → Bool}
    (hf : ∀ t, f t = true → t.address = b) (hab : b ≠ a) :
    (recordTimeACTIssued f c l).filter (Transaction.readsFrom a) =
      l.filter (Transaction.readsFrom a) :=
  filter_recordTimeACTIssued_of_not (fun _ => rfl) fun t _ hft => by
    simp [Transaction.readsFrom, hf t hft, hab]

/-- Among reads, the reads of the stamping command's address are stamped as a list. -/
theorem filter_recordTimeACTIssued_same {a : Nat} {f : Transaction → Bool}
    (hf : ∀ t, f t = true → t.address = a)
    (hreads : ∀ t ∈ l, t.transactionType = .DATA_READ) :
    (recordTimeACTIssued f c l).filter (Transaction.readsFrom a) =
      recordTimeACTIssued f c (l.filter (Transaction.readsFrom a)) :=
  filter_recordTimeACTIssued (fun _ => rfl) fun t ht hft => by
    simp [Transaction.readsFrom, hf t hft, hreads t ht]

theorem poppedPending_some {p : BusPacket} :
    poppedPending (some p) c l =
      if p.readsFrom p.physicalAddress then
        recordTimeACTIssued (fun t => t.address = p.physicalAddress && t.timeACTIssued = 0) c l
      else if p.busPacketType = .ACTIVATE then
        recordTimeACTIssued (fun t => t.address = p.physicalAddress) c l
      else l := by
  simp only [poppedPending, BusPacket.readsFrom]
  cases hty : p.busPacketType <;> simp

theorem poppedPending_nil : poppedPending popped c [] = [] := by
  rcases popped with _ | p
  · rfl
  · rw [poppedPending_some]
    split_ifs <;> rfl

/-- The pop step keeps the first `issued − returned` reads of every address stamped: a
READ or READ_P stamps the first one not stamped yet, and counts as one more issued read. -/
theorem stampedFirst_poppedPending
    (h : ∀ a, ∀ t ∈ (l.filter (Transaction.readsFrom a)).take
      (log.countP (Effect.issuesRead a) - (returnedReads a log).length), t.timeACTIssued ≠ 0)
    (hreads : ∀ t ∈ l, t.transactionType = .DATA_READ)
    (hrl : ∀ a, (returnedReads a log).length ≤ log.countP (Effect.issuesRead a))
    (hc : c ≠ 0) (a : Nat) :
    ∀ t ∈ ((poppedPending popped c l).filter (Transaction.readsFrom a)).take
      ((log ++ (popped.map (Effect.issue c)).toList).countP (Effect.issuesRead a) -
        (returnedReads a (log ++ (popped.map (Effect.issue c)).toList)).length),
      t.timeACTIssued ≠ 0 := by
  rcases popped with _ | p
  · simpa using h a
  have hret : returnedReads a (log ++ [.issue c p]) = returnedReads a log := by
    simp [returnedReads, Effect.returned]
  have hfR : ∀ t : Transaction,
      (t.address = p.physicalAddress && t.timeACTIssued = 0) = true →
        t.address = p.physicalAddress :=
    fun t ht => by
      simp only [Bool.and_eq_true, decide_eq_true_eq] at ht
      exact ht.1
  have hfA : ∀ t : Transaction, decide (t.address = p.physicalAddress) = true →
      t.address = p.physicalAddress := fun t ht => by simpa using ht
  simp only [Option.map_some', Option.toList_some, List.countP_append, List.countP_singleton,
    Effect.issuesRead, hret, poppedPending_some]
  by_cases hab : p.physicalAddress = a
  · subst hab
    split_ifs with hread hact
    · -- a READ or READ_P of the address stamps its first read not stamped yet
      rw [filter_recordTimeACTIssued_same hfR hreads,
        show log.countP (Effect.issuesRead p.physicalAddress) + 1 -
            (returnedReads p.physicalAddress log).length =
          log.countP (Effect.issuesRead p.physicalAddress) -
            (returnedReads p.physicalAddress log).length + 1 by
          have := hrl p.physicalAddress; omega]
      refine stamped_take_succ_recordTimeACTIssued hc (fun t ht => ?_) (h _)
      simp only [List.mem_filter, Transaction.readsFrom, Bool.and_eq_true, decide_eq_true_eq] at ht
      simp [ht.2.2]
    · -- an ACTIVATE of the address stamps its first read again
      rw [filter_recordTimeACTIssued_same hfA hreads]
      simpa using stamped_take_recordTimeACTIssued hc (h _)
    · simpa using h _
  · have hnot : p.readsFrom a = false := by simp [BusPacket.readsFrom, hab]
    simp only [hnot, Bool.false_eq_true, if_false, Nat.add_zero]
    split_ifs
    · rw [filter_recordTimeACTIssued_other hfR hab]
      exact h a
    · rw [filter_recordTimeACTIssued_other hfA hab]
      exact h a
    · exact h a

end Pop

/-! ## The stamps along a run -/

/-- The stamp of a read was left, after the read was accepted, by an ACTIVATE, READ or READ_P
to its address issued at the stamp's cycle. -/
def StampIssued (log : List Effect) (t : Transaction) : Prop :=
  t.timeAdded < t.timeACTIssued ∧
    ∃ p, Effect.issue t.timeACTIssued p ∈ log ∧ p.stampsReads = true ∧
      p.physicalAddress = t.address

theorem StampIssued.mono {log out : List Effect} {t : Transaction} (h : StampIssued log t) :
    StampIssued (log ++ out) t := by
  obtain ⟨hlt, p, hp, hs, ha⟩ := h
  exact ⟨hlt, p, List.mem_append_left _ hp, hs, ha⟩

section Quiet

variable {log out : List Effect}
  (hout : ∀ e ∈ out, e.returned = none ∧ ∀ a, e.issuesRead a = false)
include hout

/-- Effects that complete no read and issue no read command keep both counts. -/
theorem countP_issuesRead_quiet (a : Nat) :
    (log ++ out).countP (Effect.issuesRead a) = log.countP (Effect.issuesRead a) := by
  have hzero : out.countP (Effect.issuesRead a) = 0 :=
    List.countP_eq_zero.mpr fun e he => by simp [(hout e he).2 a]
  rw [List.countP_append, hzero, Nat.add_zero]

theorem returnedReads_quiet (a : Nat) : returnedReads a (log ++ out) = returnedReads a log := by
  simp [returnedReads, List.filterMap_eq_nil_iff.mpr fun e he => (hout e he).1]

end Quiet

/-- The stamps of the read path by cycle `n`: queued transactions were accepted by `n` and
carry no stamp; pending reads were accepted by `n`, and a stamped one carries a stamp an
issued command left by `n`; the first `issued − returned` pending reads of each address are
stamped; and every completed read carries a stamp an issued command left by its
completion. -/
structure Stamps (n : Nat) (s : State) (log : List Effect) : Prop where
  queued : ∀ t ∈ s.transactionQueue, t.timeAdded ≤ n ∧ t.timeACTIssued = 0
  added : ∀ t ∈ s.pendingReadTransactions, t.timeAdded ≤ n
  pending : ∀ t ∈ s.pendingReadTransactions, t.timeACTIssued ≠ 0 →
    StampIssued log t ∧ t.timeACTIssued ≤ n
  stamped_first : ∀ a, ∀ t ∈ (s.pendingReadTransactions.filter (Transaction.readsFrom a)).take
    (log.countP (Effect.issuesRead a) - (returnedReads a log).length), t.timeACTIssued ≠ 0
  returned : ∀ c t, Effect.returnReadData c t ∈ log →
    StampIssued log t ∧ t.timeACTIssued ≤ c

section Stages

variable {cfg : Config} {n c : Nat} {s u : State} {log out : List Effect}
  {r : State × List Effect}

theorem Stamps.congr (h : Stamps n s log) (hq : u.transactionQueue = s.transactionQueue)
    (hp : u.pendingReadTransactions = s.pendingReadTransactions) : Stamps n u log :=
  ⟨hq ▸ h.queued, hp ▸ h.added, hp ▸ h.pending, hp ▸ h.stamped_first, h.returned⟩

/-- Effects that complete no read and issue no read command keep the stamps. -/
theorem Stamps.append (h : Stamps n s log)
    (hout : ∀ e ∈ out, e.returned = none ∧ ∀ a, e.issuesRead a = false) :
    Stamps n s (log ++ out) := by
  refine ⟨h.queued, h.added, fun t ht hst => ?_, fun a => ?_, fun c t he => ?_⟩
  · exact ⟨(h.pending t ht hst).1.mono, (h.pending t ht hst).2⟩
  · rw [countP_issuesRead_quiet hout, returnedReads_quiet hout]
    exact h.stamped_first a
  · rcases List.mem_append.mp he with he | he
    · exact ⟨(h.returned c t he).1.mono, (h.returned c t he).2⟩
    · exact absurd (hout _ he).1 (by simp [Effect.returned])

/-- A single effect that completes no read and issues no read command. -/
theorem quiet_singleton {e : Effect} (hr : e.returned = none) (hi : ∀ a, e.issuesRead a = false) :
    ∀ x ∈ [e], x.returned = none ∧ ∀ a, x.issuesRead a = false := by
  simp only [List.mem_singleton, forall_eq]
  exact ⟨hr, hi⟩

theorem Stamps.mono (h : Stamps n s log) {n' : Nat} (hn : n ≤ n') : Stamps n' s log :=
  ⟨fun t ht => ⟨(h.queued t ht).1.trans hn, (h.queued t ht).2⟩,
    fun t ht => (h.added t ht).trans hn,
    fun t ht hst => ⟨(h.pending t ht hst).1, (h.pending t ht hst).2.trans hn⟩,
    h.stamped_first, h.returned⟩

/-- The pop step at cycle `c` stamps pending reads with `c`, after they were accepted. -/
theorem Stamps.pop {popped : Option BusPacket} (h : Stamps c u log)
    (hadded : ∀ t ∈ u.pendingReadTransactions, t.timeAdded < c)
    (hreads : ∀ t ∈ u.pendingReadTransactions, t.transactionType = .DATA_READ)
    (hrl : ∀ a, (returnedReads a log).length ≤ log.countP (Effect.issuesRead a))
    (hclock : u.currentClockCycle = c) (hi : issuePopped cfg popped u = .ok r) :
    Stamps c r.1 (log ++ r.2) := by
  obtain ⟨_, _, _, _, _, _, _, _, _, hr1⟩ := issuePopped_shape hi
  have hpending := issuePopped_pending hi
  have heffects := issuePopped_effects hi
  rw [hclock] at hpending heffects
  rw [heffects]
  refine ⟨fun t ht => h.queued t (by rw [hr1] at ht; exact ht), fun t ht => ?_,
    fun t ht hst => ?_, fun a => ?_, fun c' t he => ?_⟩
  · rw [hpending] at ht
    obtain ⟨t₀, ht₀, heq⟩ := timeAdded_of_mem_poppedPending ht
    exact heq ▸ h.added t₀ ht₀
  · rw [hpending] at ht
    rcases mem_poppedPending ht with ht | ⟨t₀, ht₀, p, rfl, hstamps, haddr, rfl⟩
    · exact ⟨(h.pending t ht hst).1.mono, (h.pending t ht hst).2⟩
    · exact ⟨⟨hadded t₀ ht₀, p, by simp, hstamps, haddr.symm⟩, le_rfl⟩
  · rw [hpending]
    by_cases hnil : u.pendingReadTransactions = []
    · simp [hnil, poppedPending_nil]
    · -- a pending read was accepted before the pop, so the pop's cycle is not 0
      have hc : c ≠ 0 := by
        obtain ⟨t, ht⟩ := List.exists_mem_of_ne_nil _ hnil
        have := hadded t ht
        omega
      exact stampedFirst_poppedPending h.stamped_first hreads hrl hc a
  · rcases List.mem_append.mp he with he | he
    · exact ⟨(h.returned c' t he).1.mono, (h.returned c' t he).2⟩
    · cases popped <;> simp at he

/-- Admission moves an unstamped transaction accepted by `c` to the end of the pending
reads, behind the ones the issued reads have stamped. -/
theorem Stamps.admit {hasRoomFor : Nat → Nat → Bool} (h : Stamps c u log)
    (hbound : ∀ a, log.countP (Effect.issuesRead a) - (returnedReads a log).length ≤
      (u.pendingReadTransactions.filter (Transaction.readsFrom a)).length)
    (ha : admitTransaction cfg hasRoomFor u = .ok r) : Stamps c r.1 (log ++ r.2) := by
  rcases admitTransaction_eq_ok ha with rfl | ⟨t, busPacketType, hfind, -, hr⟩
  · simpa using h
  obtain ⟨hadded, hunstamped⟩ := h.queued t (List.mem_of_find?_eq_some hfind)
  have hmem : ∀ x ∈ (if t.transactionType = .DATA_READ then u.pendingReadTransactions ++ [t]
      else u.pendingReadTransactions), x ∈ u.pendingReadTransactions ∨ x = t := by
    intro x hx
    split_ifs at hx
    · simpa using hx
    · exact .inl hx
  suffices hmid : Stamps c r.1 log from
    hmid.append (by rw [hr]; simp [Effect.returned, Effect.issuesRead])
  rw [hr]
  refine ⟨fun x hx => h.queued x ((List.eraseP_sublist _).subset hx), fun x hx => ?_,
    fun x hx hst => ?_, fun a x hx => h.stamped_first a x ?_, h.returned⟩
  · rcases hmem x hx with hx | rfl
    exacts [h.added x hx, hadded]
  · rcases hmem x hx with hx | rfl
    exacts [h.pending x hx hst, absurd hunstamped hst]
  · dsimp only at hx
    split_ifs at hx
    · rwa [List.filter_append, List.take_append_of_le_length (hbound a)] at hx
    · exact hx

theorem mem_take_cons_of_mem_take_pred {x t : Transaction} {l : List Transaction} {k : Nat}
    (h : x ∈ l.take (k - 1)) : x ∈ (t :: l).take k := by
  cases k with
  | zero => simp at h
  | succ k => exact List.mem_cons_of_mem _ h

/-- The return path completes the first pending read of the address at the head of the
return queue; with more reads of that address issued than completed, that read is stamped. -/
theorem Stamps.returnPath (h : Stamps c u log)
    (hreads : ∀ t ∈ u.pendingReadTransactions, t.transactionType = .DATA_READ)
    (hhead : ∀ d ∈ u.returnTransaction.head?,
      (returnedReads d.address log).length < log.countP (Effect.issuesRead d.address))
    (hclock : u.currentClockCycle = c) (hr : returnPath u = .ok r) :
    Stamps c r.1 (log ++ r.2) := by
  rcases returnPath_eq_ok hr with ⟨rfl, -⟩ | ⟨d, rest, t, hd, hfind, rfl⟩
  · simpa using h
  have hp : ∀ v w : Transaction, v.address = w.address →
      decide (v.address = d.address) = decide (w.address = d.address) := fun v w hvw => by
    rw [hvw]
  have htmem := List.mem_of_find?_eq_some hfind
  have haddr : t.address = d.address := by simpa using List.find?_some hfind
  -- per address the pending reads are `t`, if it reads there, then the ones left
  have hsplit : ∀ a, u.pendingReadTransactions.filter (Transaction.readsFrom a) =
      (if t.readsFrom a then [t] else []) ++
        (u.pendingReadTransactions.eraseP fun t => t.address = d.address).filter
          (Transaction.readsFrom a) := fun a => by
    rw [@filter_readsFrom_eraseP a _ hp _ _ hfind, List.filter_singleton, cond_eq_if]
  have hret : ∀ a, returnedReads a (log ++ [Effect.returnReadData u.currentClockCycle t]) =
      returnedReads a log ++ if t.readsFrom a then [t.unstamped] else [] := fun a => by
    simp [returnedReads, Effect.returned, readsTo_singleton]
  have hiss : ∀ a, (log ++ [Effect.returnReadData u.currentClockCycle t]).countP
      (Effect.issuesRead a) = log.countP (Effect.issuesRead a) := fun a => by
    simp [Effect.issuesRead]
  have htread : t.readsFrom d.address = true := by
    simp [Transaction.readsFrom, hreads t htmem, haddr]
  have hstamped : t.timeACTIssued ≠ 0 := by
    refine h.stamped_first d.address t ?_
    rw [hsplit, if_pos htread, List.singleton_append]
    obtain ⟨k, hk⟩ := Nat.exists_eq_add_of_lt (hhead d (by simp [hd]))
    rw [show log.countP (Effect.issuesRead d.address) - (returnedReads d.address log).length =
      k + 1 by omega, List.take_succ_cons]
    exact List.mem_cons_self _ _
  obtain ⟨hissued, hle⟩ := h.pending t htmem hstamped
  refine ⟨h.queued, fun x hx => h.added x ((List.eraseP_sublist _).subset hx),
    fun x hx hst => ?_, fun a x hx => ?_, fun c' x he => ?_⟩
  · obtain ⟨hx', hle'⟩ := h.pending x ((List.eraseP_sublist _).subset hx) hst
    exact ⟨hx'.mono, hle'⟩
  · refine h.stamped_first a x ?_
    dsimp only at hx
    rw [hiss, hret] at hx
    rw [hsplit]
    split_ifs at hx ⊢ with hta
    · rw [List.length_append, List.length_singleton, ← Nat.sub_sub] at hx
      exact mem_take_cons_of_mem_take_pred hx
    · simpa using hx
  · rcases List.mem_append.mp he with he | he
    · exact ⟨(h.returned c' x he).1.mono, (h.returned c' x he).2⟩
    · simp only [List.mem_singleton, Effect.returnReadData.injEq] at he
      obtain ⟨rfl, rfl⟩ := he
      exact ⟨hissued.mono, hclock ▸ hle⟩

end Stages

/-! ## One cycle -/

section Cycle

variable {cfg : Config} {input : UpdateInput} {s s' : State} {log out : List Effect}
  {r : State × List Effect}

/-- Completed reads never outnumber issued ones, when every received data answered an issued
read. -/
theorem ReadLedger.returned_le_issued (hl : ReadLedger s log)
    (hrecv : ∀ a, log.countP (Effect.receivesData a) ≤ log.countP (Effect.issuesRead a))
    (a : Nat) : (returnedReads a log).length ≤ log.countP (Effect.issuesRead a) := by
  have hreceived := hl.received a
  have hanswered := hrecv a
  omega

/-- Data waiting in the return queue answers an issued read not completed yet. -/
theorem ReadLedger.returned_lt_issued (hl : ReadLedger s log)
    (hrecv : ∀ a, log.countP (Effect.receivesData a) ≤ log.countP (Effect.issuesRead a))
    {d : Transaction} (hd : d ∈ s.returnTransaction) :
    (returnedReads d.address log).length < log.countP (Effect.issuesRead d.address) := by
  have hwaiting : 0 < s.returnTransaction.countP fun x => x.address = d.address :=
    List.countP_pos_iff.mpr ⟨d, hd, by simp⟩
  have hreceived := hl.received d.address
  have hanswered := hrecv d.address
  omega

theorem returnedReads_issues {popped : Option BusPacket} {a c : Nat} :
    returnedReads a (log ++ (popped.map (Effect.issue c)).toList) = returnedReads a log := by
  cases popped <;> simp [returnedReads, Effect.returned]

/-- The stamps at the start of a cycle: `Stamps` by the current cycle, and every pending read
was accepted before it. -/
structure StampLedger (s : State) (log : List Effect) : Prop where
  stamps : Stamps s.currentClockCycle s log
  accepted_before : ∀ t ∈ s.pendingReadTransactions, t.timeAdded < s.currentClockCycle

/-- One `update()` under the contract keeps the stamps by its cycle: the pop step stamps
reads accepted before it, admission queues an unstamped read behind the stamped ones, and the
return path completes a read the issued reads have stamped. -/
theorem Stamps.update (h : StampLedger s log) (hl : ReadLedger s log) (hc : ReadCounts log)
    (hallowed : readContract s log (.update input) = true) (hu : update cfg input s = .ok r) :
    Stamps s.currentClockCycle r.1 (log ++ r.2) := by
  have hnorecv := fun a => (update_countP hu a).2
  obtain ⟨written, issued, admitted, returned, hw, hi, ha, hr, rfl⟩ := update_eq_ok hu
  obtain ⟨_, _, _, _, _, _, _, _, _, _, _, hgate⟩ := refreshGate_written_shape hw
  have hgclock : (refreshGate cfg written).1.currentClockCycle = s.currentClockCycle := by
    rw [hgate]
  have hgpending : (refreshGate cfg written).1.pendingReadTransactions =
      s.pendingReadTransactions := by rw [hgate]
  have hissued := issuePopped_effects hi
  rw [hgclock] at hissued
  have hclock : (lowPower cfg input.isEmpty admitted.1).1.currentClockCycle =
      s.currentClockCycle := by
    obtain ⟨_, _, ha'⟩ := admitTransaction_shape ha
    rw [ha', ← hgclock, ← (issuePopped_fields hi).2.2.2]
    rfl
  have hsame := sameReadPath_before_admission hw hi
  have hbefore := hl.before_return hw hi ha
  have hpre := @update_pre_quiet cfg s written
  generalize (updateBankStates cfg s).2 ++ (sendCommand (updateBankStates cfg s).1).2 ++
    (sendData (sendCommand (updateBankStates cfg s).1).1).2 ++ (refreshGate cfg written).2 = pre
    at hpre hnorecv hbefore ⊢
  have hquiet : ∀ e ∈ pre, e.returned = none ∧ ∀ a, e.issuesRead a = false :=
    fun e he => ⟨(Effect.off_ledger (a := 0) (hpre e he).1).2.2.1, (hpre e he).2⟩
  -- up to the pop step nothing on the read path changes
  have hgated : Stamps s.currentClockCycle (refreshGate cfg written).1 (log ++ pre) :=
    (h.stamps.congr (by rw [hgate]) hgpending).append hquiet
  have hpopped : Stamps s.currentClockCycle issued.1 (log ++ (pre ++ issued.2)) := by
    rw [← List.append_assoc]
    refine hgated.pop (hgpending ▸ h.accepted_before) (hgpending ▸ hl.pending_reads)
      (fun a => ?_) hgclock hi
    rw [returnedReads_quiet hquiet, countP_issuesRead_quiet hquiet]
    exact hl.returned_le_issued hc.received_le a
  -- the contract leaves room behind the stamped reads for the admitted one
  have hadmitted := hpopped.admit (fun a => ?_) ha
  · have hswitched : Stamps s.currentClockCycle (lowPower cfg input.isEmpty admitted.1).1
        (log ++ (pre ++ issued.2) ++ admitted.2) := hadmitted.congr rfl rfl
    have hpowered : Stamps s.currentClockCycle (lowPower cfg input.isEmpty admitted.1).1
        (log ++ (pre ++ issued.2) ++ admitted.2 ++ (lowPower cfg input.isEmpty admitted.1).2) :=
      hswitched.append fun e he => by
        obtain ⟨_, _, ⟨_, rfl⟩ | ⟨_, rfl⟩⟩ := mem_lowPower_effects he <;>
          exact ⟨rfl, fun _ => rfl⟩
    have hrecv : ∀ a, (log ++ (pre ++ issued.2) ++ admitted.2 ++
        (lowPower cfg input.isEmpty admitted.1).2).countP (Effect.receivesData a) ≤
        (log ++ (pre ++ issued.2) ++ admitted.2 ++
          (lowPower cfg input.isEmpty admitted.1).2).countP (Effect.issuesRead a) := fun a => by
      have hnone := hnorecv a
      have hanswered := hc.received_le a
      simp only [List.countP_append] at hnone ⊢
      omega
    have hreturned := hpowered.returnPath hbefore.pending_reads
      (fun d hd => hbefore.returned_lt_issued hrecv (List.mem_of_mem_head? hd)) hclock hr
    have hcycle : Stamps s.currentClockCycle (decrementRefresh cfg returned.1) _ :=
      hreturned.congr rfl rfl
    simpa only [List.append_assoc] using hcycle
  · have hpop := hc.pop hallowed s.currentClockCycle a
    have henqueued := hl.enqueued a
    have hlength : (issued.1.pendingReadTransactions.filter (Transaction.readsFrom a)).length =
        (readsTo a s.pendingReadTransactions).length := by
      rw [← readsTo_congr hsame.pending, readsTo, List.length_map]
    rw [List.countP_append] at hpop
    rw [← List.append_assoc, hissued, returnedReads_issues, returnedReads_quiet hquiet,
      List.countP_append, countP_issuesRead_quiet hquiet, hlength]
    omega

/-- Every event the contract allows keeps the stamps. -/
theorem StampLedger.exec {e : Event} (h : StampLedger s log) (hl : ReadLedger s log)
    (hc : ReadCounts log) (hallowed : readContract s log e = true)
    (hexec : exec cfg e s = .ok (s', out)) : StampLedger s' (log ++ out) := by
  cases e with
  | update input =>
      obtain ⟨r, hu, rfl, rfl⟩ := exec_update_eq_ok hexec
      have hstamps := Stamps.update h hl hc hallowed hu
      have hclock := (update_refresh hu).2.2.1
      refine ⟨?_, fun t ht => ?_⟩
      · show Stamps (r.1.currentClockCycle + 1) _ _
        rw [hclock]
        exact (hstamps.mono (Nat.le_succ _)).congr rfl rfl
      · have hadded := hstamps.added t ht
        show t.timeAdded < r.1.currentClockCycle + 1
        omega
  | addTransaction transactionType address =>
      by_cases hroom : s.transactionQueue.length < cfg.TRANS_QUEUE_DEPTH
      · simp only [DramSim.exec, DramSim.addTransaction, hroom, if_true, Except.ok.injEq,
          Prod.mk.injEq] at hexec
        obtain ⟨rfl, rfl⟩ := hexec
        refine ⟨Stamps.append ⟨fun t ht => ?_, h.stamps.added, h.stamps.pending,
          h.stamps.stamped_first, h.stamps.returned⟩ (quiet_singleton rfl fun _ => rfl),
          h.accepted_before⟩
        rcases List.mem_append.mp ht with ht | ht
        · exact h.stamps.queued t ht
        · rw [List.mem_singleton.mp ht]
          exact ⟨le_rfl, rfl⟩
      · simp only [DramSim.exec, DramSim.addTransaction, hroom, if_false, Except.ok.injEq,
          Prod.mk.injEq] at hexec
        obtain ⟨rfl, rfl⟩ := hexec
        simpa using h
  | receiveFromBus p =>
      simp only [DramSim.exec, DramSim.receiveFromBus] at hexec
      split at hexec
      · cases hexec
      · simp only [Except.map, Except.ok.injEq, Prod.mk.injEq] at hexec
        obtain ⟨rfl, rfl⟩ := hexec
        exact ⟨(h.stamps.append (@quiet_singleton (.receive p) rfl fun _ => rfl)).congr rfl rfl,
          h.accepted_before⟩
  | refreshDone =>
      simp only [DramSim.exec, Except.ok.injEq, Prod.mk.injEq] at hexec
      obtain ⟨rfl, rfl⟩ := hexec
      exact ⟨(h.stamps.append fun _ he => absurd he (List.not_mem_nil _)).congr rfl rfl,
        h.accepted_before⟩
  | resetStats =>
      simp only [DramSim.exec, Except.ok.injEq, Prod.mk.injEq] at hexec
      obtain ⟨rfl, rfl⟩ := hexec
      exact ⟨(h.stamps.append (@quiet_singleton (.resetStats s.currentClockCycle) rfl
        fun _ => rfl)).congr rfl rfl, h.accepted_before⟩

end Cycle

/-! ## Stamps of completed reads -/

end DramSim
