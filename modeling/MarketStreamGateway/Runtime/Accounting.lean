import MarketStreamGateway.Runtime.Commands
import MarketStreamGateway.Lib.Run

/-!
# Market Stream Gateway — the accounts of the command state

A connection does three things with its `CommandState`: it enqueues the
commands of an adapter, sends the next one (`pop_front`, then `mark_sent` with
what was popped) and takes an acknowledgement for whatever id the provider
names. `account` keeps the books of the same operations in a ledger, which
knows nothing of queues, pending counters and known ids.

As long as no `enqueue` is refused, the command state is what the ledger says
(`command_state_accounts`): ids are known while queued or pending and never
both, a send never fails, commands leave in the order they came, an
acknowledgement is accepted exactly when one is due, and readiness is
everything sent and answered.
-/

namespace MarketStreamGateway

open Lib

/-- What a connection does with its command state. -/
inductive CommandOp where
  | enqueue (commands : List OutboundCommand)
  | send
  | acknowledge (requestId : Text)

/-- The commands an operation brings. -/
def CommandOp.brought : CommandOp → List OutboundCommand
  | .enqueue commands => commands
  | .send => []
  | .acknowledge _ => []

namespace CommandState

/-- The command branch of `run_connection`: pop the next command and, once it
is written out, mark it sent with its own values. -/
def sendNext (c : CommandState) :
    Option (OutboundCommand × Except RuntimeError Unit) × CommandState :=
  match c.popFront with
  | (none, c) => (none, c)
  | (some command, c) =>
    let (result, c) := c.markSent command.requestId command.expectedAcknowledgements
    (some (command, result), c)

/-- What an operation does to the command state. -/
def apply (c : CommandState) : CommandOp → CommandState
  | .enqueue commands => (c.enqueue commands).2
  | .send => c.sendNext.2
  | .acknowledge requestId => (c.acknowledge requestId).2

/-- The command an operation takes from the queue. -/
def popped (c : CommandState) : CommandOp → List OutboundCommand
  | .send => c.popFront.1.toList
  | _ => []

/-- The operation is not a refused `enqueue`. -/
def Enqueues (c : CommandState) : CommandOp → Prop
  | .enqueue commands => (c.enqueue commands).1 = .ok ()
  | _ => True

end CommandState

/-- The books: what was enqueued, what of it was sent, and how often it was
acknowledged. -/
def account (l : CommandLedger Unit) : CommandOp → CommandLedger Unit
  | .enqueue commands => postAll l () commands
  | .send => l.send
  | .acknowledge requestId => l.acknowledge requestId

/-! ## One operation -/

section Step

variable {c c' : CommandState} {l : CommandLedger Unit}

/-- Enqueueing puts the commands behind those that wait already. -/
theorem CommandState.enqueue_queued {commands : List OutboundCommand}
    (hOk : c.enqueue commands = (.ok (), c')) : c'.queued = c.queued ++ commands := by
  induction commands generalizing c with
  | nil =>
    obtain ⟨-, rfl⟩ := Prod.mk.inj hOk
    rw [List.append_nil]
  | cons command commands ih =>
    rw [CommandState.enqueue] at hOk
    split at hOk
    · simp at hOk
    · split at hOk
      · simp at hOk
      · rw [ih hOk, List.append_assoc, List.singleton_append]

/-- Marking a command as sent leaves the queue alone. -/
theorem CommandState.markSent_queued (c : CommandState) (requestId : Text) (expected : Nat) :
    (c.markSent requestId expected).2.queued = c.queued := by
  rw [CommandState.markSent]
  split
  · rfl
  · dsimp only
    split <;> rfl

theorem CommandState.acknowledge_queued (c : CommandState) (requestId : Text) :
    (c.acknowledge requestId).2.queued = c.queued := by
  rw [CommandState.acknowledge]
  split
  · rfl
  · split <;> rfl

/-- Posting appends an entry for each command. -/
theorem postAll_entries (l : CommandLedger Unit) (commands : List OutboundCommand) :
    (postAll l () commands).map entryCommand = l.map entryCommand ++ commands := by
  induction commands generalizing l with
  | nil => simp [postAll]
  | cons command commands ih =>
    rw [postAll, List.foldl_cons, ← postAll, ih]
    simp [Ledger.post, entryCommand]

/-- Posted commands wait behind those that have been sent. -/
theorem postAll_sentInOrder (h : l.SentInOrder) (commands : List OutboundCommand) :
    (postAll l () commands).SentInOrder := by
  induction commands generalizing l with
  | nil => exact h
  | cons command commands ih =>
    rw [postAll, List.foldl_cons, ← postAll]
    exact ih (h.post _ _ _)

/-- Sending from an empty queue does nothing, to the books as to the state. -/
theorem CommandState.sendNext_nil (h : c.queued = []) : c.sendNext = (none, c) := by
  simp [CommandState.sendNext, CommandState.popFront, h]

/-- Otherwise the head of the queue is popped and marked. -/
theorem CommandState.sendNext_cons {command : OutboundCommand} {rest : List OutboundCommand}
    (h : c.queued = command :: rest) :
    c.sendNext =
      let marked := CommandState.markSent { c with queued := rest } command.requestId
        command.expectedAcknowledgements
      (some (command, marked.1), marked.2) := by
  simp [CommandState.sendNext, CommandState.popFront, h]

/-- The ledger keeps track when a command is sent. -/
theorem Tracks.sendNext (h : Tracks c l) : Tracks c.sendNext.2 l.send := by
  cases hQueued : c.queued with
  | nil =>
    have hNone : ∀ e ∈ l, (!e.sent) = false := by
      have hUnsent := h.queued
      rw [hQueued, eq_comm, List.map_eq_nil_iff, Ledger.unsent, List.filter_eq_nil_iff] at hUnsent
      exact fun e he => by simpa using hUnsent e he
    rw [CommandState.sendNext_nil hQueued, Ledger.send, updateFirst_of_none _ hNone]
    exact h
  | cons command rest =>
    rw [CommandState.sendNext_cons hQueued]
    exact (h.send hQueued rfl).2

/-- An acknowledgement that no entry awaits is refused, and changes nothing. -/
theorem Tracks.acknowledge_unexpected (h : Tracks c l) {requestId : Text}
    (hNone : ∀ e ∈ l, (e.awaiting && decide (e.id = requestId)) = false) :
    c.acknowledge requestId = (.error (.unexpectedAcknowledgement requestId), c) := by
  have hLookup : c.pending.lookup requestId = none := by
    cases hLookup : c.pending.lookup requestId with
    | none => rfl
    | some n =>
      obtain ⟨e, he, hAwait, hId, -⟩ := (h.pending _ _).mp hLookup
      simpa [hAwait, hId] using hNone e he
  rw [CommandState.acknowledge, hLookup]

/-- One that an entry awaits is accepted. -/
theorem Tracks.acknowledge_expected (h : Tracks c l) {e : Entry Text (Value × Unit)} (he : e ∈ l)
    (hAwait : e.awaiting) : (c.acknowledge e.id).1 = .ok () := by
  have hLookup := (h.pending e.id _).mpr ⟨e, he, hAwait, rfl, rfl⟩
  rw [CommandState.acknowledge, hLookup]
  dsimp only
  split <;> rfl

/-- Every operation but a refused `enqueue` keeps state and books together. -/
theorem Tracks.apply (h : Tracks c l) {op : CommandOp} (hOp : c.Enqueues op) :
    Tracks (c.apply op) (account l op) := by
  cases op with
  | enqueue commands => exact h.enqueue () (Prod.ext hOp rfl)
  | send => exact h.sendNext
  | acknowledge requestId =>
    by_cases hNone : ∀ e ∈ l, (e.awaiting && decide (e.id = requestId)) = false
    · rw [CommandState.apply, h.acknowledge_unexpected hNone, account, Ledger.acknowledge,
        updateFirst_of_none _ hNone]
      exact h
    · have hSome : ∃ e ∈ l, e.awaiting = true ∧ e.id = requestId := by simpa using hNone
      obtain ⟨e, he, hAwait, rfl⟩ := hSome
      exact h.acknowledge (Prod.ext (h.acknowledge_expected he hAwait) rfl)

/-- The ledger keeps sent commands before waiting ones. -/
theorem account_sentInOrder (h : l.SentInOrder) (op : CommandOp) : (account l op).SentInOrder := by
  cases op with
  | enqueue commands => exact postAll_sentInOrder h commands
  | send => exact h.send
  | acknowledge requestId => exact h.acknowledge requestId

/-- The books list what was brought, whatever happened to it since. -/
theorem account_entries (l : CommandLedger Unit) (op : CommandOp) :
    (account l op).map entryCommand = l.map entryCommand ++ op.brought := by
  cases op with
  | enqueue commands => exact postAll_entries l commands
  | send =>
    rw [CommandOp.brought, List.append_nil, account, Ledger.send]
    refine updateFirst_map ?_ l
    exact fun _ => rfl
  | acknowledge requestId =>
    rw [CommandOp.brought, List.append_nil, account, Ledger.acknowledge]
    refine updateFirst_map ?_ l
    exact fun _ => rfl

/-- What leaves the queue and what is left of it are what was there and what
was brought. -/
theorem CommandState.popped_queued {op : CommandOp} (hOp : c.Enqueues op) :
    c.popped op ++ (c.apply op).queued = c.queued ++ op.brought := by
  cases op with
  | enqueue commands => exact CommandState.enqueue_queued (Prod.ext hOp rfl)
  | send =>
    rw [CommandOp.brought, List.append_nil, CommandState.popped, CommandState.apply]
    cases hQueued : c.queued with
    | nil => simp [CommandState.sendNext_nil hQueued, CommandState.popFront, hQueued]
    | cons command rest =>
      rw [CommandState.sendNext_cons hQueued]
      simp [CommandState.markSent_queued, CommandState.popFront, hQueued]
  | acknowledge requestId =>
    rw [CommandOp.brought, List.append_nil]
    exact c.acknowledge_queued requestId

end Step

/-! ## Every run -/

/-- State, books and history are of one connection: `out` is what was popped
and `all` what was enqueued. -/
structure Booked (c : CommandState) (l : CommandLedger Unit) (out all : List OutboundCommand) :
    Prop where
  tracks : Tracks c l
  inOrder : l.SentInOrder
  entries : l.map entryCommand = all
  popped : out ++ c.queued = all

/-- Nothing is booked at the start. -/
theorem booked_empty : Booked CommandState.empty [] [] [] :=
  ⟨tracks_empty, Ledger.sentInOrder_nil, rfl, rfl⟩

variable {c : CommandState} {l : CommandLedger Unit} {out all : List OutboundCommand}

/-- An operation is booked. -/
theorem Booked.apply (h : Booked c l out all) {op : CommandOp} (hOp : c.Enqueues op) :
    Booked (c.apply op) (account l op) (out ++ c.popped op) (all ++ op.brought) := by
  refine ⟨h.tracks.apply hOp, account_sentInOrder h.inOrder op, ?_, ?_⟩
  · rw [account_entries, h.entries]
  · rw [List.append_assoc, CommandState.popped_queued hOp, ← List.append_assoc, h.popped]

/-- A run is booked. -/
theorem Booked.run (h : Booked c l out all) {ops : List CommandOp}
    (hAll : AllSteps CommandState.apply CommandState.Enqueues c ops) :
    Booked (run CommandState.apply c ops) (Lib.run account l ops)
      (out ++ trace CommandState.apply CommandState.popped c ops)
      (all ++ ops.flatMap CommandOp.brought) := by
  induction ops generalizing c l out all with
  | nil => simpa [trace] using h
  | cons op ops ih =>
    have hRest := ih (h.apply hAll.1) hAll.2
    rw [List.append_assoc, List.append_assoc] at hRest
    exact hRest

/-- With sends in order, the unsent entries are the last ones. -/
theorem sent_append_unsent (h : l.SentInOrder) : l.filter (·.sent) ++ l.unsent = l := by
  induction l with
  | nil => rfl
  | cons e rest ih =>
    obtain ⟨hFirst, hRest⟩ := List.pairwise_cons.mp h
    rw [Ledger.unsent] at ih ⊢
    cases hSent : e.sent with
    | true =>
      rw [List.filter_cons_of_pos hSent, List.filter_cons_of_neg (by simp [hSent]),
        List.cons_append, ih hRest]
    | false =>
      have hNone : ∀ x ∈ rest, x.sent = false := by
        intro x hx
        by_contra hx'
        have hContra := hFirst x hx (by simpa using hx')
        rw [hSent] at hContra
        exact Bool.false_ne_true hContra
      rw [List.filter_cons_of_neg (by simp [hSent]), List.filter_cons_of_pos (by simp [hSent]),
        List.filter_eq_nil_iff.mpr fun x hx => by simp [hNone x hx], List.nil_append,
        List.filter_eq_self.mpr fun x hx => by simp [hNone x hx]]

/-- What was popped is what the books have as sent. -/
theorem Booked.popped_eq (h : Booked c l out all) : (l.filter (·.sent)).map entryCommand = out := by
  have hSplit : (l.filter (·.sent)).map entryCommand ++ c.queued = out ++ c.queued := by
    rw [h.popped, ← h.entries, h.tracks.queued, ← List.map_append, sent_append_unsent h.inOrder]
  exact List.append_cancel_right hSplit

/-- The ids of a queue, a pending map and a known set are in order, and every
answer of the command state is the one the books give. -/
structure Accounted (c : CommandState) (l : CommandLedger Unit) : Prop where
  known : c.knownRequestIds = (c.queued.map (·.requestId)).toFinset ∪ c.pending.keys
  disjoint : Disjoint (c.queued.map (·.requestId)).toFinset c.pending.keys
  queuedOnce : (c.queued.map (·.requestId)).Nodup
  remaining : ∀ id n, c.pending.lookup id = some n → 1 ≤ n
  sends : ∀ command result c', c.sendNext = (some (command, result), c') → result = .ok ()
  acknowledges : ∀ id, (c.acknowledge id).1 = .ok () ↔
    ∃ e ∈ l, e.id = id ∧ e.sent ∧ e.acknowledged < e.expected
  refuses : ∀ id, (c.acknowledge id).1 ≠ .ok () →
    c.acknowledge id = (.error (.unexpectedAcknowledgement id), c)
  ready : c.readinessComplete ↔ ∀ e ∈ l, e.sent ∧ e.acknowledged = e.expected

/-- A command awaits acknowledgements if it was sent and some of them are missing. -/
theorem awaiting_iff (e : Entry Text (Value × Unit)) :
    e.awaiting ↔ e.sent ∧ e.acknowledged < e.expected := by
  simp [Entry.awaiting]

/-- The queued ids are those of the entries that were not sent. -/
theorem Tracks.mem_queued_iff (h : Tracks c l) (id : Text) :
    id ∈ (c.queued.map (·.requestId)).toFinset ↔ ∃ e ∈ l, e.sent = false ∧ e.id = id := by
  rw [h.queued, List.mem_toFinset, List.map_map]
  simp [Ledger.unsent, entryCommand, and_assoc]

/-- The pending ids are those of the entries that await acknowledgements. -/
theorem Tracks.mem_pending_iff (h : Tracks c l) (id : Text) :
    id ∈ c.pending.keys ↔ ∃ e ∈ l, e.awaiting ∧ e.id = id := by
  rw [Finmap.mem_keys, Finmap.mem_iff]
  constructor
  · rintro ⟨n, hLookup⟩
    obtain ⟨e, he, hAwait, hId, -⟩ := (h.pending id n).mp hLookup
    exact ⟨e, he, hAwait, hId⟩
  · rintro ⟨e, he, hAwait, hId⟩
    exact ⟨_, (h.pending id _).mpr ⟨e, he, hAwait, hId, rfl⟩⟩

/-- The known ids are the queued and the pending ones. -/
theorem Tracks.known_eq (h : Tracks c l) :
    c.knownRequestIds = (c.queued.map (·.requestId)).toFinset ∪ c.pending.keys := by
  ext id
  rw [h.known, Finset.mem_union, h.mem_queued_iff, h.mem_pending_iff, ← exists_or]
  refine exists_congr fun e => ?_
  rw [← and_or_left, ← or_and_right, Entry.isOpen, Bool.or_eq_true, Bool.not_eq_true']

/-- Two open entries with one id are one entry, and none is both unsent and
awaiting. -/
theorem Tracks.queued_disjoint (h : Tracks c l) :
    Disjoint (c.queued.map (·.requestId)).toFinset c.pending.keys := by
  rw [Finset.disjoint_left]
  intro id hQueued hPending
  obtain ⟨e, he, hSent, hId⟩ := (h.mem_queued_iff id).mp hQueued
  obtain ⟨x, hx, hAwait, hxId⟩ := (h.mem_pending_iff id).mp hPending
  obtain ⟨before, after, rfl⟩ := List.append_of_mem he
  have hOpen : e.isOpen := by simp [Entry.isOpen, hSent]
  have hxOpen : x.isOpen := by simp [Entry.isOpen, hAwait]
  rcases (exists_mem_split (P := (· = x))).mp ⟨x, hx, rfl⟩ with rfl | ⟨y, hy, rfl⟩
  · simp [Entry.awaiting, hSent] at hAwait
  · exact h.wellFormed.other_id hOpen hy hxOpen (hxId.trans hId.symm)

/-- No two queued commands have the same id. -/
theorem Tracks.queued_nodup (h : Tracks c l) : (c.queued.map (·.requestId)).Nodup := by
  rw [h.queued, List.map_map, List.Nodup, List.pairwise_map, Ledger.unsent, List.pairwise_filter]
  refine h.wellFormed.distinct.imp ?_
  intro e e' hDistinct hSent hSent'
  exact hDistinct (by simpa [Entry.isOpen] using Or.inl hSent)
    (by simpa [Entry.isOpen] using Or.inl hSent')

/-- An acknowledgement is accepted if a sent command of that id misses one. -/
theorem Tracks.acknowledge_iff (h : Tracks c l) (id : Text) :
    (c.acknowledge id).1 = .ok () ↔ ∃ e ∈ l, e.id = id ∧ e.sent ∧ e.acknowledged < e.expected := by
  constructor
  · intro hOk
    by_contra hNone
    rw [h.acknowledge_unexpected fun e he => ?_] at hOk
    · simp at hOk
    · by_contra hAwait
      simp only [Bool.not_eq_false, Bool.and_eq_true, decide_eq_true_eq, awaiting_iff] at hAwait
      exact hNone ⟨e, he, hAwait.2, hAwait.1⟩
  · rintro ⟨e, he, rfl, hAwait⟩
    exact h.acknowledge_expected he ((awaiting_iff e).mpr hAwait)

/-- A refused acknowledgement changes nothing. -/
theorem CommandState.acknowledge_refused (c : CommandState) (id : Text)
    (h : (c.acknowledge id).1 ≠ .ok ()) :
    c.acknowledge id = (.error (.unexpectedAcknowledgement id), c) := by
  rw [CommandState.acknowledge] at h ⊢
  split at h
  · rfl
  · split at h <;> exact absurd rfl h

/-- What the books imply for the state. -/
theorem Tracks.accounted (h : Tracks c l) : Accounted c l where
  known := h.known_eq
  disjoint := h.queued_disjoint
  queuedOnce := h.queued_nodup
  remaining id n hLookup := by
    obtain ⟨e, -, hAwait, -, rfl⟩ := (h.pending id n).mp hLookup
    have hMore := ((awaiting_iff e).mp hAwait).2
    omega
  sends command result c' hSend := by
    cases hQueued : c.queued with
    | nil => simp [CommandState.sendNext_nil hQueued] at hSend
    | cons next rest =>
      rw [CommandState.sendNext_cons hQueued] at hSend
      obtain ⟨hPopped, -⟩ := Prod.mk.inj hSend
      obtain ⟨-, rfl⟩ := Prod.mk.inj (Option.some.inj hPopped)
      exact (h.send hQueued rfl).1
  acknowledges := h.acknowledge_iff
  refuses := c.acknowledge_refused
  ready := h.readinessComplete_iff

/-- **The accounts of the command state.** In every run without a refused
`enqueue`: the books list what was enqueued; what was popped is what they have
as sent, in the order of enqueueing, with the rest still queued; and the ids,
the counters and every answer are the ones the books give. -/
theorem command_state_accounts (ops : List CommandOp)
    (hAll : AllSteps CommandState.apply CommandState.Enqueues CommandState.empty ops) :
    let c := run CommandState.apply CommandState.empty ops
    let l := run account [] ops
    let out := trace CommandState.apply CommandState.popped CommandState.empty ops
    let all := ops.flatMap CommandOp.brought
    l.map entryCommand = all ∧ (l.filter (·.sent)).map entryCommand = out ∧
      out ++ c.queued = all ∧ Accounted c l := by
  intro c l out all
  have hBooked : Booked c l out all := by
    have hRun := booked_empty.run hAll
    rwa [List.nil_append, List.nil_append] at hRun
  exact ⟨hBooked.entries, hBooked.popped_eq, hBooked.popped, hBooked.tracks.accounted⟩

/-- A run with an id that is used again after its acknowledgement, a stray
acknowledgement and a command that expects none. -/
def reusedIdRun : List CommandOp :=
  [.enqueue [⟨"a".toList, .null, 1⟩, ⟨"b".toList, .null, 0⟩], .acknowledge "a".toList, .send,
    .acknowledge "a".toList, .send, .enqueue [⟨"a".toList, .null, 2⟩], .acknowledge "b".toList,
    .send, .acknowledge "a".toList]

/-- A run that uses the id of an acknowledged command again. -/
theorem command_state_accounts_reusedId :
    AllSteps CommandState.apply CommandState.Enqueues CommandState.empty reusedIdRun ∧
      Accounted (run CommandState.apply CommandState.empty reusedIdRun)
        (run account [] reusedIdRun) := by
  have hAll : AllSteps CommandState.apply CommandState.Enqueues CommandState.empty reusedIdRun :=
    ⟨rfl, trivial, trivial, trivial, trivial, rfl, trivial, trivial, trivial, trivial⟩
  exact ⟨hAll, (command_state_accounts reusedIdRun hAll).2.2.2⟩

end MarketStreamGateway
