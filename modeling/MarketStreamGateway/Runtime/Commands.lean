import MarketStreamGateway.Providers.Adapter
import MarketStreamGateway.Lib.Ledger

/-!
# Market Stream Gateway — outbound command state

`CommandState` of `runtime.rs`: the commands still to be sent, the ones sent
and not fully acknowledged, and the request ids in use.

`Tracks` says that it is an implementation of `Lib.Ledger`: the queue is the
unsent part of the ledger, the pending map counts what the sent part still
awaits, and the known ids are those of the open entries. One lemma per
operation carries the relation over; `readinessComplete_iff` is the point of
it: nothing queued and nothing pending means everything ever enqueued was sent
and fully acknowledged.
-/

namespace MarketStreamGateway

open Lib

/-- A span of time in milliseconds, with the text its debug form prints. -/
structure Duration where
  millis : Nat
  shown : Text
  deriving DecidableEq, Repr

/-- What can end a connection. -/
inductive RuntimeError where
  | adapter (error : AdapterError)
  | webSocket (message : Text)
  | connectTimeout (after : Duration)
  | writeTimeout (after : Duration)
  | closed
  | stale (after : Duration)
  | providerClosed (frame : Text)
  | registryClosed
  | nonUtf8Binary
  | invalidBinary (message : Text)
  | decompressedFrameTooLarge (limit : Nat)
  | invalidOutboundCommand
  | duplicateOutboundRequestId (requestId : Text)
  | unexpectedAcknowledgement (requestId : Text)
  | subscriptionAcknowledgementTimeout (after : Duration)
  deriving DecidableEq, Repr

/-- The text of an error, which the health entry shows. -/
def RuntimeError.display : RuntimeError → Text
  | .adapter error => error.display
  | .webSocket message => message
  | .connectTimeout after => "upstream websocket connect timed out after ".toList ++ after.shown
  | .writeTimeout after => "upstream websocket write timed out after ".toList ++ after.shown
  | .closed => "upstream websocket closed".toList
  | .stale after => "upstream websocket was stale for ".toList ++ after.shown
  | .providerClosed frame => "provider closed the websocket: ".toList ++ frame
  | .registryClosed => "subscription registry closed".toList
  | .nonUtf8Binary => "provider sent a non-UTF-8 binary frame".toList
  | .invalidBinary message => "provider sent invalid compressed binary data: ".toList ++ message
  | .decompressedFrameTooLarge limit =>
    "provider decompressed binary frame exceeds the ".toList ++ Text.ofNat limit ++
      " byte limit".toList
  | .invalidOutboundCommand =>
    "provider generated an invalid outbound subscription command".toList
  | .duplicateOutboundRequestId requestId =>
    "provider reused outbound request id ".toList ++ requestId
  | .unexpectedAcknowledgement requestId =>
    "provider acknowledged unknown or already completed request id ".toList ++ requestId
  | .subscriptionAcknowledgementTimeout after =>
    "initial subscription acknowledgement timed out after ".toList ++ after.shown

/-- The commands of a connection: waiting, sent and known by their ids. -/
structure CommandState where
  queued : List OutboundCommand
  /-- Acknowledgements still expected, by request id. -/
  pending : Finmap fun _ : Text => Nat
  knownRequestIds : Finset Text

namespace CommandState

/-- No commands at all. -/
def empty : CommandState := ⟨[], ∅, ∅⟩

/-- Queue commands one by one; the first one refused ends the call, with the
ones before it queued. -/
def enqueue (c : CommandState) : List OutboundCommand → Except RuntimeError Unit × CommandState
  | [] => (.ok (), c)
  | command :: commands =>
    if command.requestId.isEmpty then (.error .invalidOutboundCommand, c)
    else if command.requestId ∈ c.knownRequestIds then
      (.error (.duplicateOutboundRequestId command.requestId), c)
    else
      enqueue { c with
        queued := c.queued ++ [command]
        knownRequestIds := insert command.requestId c.knownRequestIds } commands

/-- There is a command to send. -/
def hasQueued (c : CommandState) : Bool := !c.queued.isEmpty

/-- Takes the first waiting command. -/
def popFront (c : CommandState) : Option OutboundCommand × CommandState :=
  match c.queued with
  | [] => (none, c)
  | command :: rest => (some command, { c with queued := rest })

/-- Books a command that has been written; one that expects no acknowledgement
is forgotten. -/
def markSent (c : CommandState) (requestId : Text) (expectedAcknowledgements : Nat) :
    Except RuntimeError Unit × CommandState :=
  if expectedAcknowledgements = 0 then
    (.ok (), { c with knownRequestIds := c.knownRequestIds.erase requestId })
  else
    let inserted := { c with pending := c.pending.insert requestId expectedAcknowledgements }
    if requestId ∈ c.pending then (.error (.duplicateOutboundRequestId requestId), inserted)
    else (.ok (), inserted)

/-- The source decrements an unsigned counter; `Tracks` keeps it positive. -/
def acknowledge (c : CommandState) (requestId : Text) : Except RuntimeError Unit × CommandState :=
  match c.pending.lookup requestId with
  | none => (.error (.unexpectedAcknowledgement requestId), c)
  | some remaining =>
    if remaining - 1 = 0 then
      (.ok (), { c with
        pending := c.pending.erase requestId
        knownRequestIds := c.knownRequestIds.erase requestId })
    else (.ok (), { c with pending := c.pending.insert requestId (remaining - 1) })

/-- Everything was sent and acknowledged. -/
def readinessComplete (c : CommandState) : Bool := c.queued.isEmpty && c.pending = ∅

end CommandState

/-! ## The ledger behind the command state -/

section Tracks

variable {Λ : Type*}

/-- A ledger of commands, each with its document and a label. -/
abbrev CommandLedger (Λ : Type*) := Ledger Text (Value × Λ)

/-- The command an entry was posted for. -/
def entryCommand (e : Entry Text (Value × Λ)) : OutboundCommand := ⟨e.id, e.content.1, e.expected⟩

/-- Post a list of commands under one label. -/
def postAll (l : CommandLedger Λ) (label : Λ) (commands : List OutboundCommand) :
    CommandLedger Λ :=
  commands.foldl (fun l command =>
    l.post command.requestId command.expectedAcknowledgements (command.document, label)) l

/-- Posting appends the contents of the commands. -/
theorem postAll_contents (l : CommandLedger Λ) (label : Λ) (commands : List OutboundCommand) :
    (postAll l label commands).map (·.content) =
      l.map (·.content) ++ commands.map fun command => (command.document, label) := by
  induction commands generalizing l with
  | nil => simp [postAll]
  | cons command commands ih =>
    rw [postAll, List.foldl_cons, ← postAll, ih]
    simp [Ledger.post]

/-- The command state implements the ledger. -/
structure Tracks (c : CommandState) (l : CommandLedger Λ) : Prop where
  wellFormed : l.WellFormed
  queued : c.queued = l.unsent.map entryCommand
  pending : ∀ id n, c.pending.lookup id = some n ↔
    ∃ e ∈ l, e.awaiting ∧ e.id = id ∧ n = e.expected - e.acknowledged
  known : ∀ id, id ∈ c.knownRequestIds ↔ ∃ e ∈ l, e.isOpen ∧ e.id = id

/-- An empty ledger tracks an empty state. -/
theorem tracks_empty : Tracks CommandState.empty ([] : CommandLedger Λ) := by
  refine ⟨Ledger.wellFormed_nil, rfl, fun id n => ?_, fun id => ?_⟩
  · simp [CommandState.empty]
  · simp [CommandState.empty]

variable {c : CommandState} {l : CommandLedger Λ}

/-- **Readiness.** Nothing queued and nothing pending is everything done. -/
theorem Tracks.readinessComplete_iff (h : Tracks c l) :
    c.readinessComplete ↔ ∀ e ∈ l, e.Done := by
  rw [h.wellFormed.all_done_iff, CommandState.readinessComplete, Bool.and_eq_true,
    decide_eq_true_eq, List.isEmpty_iff, h.queued, List.map_eq_nil_iff]
  -- nothing is queued; what is pending is what awaits an answer
  refine and_congr_right fun _ => ?_
  constructor
  · intro hEmpty e he
    by_contra hAwait
    have hLookup := (h.pending e.id _).mpr ⟨e, he, by simpa using hAwait, rfl, rfl⟩
    rw [hEmpty] at hLookup
    simp at hLookup
  · intro hNone
    refine Finmap.ext_lookup fun id => ?_
    rw [Finmap.lookup_empty]
    cases hLookup : c.pending.lookup id with
    | none => rfl
    | some n =>
      obtain ⟨e, he, hAwait, -⟩ := (h.pending id n).mp hLookup
      rw [hNone e he] at hAwait
      simp at hAwait

/-- The ledger keeps track when a command with a new id is posted. -/
theorem Tracks.post (h : Tracks c l) {command : OutboundCommand} (label : Λ)
    (hFresh : command.requestId ∉ c.knownRequestIds) :
    Tracks { c with
        queued := c.queued ++ [command]
        knownRequestIds := insert command.requestId c.knownRequestIds }
      (l.post command.requestId command.expectedAcknowledgements (command.document, label)) := by
  have hNew : ∀ e ∈ l, e.isOpen → e.id ≠ command.requestId := by
    intro e he hOpen hEq
    exact hFresh ((h.known _).mpr ⟨e, he, hOpen, hEq⟩)
  refine ⟨h.wellFormed.post _ _ hNew, ?_, fun id n => ?_, fun id => ?_⟩
  · simp [Ledger.post, Ledger.unsent, h.queued, entryCommand]
  · rw [h.pending]
    simp [Ledger.post, Entry.awaiting, or_and_right, exists_or]
  · rw [Finset.mem_insert, h.known]
    simp only [Ledger.post, List.mem_append, List.mem_singleton, or_and_right, exists_or,
      exists_eq_left, Entry.isOpen, Bool.not_false, Bool.true_or, true_and]
    rw [or_comm, eq_comm]

/-- Everything enqueued is posted. -/
theorem Tracks.enqueue (h : Tracks c l) (label : Λ) {commands : List OutboundCommand}
    {c' : CommandState} (hOk : c.enqueue commands = (.ok (), c')) :
    Tracks c' (postAll l label commands) := by
  induction commands generalizing c l with
  | nil =>
    obtain ⟨-, rfl⟩ := Prod.mk.inj hOk
    exact h
  | cons command commands ih =>
    rw [CommandState.enqueue] at hOk
    split at hOk
    · simp at hOk
    · split at hOk
      · simp at hOk
      · next hFresh => exact ih (h.post label hFresh) hOk

/-- Popping the next command and marking it sent never fails, and sends the
oldest unsent entry. -/
theorem Tracks.send (h : Tracks c l) {command : OutboundCommand} {rest : List OutboundCommand}
    (hQueued : c.queued = command :: rest) {r : Except RuntimeError Unit} {c' : CommandState}
    (hMark : CommandState.markSent { c with queued := rest } command.requestId
      command.expectedAcknowledgements = (r, c')) :
    r = .ok () ∧ Tracks c' l.send := by
  rw [h.queued] at hQueued
  obtain ⟨e, es, hUnsent, rfl, rfl⟩ := List.map_eq_cons_iff.mp hQueued
  obtain ⟨before, after, rfl, hSent, hSend, hRest⟩ := Ledger.send_spec hUnsent
  have hZero : e.acknowledged = 0 :=
    (h.wellFormed.bounded e (by simp)).2 hSent
  have hOpen : e.isOpen := by simp [Entry.isOpen, hSent]
  have hIdle : e.awaiting = false := by simp [Entry.awaiting, hSent]
  have hWell : Ledger.WellFormed (before ++ { e with sent := true } :: after) := by
    refine h.wellFormed.replace rfl (fun _ => hOpen) ⟨?_, by simp⟩
    simp [hZero]
  have hPending : ∀ id n, c.pending.lookup id = some n ↔
      ∃ x ∈ before ++ after, x.awaiting ∧ x.id = id ∧ n = x.expected - x.acknowledged := by
    intro id n
    rw [h.pending, exists_mem_split]
    simp [hIdle]
  have hKnown : ∀ id, id ∈ c.knownRequestIds ↔
      e.id = id ∨ ∃ x ∈ before ++ after, x.isOpen ∧ x.id = id := by
    intro id
    rw [h.known, exists_mem_split]
    simp [hOpen]
  -- no other open entry has this id
  have hOther : ∀ x ∈ before ++ after, x.isOpen → x.id ≠ e.id :=
    fun x hx hxOpen => h.wellFormed.other_id hOpen hx hxOpen
  change CommandState.markSent _ e.id e.expected = _ at hMark
  rw [CommandState.markSent] at hMark
  by_cases hNone : e.expected = 0
  · -- nothing to wait for: the entry is done
    rw [if_pos hNone] at hMark
    obtain ⟨rfl, rfl⟩ := Prod.mk.inj hMark
    refine ⟨rfl, ?_⟩
    rw [hSend] at hRest ⊢
    refine ⟨hWell, by rw [hRest], fun id n => ?_, fun id => ?_⟩
    · rw [hPending, exists_mem_split]
      simp [Entry.awaiting, hNone, hZero]
    · rw [Finset.mem_erase, hKnown, exists_mem_split]
      simp only [Entry.isOpen, Entry.awaiting, hNone, hZero] at hOther ⊢
      constructor
      · rintro ⟨hNe, hEq | hx⟩
        · exact absurd hEq.symm hNe
        · exact Or.inr hx
      · rintro (hSelf | ⟨x, hx, hxOpen, rfl⟩)
        · simp at hSelf
        · exact ⟨hOther x hx hxOpen, Or.inr ⟨x, hx, hxOpen, rfl⟩⟩
  · rw [if_neg hNone] at hMark
    -- a pending entry of this id would be another open one
    have hFresh : e.id ∉ c.pending := by
      rw [← Finmap.lookup_eq_none]
      cases hLookup : c.pending.lookup e.id with
      | none => rfl
      | some n =>
        obtain ⟨x, hx, hAwait, hEq, -⟩ := (hPending _ _).mp hLookup
        exact absurd hEq (hOther x hx (by simp [Entry.isOpen, hAwait]))
    rw [if_neg hFresh] at hMark
    obtain ⟨rfl, rfl⟩ := Prod.mk.inj hMark
    refine ⟨rfl, ?_⟩
    rw [hSend] at hRest ⊢
    have hAwaits : (⟨e.id, e.expected, e.content, true, e.acknowledged⟩ :
        Entry Text (Value × Λ)).awaiting = true := by
      simp [Entry.awaiting, hZero, Nat.pos_of_ne_zero hNone]
    refine ⟨hWell, by rw [hRest], fun id n => ?_, fun id => ?_⟩
    · rw [lookup_insert_ite, exists_mem_split, hAwaits]
      by_cases hId : id = e.id
      · subst hId
        simp only [if_true, true_and, Option.some.injEq, hZero, Nat.sub_zero]
        constructor
        · exact fun hEq => Or.inl hEq.symm
        · rintro (hEq | ⟨x, hx, hAwait, hEq, -⟩)
          · exact hEq.symm
          · exact absurd hEq (hOther x hx (by simp [Entry.isOpen, hAwait]))
      · rw [if_neg hId, hPending]
        have hNe : ¬ e.id = id := fun hEq => hId hEq.symm
        simp [hNe]
    · rw [hKnown, exists_mem_split]
      simp [Entry.isOpen, hAwaits]

/-- An acknowledgement is accepted exactly when a sent entry awaits it, which
it is then credited to. -/
theorem Tracks.acknowledge (h : Tracks c l) {requestId : Text} {c' : CommandState}
    (hOk : c.acknowledge requestId = (.ok (), c')) : Tracks c' (l.acknowledge requestId) := by
  rw [CommandState.acknowledge] at hOk
  cases hLookup : c.pending.lookup requestId with
  | none => rw [hLookup] at hOk; simp at hOk
  | some remaining =>
    obtain ⟨e, he, hAwait, rfl, rfl⟩ := (h.pending _ _).mp hLookup
    obtain ⟨before, after, rfl, hAck⟩ := Ledger.acknowledge_spec h.wellFormed he hAwait
    have hSent : e.sent = true ∧ e.acknowledged < e.expected := by
      simpa [Entry.awaiting] using hAwait
    have hOpen : e.isOpen := by simp [Entry.isOpen, hAwait]
    have hWell : Ledger.WellFormed
        (before ++ { e with acknowledged := e.acknowledged + 1 } :: after) := by
      refine h.wellFormed.replace rfl (fun _ => hOpen) ⟨hSent.2, ?_⟩
      simp [hSent.1]
    have hUnsent :
        Ledger.unsent (before ++ { e with acknowledged := e.acknowledged + 1 } :: after) =
        Ledger.unsent (before ++ e :: after) := by
      simp [Ledger.unsent, hSent.1]
    have hOther : ∀ x ∈ before ++ after, x.isOpen → x.id ≠ e.id :=
      fun x hx hxOpen => h.wellFormed.other_id hOpen hx hxOpen
    have hPending : ∀ id n, id ≠ e.id → (c.pending.lookup id = some n ↔
        ∃ x ∈ before ++ after, x.awaiting ∧ x.id = id ∧ n = x.expected - x.acknowledged) := by
      intro id n hNe
      rw [h.pending, exists_mem_split]
      simp [hNe.symm]
    have hKnown : ∀ id, id ≠ e.id → (id ∈ c.knownRequestIds ↔
        ∃ x ∈ before ++ after, x.isOpen ∧ x.id = id) := by
      intro id hNe
      rw [h.known, exists_mem_split]
      simp [hNe.symm]
    rw [hLookup] at hOk
    simp only at hOk
    rw [hAck]
    split at hOk
    · next hLast =>
      -- the last acknowledgement: the entry is done
      obtain ⟨-, rfl⟩ := Prod.mk.inj hOk
      have hClosed : (⟨e.id, e.expected, e.content, e.sent, e.acknowledged + 1⟩ :
          Entry Text (Value × Λ)).isOpen = false := by
        simp only [Entry.isOpen, Entry.awaiting, hSent.1]
        simp
        omega
      have hQuiet : (⟨e.id, e.expected, e.content, e.sent, e.acknowledged + 1⟩ :
          Entry Text (Value × Λ)).awaiting = false :=
        (Bool.or_eq_false_iff.mp hClosed).2
      refine ⟨hWell, h.queued.trans (by rw [hUnsent]), fun id n => ?_, fun id => ?_⟩
      · rw [lookup_erase_ite, exists_mem_split, hQuiet]
        by_cases hId : id = e.id
        · subst hId
          simp only [if_true, reduceCtorEq, false_and, false_or, false_iff]
          rintro ⟨x, hx, hxAwait, hEq, -⟩
          exact hOther x hx (by simp [Entry.isOpen, hxAwait]) hEq
        · rw [if_neg hId, hPending id n hId]
          simp
      · rw [Finset.mem_erase, exists_mem_split, hClosed]
        by_cases hId : id = e.id
        · subst hId
          simp only [ne_eq, not_true, false_and, reduceCtorEq, false_or, false_iff]
          rintro ⟨x, hx, hxOpen, hEq⟩
          exact hOther x hx hxOpen hEq
        · rw [hKnown id hId]
          simp [hId]
    · next hMore =>
      obtain ⟨-, rfl⟩ := Prod.mk.inj hOk
      have hStill : (⟨e.id, e.expected, e.content, e.sent, e.acknowledged + 1⟩ :
          Entry Text (Value × Λ)).awaiting = true := by
        simp only [Entry.awaiting, hSent.1, Bool.true_and, decide_eq_true_eq]
        omega
      refine ⟨hWell, h.queued.trans (by rw [hUnsent]), fun id n => ?_, fun id => ?_⟩
      · rw [lookup_insert_ite, exists_mem_split, hStill]
        by_cases hId : id = e.id
        · subst hId
          simp only [if_true, true_and, Option.some.injEq]
          constructor
          · exact fun hEq => Or.inl (by omega)
          · rintro (hEq | ⟨x, hx, hxAwait, hEq, -⟩)
            · omega
            · exact absurd hEq (hOther x hx (by simp [Entry.isOpen, hxAwait]))
        · rw [if_neg hId, hPending id n hId]
          have hNe : ¬ e.id = id := fun hEq => hId hEq.symm
          simp [hNe]
      · rw [h.known, exists_mem_split, exists_mem_split]
        simp [Entry.isOpen, hStill, hAwait]

end Tracks

end MarketStreamGateway
