import MarketStreamGateway.Feeds.Session

/-!
# Market Stream Gateway — what a rejected frame leaves behind

A frame that a session rejects should leave no trace in the ticker cache, or a
later event shows a value of a frame that was reported as bad. Four of the six
adapters store a ticker only when nothing can fail any more. OKX stores the
items of a frame one by one, and KuCoin stores a ticker before it compares its
sequence numbers.

* `rejected_unchanged_iff` — exactly the frames of which nothing is stored
  before something is refused leave the cache unchanged when they are rejected.
-/

namespace MarketStreamGateway

open Lib

namespace Reading

/-- Nothing is stored before something is refused: of a list of items that are
stored one by one, all are accepted or the first is refused; a ticker that is
stored before its sequence number is decoded has a sequence number that can be
decoded. -/
def AllOrNothing : Reading → Prop
  | each items => (∀ item ∈ items, item.isOk = true) ∨ ∀ item ∈ items.head?, item.isOk = false
  | sequenced _ sequence => sequence.isOk = true
  | _ => True

section Handling

variable (provider : Provider) (connectionEpoch : Uuid) (receivedAtMs : Nat)

/-- Items that are all accepted make an accepted frame. -/
theorem storeEach_ok (tickers : Tickers) {items : List (Except AdapterError Update)}
    (h : ∀ item ∈ items, item.isOk = true) :
    (storeEach provider connectionEpoch receivedAtMs tickers items).1.isOk = true := by
  induction items generalizing tickers with
  | nil => rfl
  | cons item items ih =>
    cases item with
    | error error => exact absurd (h _ List.mem_cons_self) Bool.false_ne_true
    | ok u =>
      have hRest := ih (store tickers u) fun item hItem =>
        h item (List.mem_cons_of_mem _ hItem)
      rw [storeEach]
      cases hStored : (storeEach provider connectionEpoch receivedAtMs (store tickers u) items).1
        with
      | error error =>
        rw [hStored] at hRest
        exact absurd hRest Bool.false_ne_true
      | ok events => simp only [hStored]; rfl

/-- One refused item refuses the frame, whatever was stored before it. -/
theorem storeEach_error (tickers : Tickers) {items : List (Except AdapterError Update)}
    (h : ∃ item ∈ items, item.isOk = false) :
    ∃ error, (storeEach provider connectionEpoch receivedAtMs tickers items).1 = .error error := by
  induction items generalizing tickers with
  | nil =>
    obtain ⟨item, hItem, -⟩ := h
    cases hItem
  | cons item items ih =>
    cases item with
    | error error => exact ⟨error, rfl⟩
    | ok u =>
      obtain ⟨item, hItem, hBad⟩ := h
      -- the first item is good, so the bad one is further back
      rcases List.mem_cons.mp hItem with rfl | hItem
      · cases hBad
      · obtain ⟨error, hError⟩ := ih (store tickers u) ⟨item, hItem, hBad⟩
        refine ⟨error, ?_⟩
        rw [storeEach]
        simp only [hError]
        rfl

/-- A rejected frame that is all or nothing is nothing. -/
theorem AllOrNothing.unchanged {r : Reading} (h : r.AllOrNothing) {tickers : Tickers}
    {error : AdapterError}
    (hError : (r.handle provider connectionEpoch receivedAtMs tickers).1 = .error error) :
    (r.handle provider connectionEpoch receivedAtMs tickers).2 = tickers := by
  cases r with
  | ignored | candles _ | single _ | batch _ => cases hError
  | refused _ => rfl
  | each items =>
    -- items are stored as they are read, so the error must be the first one
    rcases h with hAll | hFirst
    · have hOk := storeEach_ok provider connectionEpoch receivedAtMs tickers hAll
      simp only [handle] at hError
      cases hStored : (storeEach provider connectionEpoch receivedAtMs tickers items).1 with
      | error e =>
        rw [hStored] at hOk
        exact absurd hOk Bool.false_ne_true
      | ok events =>
        rw [hStored] at hError
        cases hError
    · cases items with
      | nil => rfl
      | cons item items =>
        cases item with
        | error e => rfl
        | ok u => exact absurd (hFirst (.ok u) rfl).symm Bool.false_ne_true
  | sequenced u sequence =>
    cases sequence with
    | error e => exact absurd h Bool.false_ne_true
    | ok sequence => cases hError
  | priced u e =>
    simp only [handle] at hError ⊢
    split at hError
    · cases hError
    · -- without a price the update is refused before it is stored
      next hPrice => rw [if_neg hPrice]
  | held u =>
    simp only [handle] at hError
    split at hError <;> cases hError

/-- A symbol that is stored is in the cache. -/
theorem mem_storeAll {tickers : Tickers} {updates : List Update} {u : Update}
    (h : u ∈ updates) : u.symbol ∈ storeAll tickers updates := by
  have hKeep : ∀ (symbol : Text) (updates : List Update) (tickers : Tickers),
      symbol ∈ tickers → symbol ∈ storeAll tickers updates := by
    intro symbol updates
    induction updates with
    | nil => exact fun _ hMem => hMem
    | cons v updates ih =>
      exact fun tickers hMem => ih (store tickers v) (Finmap.mem_insert.mpr (.inr hMem))
  induction updates generalizing tickers with
  | nil => cases h
  | cons v updates ih =>
    rcases List.mem_cons.mp h with rfl | hMem
    · exact hKeep u.symbol updates (store tickers u) (Finmap.mem_insert.mpr (.inl rfl))
    · exact @ih (store tickers v) hMem

/-- A frame that is not all or nothing is rejected and stored in part, if the
cache was empty. -/
theorem exists_error_of_not_allOrNothing {r : Reading} (h : ¬ r.AllOrNothing) :
    (∃ error, (r.handle provider connectionEpoch receivedAtMs ∅).1 = .error error) ∧
      (r.handle provider connectionEpoch receivedAtMs ∅).2 ≠ ∅ := by
  have hNew : ∀ u ∈ r.applied ∅, (r.handle provider connectionEpoch receivedAtMs ∅).2 ≠ ∅ := by
    intro u hu hEmpty
    rw [handle_tickers] at hEmpty
    exact Finmap.notMem_empty (hEmpty ▸ mem_storeAll hu)
  cases r with
  | each items =>
    simp only [AllOrNothing, not_or, not_forall] at h
    obtain ⟨⟨bad, hBad, hRefused⟩, first, hFirst, hAccepted⟩ := h
    obtain ⟨error, hError⟩ := storeEach_error provider connectionEpoch receivedAtMs ∅
      ⟨bad, hBad, Bool.eq_false_iff.mpr hRefused⟩
    refine ⟨⟨error, ?_⟩, ?_⟩
    · simp only [handle, hError]
      rfl
    · -- the first item is accepted and stored before the bad one is met
      cases items with
      | nil => cases hFirst
      | cons item items =>
        obtain rfl := Option.some.inj hFirst
        cases item with
        | error e => exact absurd rfl hAccepted
        | ok u => exact hNew u List.mem_cons_self
  -- the update is stored before the sequence is looked at
  | sequenced u sequence =>
    cases sequence with
    | error error => exact ⟨⟨error, rfl⟩, hNew u List.mem_cons_self⟩
    | ok sequence => exact absurd rfl h
  | _ => exact absurd trivial h

end Handling

end Reading

/-- A rejected frame leaves the cache unchanged in every session exactly if it is
all or nothing. -/
theorem rejected_unchanged_iff [Unicode] [JsonText] [RustDecimal] [Serde]
    (provider : Provider) (text : Text) (receivedAtMs : Nat) :
    (∀ (endpoint : EndpointKind) (epoch : Uuid) (calls : List SessionCall) (error : AdapterError),
      ((configuredAdapter provider).parse (sessionAfter provider endpoint epoch calls) text
        receivedAtMs).1 = .error error →
      sessionTickers provider ((configuredAdapter provider).parse
          (sessionAfter provider endpoint epoch calls) text receivedAtMs).2 =
        sessionTickers provider (sessionAfter provider endpoint epoch calls)) ↔
    (frameReading provider text receivedAtMs).AllOrNothing := by
  unfold frameReading
  cases hValue : marketValue provider text with
  | none =>
    exact ⟨fun _ => trivial, fun _ endpoint epoch calls error _ =>
      (parse_control hValue (sessionAfter provider endpoint epoch calls) receivedAtMs).2.1⟩
  | some value =>
    constructor
    · intro h
      by_contra hNot
      -- a new session rejects the frame, and its cache is no longer empty
      obtain ⟨⟨error, hError⟩, hChanged⟩ :=
        Reading.exists_error_of_not_allOrNothing provider 0 receivedAtMs hNot
      have hEmpty : sessionTickers provider (sessionAfter provider .primary 0 []) = ∅ :=
        sessionTickers_session provider .primary 0
      have hEpoch := sessionEpoch_after provider .primary 0 []
      obtain ⟨hAnswer, hTickers, -⟩ :=
        parse_market hValue (sessionAfter provider .primary 0 []) receivedAtMs
      rw [hEmpty, hEpoch] at hAnswer hTickers
      have hSame := h .primary 0 [] error (by rw [hAnswer, hError]; rfl)
      rw [hTickers, hEmpty] at hSame
      exact hChanged hSame
    · intro h endpoint epoch calls error hError
      obtain ⟨hAnswer, hTickers, -⟩ :=
        parse_market hValue (sessionAfter provider endpoint epoch calls) receivedAtMs
      rw [hAnswer] at hError
      rw [hTickers]
      cases hHandle : ((reading provider value text receivedAtMs).handle provider
          (sessionEpoch provider (sessionAfter provider endpoint epoch calls)) receivedAtMs
          (sessionTickers provider (sessionAfter provider endpoint epoch calls))).1 with
      | error e => exact h.unchanged provider _ receivedAtMs hHandle
      | ok market =>
        rw [hHandle] at hError
        cases hError

/-! ## A frame that is stored in part -/

section Instance

/-- A mark price, followed by an item that is not an object. -/
def tornFrame : Value :=
  .object [("arg".toList, .object [("channel".toList, .string "mark-price".toList),
      ("instId".toList, .string "BTC-USDT-SWAP".toList)]),
    ("data".toList, .array [.object [("instId".toList, .string "BTC-USDT-SWAP".toList),
      ("markPx".toList, .string "42".toList), ("ts".toList, .string "1".toList)], .null])]

local instance tornUnicode : Unicode := .ascii
local instance tornJson : JsonText := .table [(tornFrame.display, tornFrame)]
local instance tornDecimal : RustDecimal := .digits
local instance tornSerde : Serde := .mute

/-- The frame is rejected, and its first mark price stays in the cache. -/
theorem torn_frame_is_kept :
    ((configuredAdapter .okx).parse (sessionAfter .okx .pub 0 []) tornFrame.display 2).1 =
      .error (.invalidPayload .okx "mark-price item must be an object".toList) ∧
    (sessionTickers .okx (sessionAfter .okx .pub 0 [])).lookup "BTC-USDT-SWAP".toList = none ∧
    (sessionTickers .okx ((configuredAdapter .okx).parse (sessionAfter .okx .pub 0 [])
        tornFrame.display 2).2).lookup "BTC-USDT-SWAP".toList =
      some { mark := some ⟨⟨"42".toList⟩, 1⟩ } := by
  refine ⟨?_, ?_, ?_⟩
  · decide +kernel
  · decide +kernel
  · decide +kernel

end Instance

end MarketStreamGateway
