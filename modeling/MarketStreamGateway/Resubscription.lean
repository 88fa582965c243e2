import MarketStreamGateway.Feeds.Session

/-!
# Market Stream Gateway — late frames and new subscriptions

Unsubscribing a ticker clears its cache entry when the command is built, not
when the venue confirms it. Frames that were on their way by then still arrive,
and are stored like any other. If the ticker is subscribed again, they are part
of what its next event shows.

* `held_after` — a value that a session's cache holds was carried by one of the
  updates stored in the meantime, or was there before and has not been
  overwritten.
* `resubscribed_ticker_is_fresh` — the events after a new subscription show
  nothing older, provided that what late frames left in the cache is written
  again.
-/

namespace MarketStreamGateway

open Lib

/-! ## Values and where they are held -/

/-- A place of a ticker. -/
inductive Slot where
  | field (field : Field)
  | nextFundingTime
  deriving DecidableEq, Repr

/-- A value a ticker shows. -/
inductive Datum where
  | observed (field : Field) (value : ObservedDecimal)
  | nextFundingTime (timeMs : Nat)
  deriving DecidableEq, Repr

/-- Where a value is held. -/
def Datum.slot : Datum → Slot
  | observed field _ => .field field
  | nextFundingTime _ => .nextFundingTime

/-- The ticker shows the value. -/
def Ticker.Holds (t : Ticker) : Datum → Prop
  | .observed field value => t.get field = some value
  | .nextFundingTime timeMs => t.nextFundingTimeMs = some timeMs

namespace Update

/-- The value is one of those an update writes. -/
def Carries (u : Update) : Datum → Prop
  | .observed field value => (field, some value) ∈ u.writes
  | .nextFundingTime timeMs => u.nextFundingTimeMs = some (some timeMs)

/-- An update writes or clears what is in a slot. -/
def Overwrites (u : Update) : Slot → Prop
  | .field field => u.written field ≠ none
  | .nextFundingTime => u.nextFundingTimeMs ≠ none ∨ u.reset = true

/-- An updated ticker shows what the update carries and what it leaves alone. -/
theorem holds_apply {u : Update} {base : Ticker} {d : Datum} (h : (u.apply base).Holds d) :
    u.Carries d ∨ ¬ u.Overwrites d.slot ∧ base.Holds d := by
  cases d with
  | observed field value =>
    simp only [Ticker.Holds, get_apply] at h
    cases hWritten : u.written field with
    | none =>
      rw [hWritten] at h
      exact .inr ⟨fun hOver => hOver hWritten, h⟩
    | some written =>
      rw [hWritten, Option.getD_some] at h
      exact .inl (mem_writes (h ▸ hWritten))
  | nextFundingTime timeMs =>
    simp only [Ticker.Holds, apply_nextFundingTimeMs] at h
    cases hTime : u.nextFundingTimeMs with
    | some written =>
      rw [hTime, Option.getD_some] at h
      exact .inl (hTime.trans (congrArg some h))
    | none =>
      rw [hTime, Option.getD_none] at h
      cases hReset : u.reset with
      | true =>
        rw [hReset] at h
        cases h
      | false =>
        rw [hReset] at h
        -- neither written nor reset: the base had the time
        refine .inr ⟨?_, h⟩
        rintro (hOver | hOver)
        · exact hOver hTime
        · rw [hReset] at hOver
          cases hOver

end Update

/-- An empty ticker shows no value. -/
theorem Ticker.not_holds_empty (d : Datum) : ¬ ({} : Ticker).Holds d := by
  cases d with
  | observed field value => cases field <;> exact nofun
  | nextFundingTime timeMs => exact nofun

/-- Some of the updates carries the value for the symbol. -/
def CarriedBy (updates : List Update) (symbol : Text) (d : Datum) : Prop :=
  ∃ u ∈ updates, u.symbol = symbol ∧ u.Carries d

/-- Some of the updates overwrites the slot of the symbol. -/
def OverwrittenBy (updates : List Update) (symbol : Text) (slot : Slot) : Prop :=
  ∃ u ∈ updates, u.symbol = symbol ∧ u.Overwrites slot

/-- What a cache shows after some updates is carried by one of them, or was
there and was not overwritten. -/
theorem holds_storeAll {tickers : Tickers} {updates : List Update} {symbol : Text} {d : Datum}
    (h : (cached (storeAll tickers updates) symbol).Holds d) :
    CarriedBy updates symbol d ∨
      ¬ OverwrittenBy updates symbol d.slot ∧ (cached tickers symbol).Holds d := by
  induction updates generalizing tickers with
  | nil => exact .inr ⟨fun ⟨u, hu, _⟩ => absurd hu List.not_mem_nil, h⟩
  | cons u updates ih =>
    rcases ih h with ⟨v, hv, hCarries⟩ | ⟨hRest, hHead⟩
    · exact .inl ⟨v, List.mem_cons_of_mem _ hv, hCarries⟩
    · -- carried by this update, or kept from before it
      by_cases hSymbol : symbol = u.symbol
      · subst hSymbol
        rw [cached_store_self] at hHead
        rcases Update.holds_apply hHead with hCarries | ⟨hKept, hBefore⟩
        · exact .inl ⟨u, List.mem_cons_self, rfl, hCarries⟩
        · refine .inr ⟨?_, hBefore⟩
          rintro ⟨v, hv, hOver⟩
          rcases List.mem_cons.mp hv with rfl | hv
          · exact hKept hOver.2
          · exact hRest ⟨v, hv, hOver⟩
      · rw [cached_store_of_ne hSymbol] at hHead
        refine .inr ⟨?_, hHead⟩
        rintro ⟨v, hv, hOver⟩
        rcases List.mem_cons.mp hv with rfl | hv
        · exact hSymbol hOver.1.symm
        · exact hRest ⟨v, hv, hOver⟩

/-! ## Unsubscribing -/

/-- A diff drops the entry of a symbol if it unsubscribes its ticker. -/
theorem cached_forgetTickers (action : SubscriptionAction) (keys : List SubscriptionKey)
    (tickers : Tickers) (symbol : Text) :
    cached (forgetTickers action keys tickers) symbol =
      if action = .unsubscribe ∧ ∃ key ∈ keys, key.channel = .ticker ∧ key.symbol = symbol then {}
      else cached tickers symbol := by
  cases action with
  | subscribe => rfl
  | unsubscribe =>
    unfold forgetTickers
    induction keys generalizing tickers with
    | nil => simp
    | cons key keys ih =>
      rw [List.foldl_cons, ih]
      -- a later key may forget the symbol too, and then the first one does not matter
      by_cases hLater : ∃ key ∈ keys, key.channel = .ticker ∧ key.symbol = symbol
      · obtain ⟨other, hOther, hKey⟩ := hLater
        rw [if_pos ⟨rfl, other, hOther, hKey⟩,
          if_pos ⟨rfl, other, List.mem_cons_of_mem _ hOther, hKey⟩]
      · rw [if_neg (fun h => hLater h.2)]
        cases hChannel : key.channel with
        | candle1m =>
          rw [if_neg]
          rintro ⟨-, other, hOther, hKey⟩
          rcases List.mem_cons.mp hOther with rfl | hOther
          · rw [hChannel] at hKey
            cases hKey.1
          · exact hLater ⟨other, hOther, hKey⟩
        | ticker =>
          by_cases hSymbol : key.symbol = symbol
          · rw [if_pos ⟨rfl, key, List.mem_cons_self, hChannel, hSymbol⟩]
            subst hSymbol
            rw [cached, Finmap.lookup_erase, Option.getD_none]
          · rw [if_neg, cached, Finmap.lookup_erase_ne (Ne.symm hSymbol), cached]
            rintro ⟨-, other, hOther, hKey⟩
            rcases List.mem_cons.mp hOther with rfl | hOther
            · exact hSymbol hKey.2
            · exact hLater ⟨other, hOther, hKey⟩

section Sessions

variable [Unicode] [JsonText] [RustDecimal] [Serde]

/-- After its ticker was unsubscribed, nothing is known of a symbol. -/
theorem cached_unsubscribed {provider : Provider} {s : (configuredAdapter provider).Session}
    {keys : List SubscriptionKey}
    (hOk : ((configuredAdapter provider).subscriptionMessages s .unsubscribe keys).1.isOk = true)
    {key : SubscriptionKey} (hKey : key ∈ keys) (hChannel : key.channel = .ticker) :
    cached (sessionTickers provider
      ((configuredAdapter provider).subscriptionMessages s .unsubscribe keys).2) key.symbol =
        {} := by
  rw [(subscriptionMessages_tickers provider s .unsubscribe keys).1, droppedKeys_of_ok hOk,
    cached_forgetTickers, if_pos ⟨rfl, key, hKey, hChannel, rfl⟩]

/-! ## Sessions -/

/-- The updates a call stores. -/
def SessionCall.stored (provider : Provider) (s : (configuredAdapter provider).Session) :
    SessionCall → List Update
  | parse text receivedAtMs =>
    (frameReading provider text receivedAtMs).applied (sessionTickers provider s)
  | _ => []

/-- All updates that a sequence of calls stores. -/
def storedSince (provider : Provider) (s : (configuredAdapter provider).Session)
    (calls : List SessionCall) : List Update :=
  trace (SessionCall.step provider) (SessionCall.stored provider) s calls

/-- What a session caches after a call was stored by the call, or was there and
was not overwritten. -/
theorem holds_step {provider : Provider} {s : (configuredAdapter provider).Session}
    {call : SessionCall} {symbol : Text} {d : Datum}
    (h : (cached (sessionTickers provider (call.step provider s)) symbol).Holds d) :
    CarriedBy (call.stored provider s) symbol d ∨
      ¬ OverwrittenBy (call.stored provider s) symbol d.slot ∧
        (cached (sessionTickers provider s) symbol).Holds d := by
  have hNone : ¬ OverwrittenBy [] symbol d.slot := fun ⟨u, hu, _⟩ => absurd hu List.not_mem_nil
  cases call with
  | parse text receivedAtMs =>
    rw [SessionCall.step, parse_tickers] at h
    exact holds_storeAll h
  | subscriptionMessages action keys =>
    rw [SessionCall.step, (subscriptionMessages_tickers provider s action keys).1,
      cached_forgetTickers] at h
    split at h
    · -- an unsubscribed symbol holds nothing
      exact absurd h (Ticker.not_holds_empty d)
    · exact .inr ⟨hNone, h⟩
  | heartbeat =>
    rw [SessionCall.step, (heartbeat_tickers provider s).1] at h
    exact .inr ⟨hNone, h⟩

/-- What a session holds of a symbol was stored by one of its calls, or was there
before and has not been overwritten. -/
theorem held_after {provider : Provider} {s : (configuredAdapter provider).Session}
    {calls : List SessionCall} {symbol : Text} {d : Datum}
    (h : (cached (sessionTickers provider (run (SessionCall.step provider) s calls))
      symbol).Holds d) :
    CarriedBy (storedSince provider s calls) symbol d ∨
      ¬ OverwrittenBy (storedSince provider s calls) symbol d.slot ∧
        (cached (sessionTickers provider s) symbol).Holds d := by
  unfold storedSince
  induction calls generalizing s with
  | nil => exact .inr ⟨fun ⟨u, hu, _⟩ => absurd hu List.not_mem_nil, h⟩
  | cons call calls ih =>
    rcases ih h with ⟨u, hu, hCarries⟩ | ⟨hRest, hHead⟩
    · exact .inl ⟨u, List.mem_append_right _ hu, hCarries⟩
    · -- carried by this call, or kept from before it
      rcases holds_step hHead with ⟨u, hu, hCarries⟩ | ⟨hKept, hBefore⟩
      · exact .inl ⟨u, List.mem_append_left _ hu, hCarries⟩
      · refine .inr ⟨?_, hBefore⟩
        rintro ⟨u, hu, hOver⟩
        rcases List.mem_append.mp hu with hu | hu
        · exact hKept ⟨u, hu, hOver⟩
        · exact hRest ⟨u, hu, hOver⟩

/-! ## New subscriptions -/

/-- A session that unsubscribed some keys, went on, and subscribed some keys. -/
def resubscribed (unsubscribed subscribed : List SubscriptionKey)
    (before late : List SessionCall) : List SessionCall :=
  before ++ .subscriptionMessages .unsubscribe unsubscribed ::
    (late ++ [.subscriptionMessages .subscribe subscribed])

/-- Every value of a ticker event that follows a new subscription was stored since
then, provided that the slots which late frames filled, and which are still
filled when the symbol is subscribed again, are overwritten. -/
theorem resubscribed_ticker_is_fresh (provider : Provider) (endpoint : EndpointKind) (epoch : Uuid)
    (before late since : List SessionCall) (unsubscribed subscribed : List SubscriptionKey)
    (key : SubscriptionKey) (hKey : key ∈ unsubscribed) (hChannel : key.channel = .ticker)
    (hOk : ((configuredAdapter provider).subscriptionMessages
      (sessionAfter provider endpoint epoch before) .unsubscribe unsubscribed).1.isOk = true)
    (text : Text) (receivedAtMs : Nat) (events : List ProviderEvent)
    (hParse : ((configuredAdapter provider).parse (sessionAfter provider endpoint epoch
        (resubscribed unsubscribed subscribed before late ++ since)) text receivedAtMs).1 =
      .ok (.events events))
    (i : Nat) (event : ProviderEvent) (hEvent : events[i]? = some event) (ticker : Ticker)
    (hPayload : event.payload = .ticker ticker) (hSymbol : event.symbol = key.symbol) :
    let fresh :=
      storedSince provider (sessionAfter provider endpoint epoch
          (resubscribed unsubscribed subscribed before late)) since ++
        ((SessionCall.parse text receivedAtMs).stored provider (sessionAfter provider endpoint epoch
          (resubscribed unsubscribed subscribed before late ++ since))).take (i + 1)
    (∀ d, CarriedBy (storedSince provider (sessionAfter provider endpoint epoch
          (before ++ [.subscriptionMessages .unsubscribe unsubscribed])) late) key.symbol d →
        (cached (sessionTickers provider (sessionAfter provider endpoint epoch
          (before ++ [.subscriptionMessages .unsubscribe unsubscribed] ++ late)))
          key.symbol).Holds d →
        OverwrittenBy fresh key.symbol d.slot) →
      ∀ d, ticker.Holds d → CarriedBy fresh key.symbol d := by
  intro fresh hLate d hHolds
  -- the event shows the cache after the updates of its frame, the cache before
  -- them comes from the calls since the new subscription
  rw [(event_cached hParse hEvent hPayload).2, hSymbol] at hHolds
  rcases holds_storeAll hHolds with ⟨u, hu, hCarries⟩ | ⟨hKeptFrame, hHolds⟩
  · exact ⟨u, List.mem_append_right _ hu, hCarries⟩
  rw [sessionAfter, run_append] at hHolds
  rcases held_after hHolds with ⟨u, hu, hCarries⟩ | ⟨hKept, hHolds⟩
  · exact ⟨u, List.mem_append_left _ hu, hCarries⟩
  have hNot : ¬ OverwrittenBy fresh key.symbol d.slot := by
    rintro ⟨u, hu, hOver⟩
    rcases List.mem_append.mp hu with hu | hu
    · exact hKept ⟨u, hu, hOver⟩
    · exact hKeptFrame ⟨u, hu, hOver⟩
  -- what is left was carried by a late frame: unsubscribing cleared the entry
  have hSubscribe : resubscribed unsubscribed subscribed before late =
      (before ++ [.subscriptionMessages .unsubscribe unsubscribed]) ++
        (late ++ [.subscriptionMessages .subscribe subscribed]) := by
    simp [resubscribed]
  rw [hSubscribe, run_append, run_append, run_cons, run_nil] at hHolds
  rcases holds_step hHolds with ⟨u, hu, -⟩ | ⟨-, hHolds⟩
  · exact absurd hu List.not_mem_nil
  rcases held_after hHolds with hCarried | ⟨-, hHolds⟩
  · rw [← run_append] at hHolds
    exact absurd (hLate d hCarried hHolds) hNot
  rw [run_append, run_cons, run_nil, SessionCall.step] at hHolds
  rw [show run (SessionCall.step provider) ((configuredAdapter provider).session endpoint epoch)
    before = sessionAfter provider endpoint epoch before from rfl,
    cached_unsubscribed hOk hKey hChannel] at hHolds
  exact absurd hHolds (Ticker.not_holds_empty d)

end Sessions

/-! ## A late frame that is republished -/

section Instance

/-- An OKX frame with one item. -/
def okxFrame (channel member price time : String) : Value :=
  .object [("arg".toList, .object [("channel".toList, .string channel.toList),
      ("instId".toList, .string "BTC-USDT-SWAP".toList)]),
    ("data".toList, .array [.object [("instId".toList, .string "BTC-USDT-SWAP".toList),
      (member.toList, .string price.toList), ("ts".toList, .string time.toList)]])]

/-- A mark price that arrives after the unsubscribing. -/
def lateMark : Value := okxFrame "mark-price" "markPx" "42" "1"

/-- A later mark price. -/
def nextMark : Value := okxFrame "mark-price" "markPx" "43" "2"

/-- A last price, later still. -/
def nextLast : Value := okxFrame "tickers" "last" "44" "3"

/-- The subscription that is given up and taken out again. -/
def bitcoin : SubscriptionKey := ⟨.okx, .linearPerpetual, "BTC-USDT-SWAP".toList, .ticker⟩

local instance lateUnicode : Unicode := .ascii
local instance lateJson : JsonText :=
  .table [(lateMark.display, lateMark), (nextMark.display, nextMark), (nextLast.display, nextLast)]
local instance lateDecimal : RustDecimal := .digits
local instance lateSerde : Serde := .mute

/-- The first subscription of the symbol. -/
def subscribeFirst : List SessionCall := [.subscriptionMessages .subscribe [bitcoin]]

/-- A mark price that arrives between the two diffs is shown by the first event
after them, which comes of a frame without a mark price. -/
theorem late_mark_is_republished :
    ((configuredAdapter .okx).subscriptionMessages (sessionAfter .okx .pub 0 []) .subscribe
      [bitcoin]).1.isOk = true ∧
    ((configuredAdapter .okx).subscriptionMessages (sessionAfter .okx .pub 0 subscribeFirst)
      .unsubscribe [bitcoin]).1.isOk = true ∧
    ((configuredAdapter .okx).subscriptionMessages (sessionAfter .okx .pub 0 (subscribeFirst ++
      [.subscriptionMessages .unsubscribe [bitcoin], .parse lateMark.display 5])) .subscribe
      [bitcoin]).1.isOk = true ∧
    (SessionCall.parse nextLast.display 6).stored .okx (sessionAfter .okx .pub 0
        (resubscribed [bitcoin] [bitcoin] subscribeFirst [.parse lateMark.display 5])) =
      [{ symbol := "BTC-USDT-SWAP".toList, observedAtMs := 3,
         writes := [(.last, some ⟨⟨"44".toList⟩, 3⟩)] }] ∧
    ((configuredAdapter .okx).parse (sessionAfter .okx .pub 0
        (resubscribed [bitcoin] [bitcoin] subscribeFirst [.parse lateMark.display 5]))
        nextLast.display 6).1 =
      .ok (.events [{
        connectionEpoch := 0, provider := .okx, market := .linearPerpetual
        symbol := "BTC-USDT-SWAP".toList, exchangeTimeMs := some 3, gatewayReceivedTimeMs := 6
        sourceSequence := none
        payload := .ticker {
          last := some ⟨⟨"44".toList⟩, 3⟩, mark := some ⟨⟨"42".toList⟩, 1⟩ } }]) := by
  refine ⟨?_, ?_, ?_, ?_, ?_⟩
  · decide +kernel
  · decide +kernel
  · decide +kernel
  · decide +kernel
  · decide +kernel

/-- The event of the next mark price, whose slot a late frame had filled. -/
def nextMarkEvent : ProviderEvent where
  connectionEpoch := 0
  provider := .okx
  market := .linearPerpetual
  symbol := "BTC-USDT-SWAP".toList
  exchangeTimeMs := some 2
  gatewayReceivedTimeMs := 6
  sourceSequence := none
  payload := .ticker { mark := some ⟨⟨"43".toList⟩, 2⟩ }

/-- A late mark price that is overwritten leaves nothing behind. -/
theorem overwritten_mark_is_fresh :
    CarriedBy (storedSince .okx (sessionAfter .okx .pub 0
          (resubscribed [bitcoin] [bitcoin] subscribeFirst [.parse lateMark.display 5])) [] ++
        ((SessionCall.parse nextMark.display 6).stored .okx (sessionAfter .okx .pub 0
          (resubscribed [bitcoin] [bitcoin] subscribeFirst [.parse lateMark.display 5] ++
            []))).take (0 + 1))
      "BTC-USDT-SWAP".toList (.observed .mark ⟨⟨"43".toList⟩, 2⟩) := by
  -- what the late frame stores, and what the next one does
  have hLate : storedSince .okx (sessionAfter .okx .pub 0
        (subscribeFirst ++ [.subscriptionMessages .unsubscribe [bitcoin]]))
        [.parse lateMark.display 5] =
      [{ symbol := "BTC-USDT-SWAP".toList, observedAtMs := 1,
         writes := [(.mark, some ⟨⟨"42".toList⟩, 1⟩)] }] := by decide +kernel
  have hNext : storedSince .okx (sessionAfter .okx .pub 0
          (resubscribed [bitcoin] [bitcoin] subscribeFirst [.parse lateMark.display 5])) [] ++
        ((SessionCall.parse nextMark.display 6).stored .okx (sessionAfter .okx .pub 0
          (resubscribed [bitcoin] [bitcoin] subscribeFirst [.parse lateMark.display 5] ++
            []))).take (0 + 1) =
      [{ symbol := "BTC-USDT-SWAP".toList, observedAtMs := 2,
         writes := [(.mark, some ⟨⟨"43".toList⟩, 2⟩)] }] := by decide +kernel
  refine resubscribed_ticker_is_fresh .okx .pub 0 subscribeFirst [.parse lateMark.display 5] []
    [bitcoin] [bitcoin] bitcoin List.mem_cons_self rfl (by decide +kernel) nextMark.display 6
    [nextMarkEvent] (by decide +kernel) 0 nextMarkEvent rfl _ rfl rfl ?_ _ rfl
  intro d hCarried _
  rw [hLate] at hCarried
  rw [hNext]
  -- the late mark price is the only late value, and the next frame overwrites it
  obtain ⟨u, hu, -, hCarries⟩ := hCarried
  obtain rfl := List.mem_singleton.mp hu
  refine ⟨_, List.mem_cons_self, rfl, ?_⟩
  cases d with
  | observed field value =>
    obtain ⟨rfl, -⟩ := Prod.mk.inj (List.mem_singleton.mp hCarries)
    exact Option.some_ne_none _
  | nextFundingTime timeMs => cases hCarries

end Instance

end MarketStreamGateway
