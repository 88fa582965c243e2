import MarketStreamGateway.Providers.Venue
import MarketStreamGateway.Feeds.Bybit
import MarketStreamGateway.Feeds.Binance
import MarketStreamGateway.Feeds.Okx
import MarketStreamGateway.Feeds.Kucoin
import MarketStreamGateway.Feeds.Mexc
import MarketStreamGateway.Feeds.Bingx
import MarketStreamGateway.Feeds.Cache

/-!
# Market Stream Gateway — sessions and their ticker cache

The market-data half of the six sessions, put together from the venues' readings.
The calls a session gets over a connection — frames to parse, subscription diffs
to build commands for, heartbeats — and what each of them does to the cache.
Main results:

* `parse_market`, `parse_control` — a frame is handled as market data or leaves
  the cache alone; which of the two is decided by its text.
* `view_step` — a call changes the cache by `SessionCall.changes`.
* `event_ticker` — a ticker event shows the cache as it is after the updates up
  to its own.
-/

namespace MarketStreamGateway

open Lib

section

variable [Unicode] [RustDecimal] [Serde]

/-! ## The market data of the six venues -/

/-- How a venue's market-data frames are read. -/
def reading (provider : Provider) (value : Value) (text : Text) (receivedAtMs : Nat) : Reading :=
  match provider with
  | .bybit => BybitSession.reading value
  | .binance => BinanceSession.reading value
  | .okx => OkxSession.reading value
  | .kucoin => KucoinSession.reading value text
  | .mexc => MexcSession.reading value text
  | .bingx => BingxSession.reading value receivedAtMs

/-- The market-data half of the six sessions. -/
instance MarketData.venues : MarketData where
  parse provider connectionEpoch tickers value text receivedAtMs :=
    (reading provider value text receivedAtMs).handle provider connectionEpoch receivedAtMs tickers

end

variable [Unicode] [JsonText] [RustDecimal] [Serde]

/-! ## Sessions -/

/-- The ticker cache of a session, whichever venue it is of. -/
def sessionTickers : (provider : Provider) → (configuredAdapter provider).Session → Tickers
  | .bybit, s => BybitSession.tickers s
  | .binance, s => BinanceSession.tickers s
  | .okx, s => OkxSession.tickers s
  | .kucoin, s => KucoinSession.tickers s
  | .mexc, s => MexcSession.tickers s
  | .bingx, s => BingxSession.tickers s

/-- The epoch its events carry. -/
def sessionEpoch : (provider : Provider) → (configuredAdapter provider).Session → Uuid
  | .bybit, s => BybitSession.connectionEpoch s
  | .binance, s => BinanceSession.connectionEpoch s
  | .okx, s => OkxSession.connectionEpoch s
  | .kucoin, s => KucoinSession.connectionEpoch s
  | .mexc, s => MexcSession.connectionEpoch s
  | .bingx, s => BingxSession.connectionEpoch s

/-- What a session is asked for over a connection. -/
inductive SessionCall where
  | parse (text : Text) (receivedAtMs : Nat)
  | subscriptionMessages (action : SubscriptionAction) (subscriptions : List SubscriptionKey)
  | heartbeat
  deriving Repr

/-- The session after a call. -/
def SessionCall.step (provider : Provider) (s : (configuredAdapter provider).Session) :
    SessionCall → (configuredAdapter provider).Session
  | parse text receivedAtMs => ((configuredAdapter provider).parse s text receivedAtMs).2
  | subscriptionMessages action subscriptions =>
    ((configuredAdapter provider).subscriptionMessages s action subscriptions).2
  | heartbeat => ((configuredAdapter provider).heartbeat s).2

/-- A session that has been open for some calls. -/
def sessionAfter (provider : Provider) (endpoint : EndpointKind) (epoch : Uuid)
    (calls : List SessionCall) : (configuredAdapter provider).Session :=
  run (SessionCall.step provider) ((configuredAdapter provider).session endpoint epoch) calls

/-! ## Market-data frames -/

/-- Whether a frame passes the control half of its session's `parse`. -/
def isMarket (provider : Provider) (text : Text) (value : Value) : Bool :=
  match provider with
  | .bybit => (BybitSession.parseControl value).isNone
  | .binance => (BinanceSession.parseControl value).isNone
  | .okx => Text.trim text ≠ "pong".toList && (value.get "event".toList).isNone
  | .kucoin => (KucoinSession.parseControl value).isNone
  | .mexc => match MexcSession.requiredString value "channel".toList with
    | .error _ => false
    | .ok channel => channel ≠ "pong".toList && channel ≠ "rs.error".toList &&
        !"rs.sub.".toList.isPrefixOf channel && !"rs.unsub.".toList.isPrefixOf channel
  | .bingx => text ≠ "Ping".toList && text ≠ "Pong".toList &&
      (BingxSession.parseControl value).isNone

/-- The document of a market-data frame; `none` for control frames and for texts
that are refused before they are looked at. -/
def marketValue (provider : Provider) (text : Text) : Option Value :=
  match JsonText.fromStr text with
  | .error _ => none
  | .ok value => if value.isObject && isMarket provider text value then some value else none

/-- What a frame says as market data. -/
def frameReading (provider : Provider) (text : Text) (receivedAtMs : Nat) : Reading :=
  match marketValue provider text with
  | some value => reading provider value text receivedAtMs
  | none => .ignored

omit [Unicode] [RustDecimal] [Serde] in
/-- A market-data frame is a JSON object that is no control message. -/
theorem marketValue_eq_some {provider : Provider} {text : Text} {value : Value} :
    marketValue provider text = some value ↔ JsonText.fromStr text = .ok value ∧
      value.isObject = true ∧ isMarket provider text value = true := by
  unfold marketValue
  cases hJson : JsonText.fromStr text with
  | error error => simp
  | ok value' =>
    simp only [Option.ite_none_right_eq_some, Bool.and_eq_true, Option.some.injEq, Except.ok.injEq]
    constructor
    · rintro ⟨h, rfl⟩
      exact ⟨rfl, h⟩
    · rintro ⟨rfl, h⟩
      exact ⟨h, rfl⟩

omit [Unicode] [RustDecimal] [Serde] in
/-- A market-data frame goes to the market-data half, with the cache and the
epoch; the rest of the session stays. The next five say the same of the other
venues. -/
theorem BybitSession.parse_market [MarketData] {text : Text} {value : Value}
    (hJson : JsonText.fromStr text = .ok value) (hObject : value.isObject = true)
    (hMarket : isMarket .bybit text value = true) (s : BybitSession) (receivedAtMs : Nat) :
    s.parse text receivedAtMs =
      ((MarketData.parse .bybit s.connectionEpoch s.tickers value text receivedAtMs).1.map
        .ofMarket,
        { s with tickers :=
          (MarketData.parse .bybit s.connectionEpoch s.tickers value text receivedAtMs).2 }) := by
  have hControl : BybitSession.parseControl value = none := Option.isNone_iff_eq_none.mp hMarket
  unfold BybitSession.parse
  rw [hJson]
  dsimp only
  rw [if_neg (by rw [hObject]; decide), hControl]

omit [Unicode] [RustDecimal] [Serde] in
theorem BinanceSession.parse_market [MarketData] {text : Text} {value : Value}
    (hJson : JsonText.fromStr text = .ok value) (hObject : value.isObject = true)
    (hMarket : isMarket .binance text value = true) (s : BinanceSession) (receivedAtMs : Nat) :
    s.parse text receivedAtMs =
      ((MarketData.parse .binance s.connectionEpoch s.tickers value text receivedAtMs).1.map
        .ofMarket,
        { s with tickers :=
          (MarketData.parse .binance s.connectionEpoch s.tickers value text receivedAtMs).2 }) := by
  have hControl : BinanceSession.parseControl value = none := Option.isNone_iff_eq_none.mp hMarket
  unfold BinanceSession.parse
  rw [hJson]
  dsimp only
  rw [if_neg (by rw [hObject]; decide), hControl]

omit [Unicode] [RustDecimal] [Serde] in
/-- OKX looks for the literal pong before it reads JSON. -/
theorem OkxSession.parse_market [MarketData] {text : Text} {value : Value}
    (hJson : JsonText.fromStr text = .ok value) (hObject : value.isObject = true)
    (hMarket : isMarket .okx text value = true) (s : OkxSession) (receivedAtMs : Nat) :
    s.parse text receivedAtMs =
      ((MarketData.parse .okx s.connectionEpoch s.tickers value text receivedAtMs).1.map .ofMarket,
        { s with tickers :=
          (MarketData.parse .okx s.connectionEpoch s.tickers value text receivedAtMs).2 }) := by
  simp only [isMarket, Bool.and_eq_true, decide_eq_true_eq, Option.isNone_iff_eq_none] at hMarket
  obtain ⟨hPong, hEvent⟩ := hMarket
  unfold OkxSession.parse
  rw [if_neg hPong, hJson]
  dsimp only
  rw [if_neg (by rw [hObject]; decide), hEvent]

omit [Unicode] [RustDecimal] [Serde] in
theorem KucoinSession.parse_market [MarketData] {text : Text} {value : Value}
    (hJson : JsonText.fromStr text = .ok value) (hObject : value.isObject = true)
    (hMarket : isMarket .kucoin text value = true) (s : KucoinSession) (receivedAtMs : Nat) :
    s.parse text receivedAtMs =
      ((MarketData.parse .kucoin s.connectionEpoch s.tickers value text receivedAtMs).1.map
        .ofMarket,
        { s with tickers :=
          (MarketData.parse .kucoin s.connectionEpoch s.tickers value text receivedAtMs).2 }) := by
  have hControl : KucoinSession.parseControl value = none := Option.isNone_iff_eq_none.mp hMarket
  unfold KucoinSession.parse
  rw [hJson]
  dsimp only
  rw [if_neg (by rw [hObject]; decide), hControl]

omit [Unicode] [JsonText] [RustDecimal] [Serde] in
/-- The channel of a market-data frame is none of the control channels. -/
theorem MexcSession.isMarket_channel {text : Text} {value : Value}
    (h : isMarket .mexc text value = true) :
    ∃ channel, requiredString value "channel".toList = .ok channel ∧ channel ≠ "pong".toList ∧
      channel ≠ "rs.error".toList ∧ ¬ "rs.sub.".toList.isPrefixOf channel ∧
      ¬ "rs.unsub.".toList.isPrefixOf channel := by
  unfold isMarket at h
  dsimp only at h
  split at h
  · cases h
  · next channel hChannel =>
    simp only [Bool.and_eq_true, decide_eq_true_eq, Bool.not_eq_true'] at h
    obtain ⟨⟨⟨hPong, hError⟩, hSub⟩, hUnsub⟩ := h
    exact ⟨channel, hChannel, hPong, hError, Bool.eq_false_iff.mp hSub,
      Bool.eq_false_iff.mp hUnsub⟩

omit [Unicode] [RustDecimal] [Serde] in
/-- MEXC tells its frames apart by their channel. -/
theorem MexcSession.parse_market [MarketData] {text : Text} {value : Value}
    (hJson : JsonText.fromStr text = .ok value) (hObject : value.isObject = true)
    (hMarket : isMarket .mexc text value = true) (s : MexcSession) (receivedAtMs : Nat) :
    s.parse text receivedAtMs =
      ((MarketData.parse .mexc s.connectionEpoch s.tickers value text receivedAtMs).1.map .ofMarket,
        { s with tickers :=
          (MarketData.parse .mexc s.connectionEpoch s.tickers value text receivedAtMs).2 }) := by
  obtain ⟨channel, hChannel, hPong, hError, hSub, hUnsub⟩ := isMarket_channel hMarket
  unfold MexcSession.parse
  rw [hJson]
  dsimp only
  rw [if_neg (by rw [hObject]; decide), hChannel]
  dsimp only
  rw [if_neg hPong, if_neg hError, if_neg hSub, if_neg hUnsub]

omit [Unicode] [RustDecimal] [Serde] in
theorem BingxSession.parse_market [MarketData] {text : Text} {value : Value}
    (hJson : JsonText.fromStr text = .ok value) (hObject : value.isObject = true)
    (hMarket : isMarket .bingx text value = true) (s : BingxSession) (receivedAtMs : Nat) :
    s.parse text receivedAtMs =
      ((MarketData.parse .bingx s.connectionEpoch s.tickers value text receivedAtMs).1.map
        .ofMarket,
        { s with tickers :=
          (MarketData.parse .bingx s.connectionEpoch s.tickers value text receivedAtMs).2 }) := by
  simp only [isMarket, Bool.and_eq_true, decide_eq_true_eq, Option.isNone_iff_eq_none] at hMarket
  obtain ⟨⟨hPing, hPong⟩, hControl⟩ := hMarket
  unfold BingxSession.parse
  rw [if_neg hPing, if_neg hPong, hJson]
  dsimp only
  rw [if_neg (by rw [hObject]; decide), hControl]

/-- A market-data frame is read and handled. -/
theorem parse_market {provider : Provider} {text : Text} {value : Value}
    (h : marketValue provider text = some value)
    (s : (configuredAdapter provider).Session) (receivedAtMs : Nat) :
    ((configuredAdapter provider).parse s text receivedAtMs).1 =
      ((reading provider value text receivedAtMs).handle provider (sessionEpoch provider s)
        receivedAtMs (sessionTickers provider s)).1.map .ofMarket ∧
    sessionTickers provider ((configuredAdapter provider).parse s text receivedAtMs).2 =
      ((reading provider value text receivedAtMs).handle provider (sessionEpoch provider s)
        receivedAtMs (sessionTickers provider s)).2 ∧
    sessionEpoch provider ((configuredAdapter provider).parse s text receivedAtMs).2 =
      sessionEpoch provider s := by
  obtain ⟨hJson, hObject, hMarket⟩ := marketValue_eq_some.mp h
  cases provider with
  | bybit =>
    have hParse := BybitSession.parse_market hJson hObject hMarket s receivedAtMs
    exact ⟨congrArg Prod.fst hParse, congrArg (fun r => BybitSession.tickers r.2) hParse,
      congrArg (fun r => BybitSession.connectionEpoch r.2) hParse⟩
  | binance =>
    have hParse := BinanceSession.parse_market hJson hObject hMarket s receivedAtMs
    exact ⟨congrArg Prod.fst hParse, congrArg (fun r => BinanceSession.tickers r.2) hParse,
      congrArg (fun r => BinanceSession.connectionEpoch r.2) hParse⟩
  | okx =>
    have hParse := OkxSession.parse_market hJson hObject hMarket s receivedAtMs
    exact ⟨congrArg Prod.fst hParse, congrArg (fun r => OkxSession.tickers r.2) hParse,
      congrArg (fun r => OkxSession.connectionEpoch r.2) hParse⟩
  | kucoin =>
    have hParse := KucoinSession.parse_market hJson hObject hMarket s receivedAtMs
    exact ⟨congrArg Prod.fst hParse, congrArg (fun r => KucoinSession.tickers r.2) hParse,
      congrArg (fun r => KucoinSession.connectionEpoch r.2) hParse⟩
  | mexc =>
    have hParse := MexcSession.parse_market hJson hObject hMarket s receivedAtMs
    exact ⟨congrArg Prod.fst hParse, congrArg (fun r => MexcSession.tickers r.2) hParse,
      congrArg (fun r => MexcSession.connectionEpoch r.2) hParse⟩
  | bingx =>
    have hParse := BingxSession.parse_market hJson hObject hMarket s receivedAtMs
    exact ⟨congrArg Prod.fst hParse, congrArg (fun r => BingxSession.tickers r.2) hParse,
      congrArg (fun r => BingxSession.connectionEpoch r.2) hParse⟩

/-! ## Control frames -/

/-- The answers of control frames. -/
def NoEvents (result : Except AdapterError ParsedFrame) : Prop :=
  ∀ events, result ≠ .ok (.events events)

section Control

omit [Unicode] [JsonText] [RustDecimal] [Serde]

/-- No control message carries market data, whatever it says. -/
theorem BybitSession.noEvents_acknowledgement (value : Value) :
    NoEvents (controlAcknowledgement value) := by
  unfold controlAcknowledgement
  split
  · split <;> exact nofun
  · exact nofun

theorem BybitSession.noEvents_control {value : Value} {result : Except AdapterError ParsedFrame} :
    parseControl value = some result → NoEvents result := by
  unfold parseControl
  dsimp only
  repeat' split
  all_goals rintro ⟨⟩
  all_goals
    first
    | exact noEvents_acknowledgement value
    | exact nofun

theorem BinanceSession.noEvents_control {value : Value}
    {result : Except AdapterError ParsedFrame} :
    parseControl value = some result → NoEvents result := by
  unfold parseControl
  dsimp only
  repeat' split
  all_goals rintro ⟨⟩
  all_goals exact nofun

theorem OkxSession.noEvents_commandResponse (event value : Value) :
    NoEvents (parseCommandResponse event value) := by
  unfold parseCommandResponse
  dsimp only
  repeat' split
  all_goals exact nofun

theorem KucoinSession.noEvents_control {value : Value} {result : Except AdapterError ParsedFrame} :
    parseControl value = some result → NoEvents result := by
  unfold parseControl parseAcknowledgement
  repeat' split
  all_goals rintro ⟨⟩
  all_goals exact nofun

theorem MexcSession.noEvents_acknowledgement (s : MexcSession) (channel : Text) (value : Value) :
    NoEvents (s.parseAcknowledgement channel value).1 := by
  unfold parseAcknowledgement
  dsimp only
  repeat' split
  all_goals exact nofun

/-- An acknowledgement takes a pending request, never a ticker. -/
theorem MexcSession.parseAcknowledgement_tickers (s : MexcSession) (channel : Text)
    (value : Value) : (s.parseAcknowledgement channel value).2.tickers = s.tickers ∧
      (s.parseAcknowledgement channel value).2.connectionEpoch = s.connectionEpoch := by
  unfold parseAcknowledgement
  dsimp only
  repeat' split
  all_goals exact ⟨rfl, rfl⟩

theorem BingxSession.noEvents_control {value : Value} {result : Except AdapterError ParsedFrame} :
    parseControl value = some result → NoEvents result := by
  unfold parseControl
  repeat' split
  all_goals rintro ⟨⟩
  all_goals exact nofun

end Control

omit [Unicode] [RustDecimal] [Serde] in
/-- A frame that is not market data is refused as a text, or as a document, or
it is a control frame. -/
theorem marketValue_eq_none {provider : Provider} {text : Text}
    (h : marketValue provider text = none) {value : Value}
    (hJson : JsonText.fromStr text = .ok value) (hObject : ¬ (!value.isObject) = true) :
    isMarket provider text value = false := by
  rw [Bool.not_eq_true', Bool.not_eq_false] at hObject
  unfold marketValue at h
  rw [hJson] at h
  dsimp only at h
  rw [hObject, Bool.true_and] at h
  split at h
  · cases h
  · next hMarket => exact Bool.eq_false_iff.mpr hMarket

section Refusing

variable [MarketData]

omit [Unicode] [RustDecimal] [Serde] in
/-- Any other frame carries no events and leaves cache and epoch alone. The
next five say the same of the other venues. -/
theorem BybitSession.parse_control {text : Text} (h : marketValue .bybit text = none)
    (s : BybitSession) (receivedAtMs : Nat) :
    NoEvents (s.parse text receivedAtMs).1 ∧
      (s.parse text receivedAtMs).2.tickers = s.tickers ∧
      (s.parse text receivedAtMs).2.connectionEpoch = s.connectionEpoch := by
  unfold BybitSession.parse
  split
  · exact ⟨nofun, rfl, rfl⟩
  · next value hJson =>
    split
    · exact ⟨nofun, rfl, rfl⟩
    · next hObject =>
      have hMarket := marketValue_eq_none h hJson hObject
      cases hControl : BybitSession.parseControl value with
      | some result => exact ⟨BybitSession.noEvents_control hControl, rfl, rfl⟩
      | none => simp [isMarket, hControl] at hMarket

omit [Unicode] [RustDecimal] [Serde] in
theorem BinanceSession.parse_control {text : Text} (h : marketValue .binance text = none)
    (s : BinanceSession) (receivedAtMs : Nat) :
    NoEvents (s.parse text receivedAtMs).1 ∧
      (s.parse text receivedAtMs).2.tickers = s.tickers ∧
      (s.parse text receivedAtMs).2.connectionEpoch = s.connectionEpoch := by
  unfold BinanceSession.parse
  split
  · exact ⟨nofun, rfl, rfl⟩
  · next value hJson =>
    split
    · exact ⟨nofun, rfl, rfl⟩
    · next hObject =>
      have hMarket := marketValue_eq_none h hJson hObject
      cases hControl : BinanceSession.parseControl value with
      | some result => exact ⟨BinanceSession.noEvents_control hControl, rfl, rfl⟩
      | none => simp [isMarket, hControl] at hMarket

omit [Unicode] [RustDecimal] [Serde] in
theorem OkxSession.parse_control {text : Text} (h : marketValue .okx text = none)
    (s : OkxSession) (receivedAtMs : Nat) :
    NoEvents (s.parse text receivedAtMs).1 ∧
      (s.parse text receivedAtMs).2.tickers = s.tickers ∧
      (s.parse text receivedAtMs).2.connectionEpoch = s.connectionEpoch := by
  unfold OkxSession.parse
  split
  · exact ⟨nofun, rfl, rfl⟩
  · next hPong =>
    split
    · exact ⟨nofun, rfl, rfl⟩
    · next value hJson =>
      split
      · exact ⟨nofun, rfl, rfl⟩
      · next hObject =>
        have hMarket := marketValue_eq_none h hJson hObject
        cases hEvent : value.get "event".toList with
        | some event => exact ⟨OkxSession.noEvents_commandResponse event value, rfl, rfl⟩
        | none =>
          -- without an event the frame is market data, which it is not
          have hTrue : isMarket .okx text value = true := by
            simp only [isMarket, Bool.and_eq_true, Option.isNone_iff_eq_none]
            exact ⟨decide_eq_true hPong, hEvent⟩
          rw [hTrue] at hMarket
          cases hMarket

omit [Unicode] [RustDecimal] [Serde] in
/-- A welcome and a pong are control frames too. -/
theorem KucoinSession.parse_control {text : Text} (h : marketValue .kucoin text = none)
    (s : KucoinSession) (receivedAtMs : Nat) :
    NoEvents (s.parse text receivedAtMs).1 ∧
      (s.parse text receivedAtMs).2.tickers = s.tickers ∧
      (s.parse text receivedAtMs).2.connectionEpoch = s.connectionEpoch := by
  unfold KucoinSession.parse
  split
  · exact ⟨nofun, rfl, rfl⟩
  · next value hJson =>
    split
    · exact ⟨nofun, rfl, rfl⟩
    · next hObject =>
      have hMarket := marketValue_eq_none h hJson hObject
      cases hControl : KucoinSession.parseControl value with
      | some result => exact ⟨KucoinSession.noEvents_control hControl, rfl, rfl⟩
      | none => simp [isMarket, hControl] at hMarket

omit [Unicode] [RustDecimal] [Serde] in
/-- Here a control frame may still change the session: an acknowledgement takes
its request off the list. -/
theorem MexcSession.parse_control {text : Text} (h : marketValue .mexc text = none)
    (s : MexcSession) (receivedAtMs : Nat) :
    NoEvents (s.parse text receivedAtMs).1 ∧
      (s.parse text receivedAtMs).2.tickers = s.tickers ∧
      (s.parse text receivedAtMs).2.connectionEpoch = s.connectionEpoch := by
  unfold MexcSession.parse
  split
  · exact ⟨nofun, rfl, rfl⟩
  · next value hJson =>
    split
    · exact ⟨nofun, rfl, rfl⟩
    · next hObject =>
      have hMarket := marketValue_eq_none h hJson hObject
      cases hChannel : MexcSession.requiredString value "channel".toList with
      | error error => exact ⟨nofun, rfl, rfl⟩
      | ok channel =>
        dsimp only
        split
        · exact ⟨nofun, rfl, rfl⟩
        · next hPong =>
          split
          · exact ⟨nofun, rfl, rfl⟩
          · next hError =>
            split
            · exact ⟨MexcSession.noEvents_acknowledgement s channel value,
                MexcSession.parseAcknowledgement_tickers s channel value⟩
            · next hSub =>
              split
              · exact ⟨nofun, rfl, rfl⟩
              · next hUnsub =>
                -- whatever gets past the control channels is market data, against the
                -- hypothesis
                have hTrue : isMarket .mexc text value = true := by
                  simp only [isMarket, hChannel, Bool.and_eq_true, Bool.not_eq_true']
                  exact ⟨⟨⟨decide_eq_true hPong, decide_eq_true hError⟩,
                    Bool.eq_false_iff.mpr hSub⟩, Bool.eq_false_iff.mpr hUnsub⟩
                rw [hTrue] at hMarket
                cases hMarket

omit [Unicode] [RustDecimal] [Serde] in
theorem BingxSession.parse_control {text : Text} (h : marketValue .bingx text = none)
    (s : BingxSession) (receivedAtMs : Nat) :
    NoEvents (s.parse text receivedAtMs).1 ∧
      (s.parse text receivedAtMs).2.tickers = s.tickers ∧
      (s.parse text receivedAtMs).2.connectionEpoch = s.connectionEpoch := by
  unfold BingxSession.parse
  split
  · exact ⟨nofun, rfl, rfl⟩
  · next hPing =>
    split
    · exact ⟨nofun, rfl, rfl⟩
    · next hPong =>
      split
      · exact ⟨nofun, rfl, rfl⟩
      · next value hJson =>
        split
        · exact ⟨nofun, rfl, rfl⟩
        · next hObject =>
          have hMarket := marketValue_eq_none h hJson hObject
          cases hControl : BingxSession.parseControl value with
          | some result => exact ⟨BingxSession.noEvents_control hControl, rfl, rfl⟩
          | none =>
            -- neither ping nor pong nor control: market data, which it is not
            have hTrue : isMarket .bingx text value = true := by
              simp only [isMarket, Bool.and_eq_true, Option.isNone_iff_eq_none]
              exact ⟨⟨decide_eq_true hPing, decide_eq_true hPong⟩, hControl⟩
            rw [hTrue] at hMarket
            cases hMarket

end Refusing

/-- Any other frame leaves the cache alone and emits nothing. -/
theorem parse_control {provider : Provider} {text : Text} (h : marketValue provider text = none)
    (s : (configuredAdapter provider).Session) (receivedAtMs : Nat) :
    NoEvents ((configuredAdapter provider).parse s text receivedAtMs).1 ∧
    sessionTickers provider ((configuredAdapter provider).parse s text receivedAtMs).2 =
      sessionTickers provider s ∧
    sessionEpoch provider ((configuredAdapter provider).parse s text receivedAtMs).2 =
      sessionEpoch provider s := by
  cases provider with
  | bybit => exact BybitSession.parse_control h s receivedAtMs
  | binance => exact BinanceSession.parse_control h s receivedAtMs
  | okx => exact OkxSession.parse_control h s receivedAtMs
  | kucoin => exact KucoinSession.parse_control h s receivedAtMs
  | mexc => exact MexcSession.parse_control h s receivedAtMs
  | bingx => exact BingxSession.parse_control h s receivedAtMs

/-! ## Subscription diffs -/

/-- The keys of a diff whose tickers are dropped if the diff unsubscribes: all of
them, if the commands can be built. Two venues drop tickers while they check
the symbols, so there a refused symbol only ends the dropping. -/
def droppedKeys (provider : Provider) (s : (configuredAdapter provider).Session)
    (action : SubscriptionAction) (subscriptions : List SubscriptionKey) :
    List SubscriptionKey :=
  match provider, s with
  | .mexc, s =>
    if (validateSubscriptions .mexc subscriptions).isOk &&
        MexcSession.endpoint s = .primary then
      subscriptions.takeWhile fun key => (MexcSession.validateMexcSymbol key.symbol).isOk
    else []
  | .bingx, _ =>
    if (validateSubscriptions .bingx subscriptions).isOk then
      subscriptions.takeWhile fun key => (BingxSession.validateBingxSymbol key.symbol).isOk
    else []
  | provider, s =>
    if ((configuredAdapter provider).subscriptionMessages s action subscriptions).1.isOk then
      subscriptions
    else []

section Collecting

omit [JsonText] [RustDecimal] [Serde]

omit [Unicode] in
/-- Forgetting goes key by key. -/
theorem forgetTickers_cons (action : SubscriptionAction) (key : SubscriptionKey)
    (rest : List SubscriptionKey) (tickers : Tickers) :
    forgetTickers action (key :: rest) tickers =
      forgetTickers action rest (forgetTickers action [key] tickers) := by
  cases action <;> rfl

omit [Unicode] in
theorem forgetTickers_nil (action : SubscriptionAction) (tickers : Tickers) :
    forgetTickers action [] tickers = tickers := by
  cases action <;> rfl

omit [Unicode] in
/-- The loop forgets as it goes: the tickers before a symbol it refuses are
gone, and all of them when none is refused. -/
theorem MexcSession.collect_tickers (action : SubscriptionAction)
    (collected : List NativeSubscription) (tickers : Tickers) (keys : List SubscriptionKey) :
    (collect action collected tickers keys).2 =
        forgetTickers action (keys.takeWhile fun key => (validateMexcSymbol key.symbol).isOk)
          tickers ∧
      ((collect action collected tickers keys).1.isOk = true →
        (keys.takeWhile fun key => (validateMexcSymbol key.symbol).isOk) = keys) := by
  induction keys generalizing collected tickers with
  | nil => exact ⟨(forgetTickers_nil action tickers).symm, fun _ => rfl⟩
  | cons key keys ih =>
    cases hSymbol : validateMexcSymbol key.symbol with
    -- the keys from the first bad symbol on are not looked at
    | error message =>
      rw [collect, hSymbol, List.takeWhile_cons_of_neg (by rw [hSymbol]; exact Bool.false_ne_true)]
      exact ⟨(forgetTickers_nil action tickers).symm, fun h => absurd h Bool.false_ne_true⟩
    | ok u =>
      rw [collect, hSymbol, List.takeWhile_cons_of_pos (by rw [hSymbol]; rfl),
        forgetTickers_cons action key (List.takeWhile _ keys)]
      obtain ⟨hTickers, hAll⟩ :=
        ih (pushAll collected (natives key)) (forgetTickers action [key] tickers)
      exact ⟨hTickers, fun h => congrArg (key :: ·) (hAll h)⟩

/-- The same of BingX's loop. -/
theorem BingxSession.collect_tickers (action : SubscriptionAction) (requested : List Text)
    (tickers : Tickers) (keys : List SubscriptionKey) :
    (collect action requested tickers keys).2 =
        forgetTickers action (keys.takeWhile fun key => (validateBingxSymbol key.symbol).isOk)
          tickers ∧
      ((collect action requested tickers keys).1.isOk = true →
        (keys.takeWhile fun key => (validateBingxSymbol key.symbol).isOk) = keys) := by
  induction keys generalizing requested tickers with
  | nil => exact ⟨(forgetTickers_nil action tickers).symm, fun _ => rfl⟩
  | cons key keys ih =>
    cases hSymbol : validateBingxSymbol key.symbol with
    -- the keys from the first bad symbol on are not looked at
    | error error =>
      rw [collect, hSymbol, List.takeWhile_cons_of_neg (by rw [hSymbol]; exact Bool.false_ne_true)]
      exact ⟨(forgetTickers_nil action tickers).symm, fun h => absurd h Bool.false_ne_true⟩
    | ok u =>
      rw [collect, hSymbol, List.takeWhile_cons_of_pos (by rw [hSymbol]; rfl),
        forgetTickers_cons action key (List.takeWhile _ keys)]
      obtain ⟨hTickers, hAll⟩ :=
        ih (pushAll requested (keyTopics key)) (forgetTickers action [key] tickers)
      exact ⟨hTickers, fun h => congrArg (key :: ·) (hAll h)⟩

end Collecting

section Building

omit [Unicode] [JsonText] [RustDecimal] [Serde]

/-- Four venues forget the tickers of a diff once its commands are built, and
none when they are refused. -/
theorem BybitSession.subscriptionMessages_tickers (s : BybitSession) (action : SubscriptionAction)
    (keys : List SubscriptionKey) :
    (s.subscriptionMessages action keys).2.tickers =
        forgetTickers action
          (if (s.subscriptionMessages action keys).1.isOk then keys else []) s.tickers ∧
      (s.subscriptionMessages action keys).2.connectionEpoch = s.connectionEpoch := by
  unfold BybitSession.subscriptionMessages
  split
  · exact ⟨(forgetTickers_nil action s.tickers).symm, rfl⟩
  · exact ⟨issue_field (f := BybitSession.tickers) (fun _ _ => rfl) _ _,
     issue_field (f := BybitSession.connectionEpoch) (fun _ _ => rfl) _ _⟩

theorem BinanceSession.subscriptionMessages_tickers (s : BinanceSession)
    (action : SubscriptionAction)
    (keys : List SubscriptionKey) :
    (s.subscriptionMessages action keys).2.tickers =
        forgetTickers action
          (if (s.subscriptionMessages action keys).1.isOk then keys else []) s.tickers ∧
      (s.subscriptionMessages action keys).2.connectionEpoch = s.connectionEpoch := by
  unfold BinanceSession.subscriptionMessages
  split
  · exact ⟨(forgetTickers_nil action s.tickers).symm, rfl⟩
  · exact ⟨issue_field (f := BinanceSession.tickers) (fun _ _ => rfl) _ _,
     issue_field (f := BinanceSession.connectionEpoch) (fun _ _ => rfl) _ _⟩

theorem OkxSession.subscriptionMessages_tickers (s : OkxSession) (action : SubscriptionAction)
    (keys : List SubscriptionKey) :
    (s.subscriptionMessages action keys).2.tickers =
        forgetTickers action
          (if (s.subscriptionMessages action keys).1.isOk then keys else []) s.tickers ∧
      (s.subscriptionMessages action keys).2.connectionEpoch = s.connectionEpoch := by
  unfold OkxSession.subscriptionMessages
  split
  · exact ⟨(forgetTickers_nil action s.tickers).symm, rfl⟩
  · split
    · exact ⟨(forgetTickers_nil action s.tickers).symm, rfl⟩
    · exact ⟨issue_field (f := OkxSession.tickers) (fun _ _ => rfl) _ _,
       issue_field (f := OkxSession.connectionEpoch) (fun _ _ => rfl) _ _⟩

theorem KucoinSession.subscriptionMessages_tickers (s : KucoinSession) (action : SubscriptionAction)
    (keys : List SubscriptionKey) :
    (s.subscriptionMessages action keys).2.tickers =
        forgetTickers action
          (if (s.subscriptionMessages action keys).1.isOk then keys else []) s.tickers ∧
      (s.subscriptionMessages action keys).2.connectionEpoch = s.connectionEpoch := by
  unfold KucoinSession.subscriptionMessages
  split
  · exact ⟨(forgetTickers_nil action s.tickers).symm, rfl⟩
  · split
    · exact ⟨(forgetTickers_nil action s.tickers).symm, rfl⟩
    · split
      · exact ⟨(forgetTickers_nil action s.tickers).symm, rfl⟩
      · exact ⟨issue_field (f := KucoinSession.tickers) (fun _ _ => rfl) _ _,
         issue_field (f := KucoinSession.connectionEpoch) (fun _ _ => rfl) _ _⟩

end Building

section Dropping

omit [JsonText] [RustDecimal] [Serde]

omit [Unicode] in
/-- MEXC and BingX forget while they collect, so a refused diff may have dropped some. -/
theorem MexcSession.subscriptionMessages_tickers (s : MexcSession) (action : SubscriptionAction)
    (keys : List SubscriptionKey) :
    (s.subscriptionMessages action keys).2.tickers =
        forgetTickers action
          (if (validateSubscriptions .mexc keys).isOk && s.endpoint = .primary then
            keys.takeWhile fun key => (validateMexcSymbol key.symbol).isOk
          else []) s.tickers ∧
      (s.subscriptionMessages action keys).2.connectionEpoch = s.connectionEpoch := by
  unfold MexcSession.subscriptionMessages
  split
  · next error hProvider =>
    rw [hProvider]
    exact ⟨(forgetTickers_nil action s.tickers).symm, rfl⟩
  · next hProvider =>
    rw [hProvider]
    by_cases hEndpoint : s.endpoint = .primary
    · -- entries are dropped while the keys are collected, before the call can fail
      have hCollect := (collect_tickers action [] s.tickers keys).1
      rw [if_neg (not_not_intro hEndpoint), if_pos (by rw [hEndpoint]; rfl)]
      split
      · next error tickers hEq =>
        rw [hEq] at hCollect
        exact ⟨hCollect, rfl⟩
      · next collected tickers hEq =>
        rw [hEq] at hCollect
        exact ⟨(issue_field (f := MexcSession.tickers) (fun _ _ => rfl) _ _).trans hCollect,
          issue_field (f := MexcSession.connectionEpoch) (fun _ _ => rfl) _ _⟩
    · rw [if_pos hEndpoint, if_neg (by simp [hEndpoint])]
      exact ⟨(forgetTickers_nil action s.tickers).symm, rfl⟩

theorem BingxSession.subscriptionMessages_tickers (s : BingxSession) (action : SubscriptionAction)
    (keys : List SubscriptionKey) :
    (s.subscriptionMessages action keys).2.tickers =
        forgetTickers action
          (if (validateSubscriptions .bingx keys).isOk then
            keys.takeWhile fun key => (validateBingxSymbol key.symbol).isOk
          else []) s.tickers ∧
      (s.subscriptionMessages action keys).2.connectionEpoch = s.connectionEpoch := by
  -- entries are dropped while the keys are collected, before the call can fail
  have hCollect := (collect_tickers action [] s.tickers keys).1
  unfold BingxSession.subscriptionMessages
  split
  · next error hProvider =>
    rw [hProvider]
    exact ⟨(forgetTickers_nil action s.tickers).symm, rfl⟩
  · next hProvider =>
    rw [hProvider, if_pos (show Except.isOk (.ok () : Except AdapterError Unit) = true from rfl)]
    split
    · next error tickers hEq =>
      rw [hEq] at hCollect
      exact ⟨hCollect, rfl⟩
    · next requested tickers hEq =>
      rw [hEq] at hCollect
      split
      · exact ⟨hCollect, rfl⟩
      · exact ⟨(issue_field (f := BingxSession.tickers) (fun _ _ => rfl) _ _).trans hCollect,
          issue_field (f := BingxSession.connectionEpoch) (fun _ _ => rfl) _ _⟩

omit [Unicode] in
/-- A diff that is accepted drops all its tickers. -/
theorem MexcSession.dropped_of_ok (s : MexcSession) (action : SubscriptionAction)
    (keys : List SubscriptionKey) (h : (s.subscriptionMessages action keys).1.isOk = true) :
    (if (validateSubscriptions .mexc keys).isOk && s.endpoint = .primary then
      keys.takeWhile fun key => (validateMexcSymbol key.symbol).isOk
    else []) = keys := by
  unfold MexcSession.subscriptionMessages at h
  split at h
  · cases h
  · next hProvider =>
    split at h
    · cases h
    · next hEndpoint =>
      rw [hProvider, if_pos (by rw [not_not.mp hEndpoint]; rfl)]
      split at h
      · cases h
      · next collected tickers hEq =>
        -- a call that succeeds has looked at every key
        have hAll := (collect_tickers action [] s.tickers keys).2
        rw [hEq] at hAll
        exact hAll rfl

theorem BingxSession.dropped_of_ok (s : BingxSession) (action : SubscriptionAction)
    (keys : List SubscriptionKey) (h : (s.subscriptionMessages action keys).1.isOk = true) :
    (if (validateSubscriptions .bingx keys).isOk then
      keys.takeWhile fun key => (validateBingxSymbol key.symbol).isOk
    else []) = keys := by
  unfold BingxSession.subscriptionMessages at h
  split at h
  · cases h
  · next hProvider =>
    rw [hProvider, if_pos (show Except.isOk (.ok () : Except AdapterError Unit) = true from rfl)]
    split at h
    · cases h
    · next requested tickers hEq =>
      have hAll := (collect_tickers action [] s.tickers keys).2
      rw [hEq] at hAll
      exact hAll rfl

end Dropping

/-- What a subscription diff does to the cache. -/
theorem subscriptionMessages_tickers (provider : Provider)
    (s : (configuredAdapter provider).Session) (action : SubscriptionAction)
    (subscriptions : List SubscriptionKey) :
    sessionTickers provider
        ((configuredAdapter provider).subscriptionMessages s action subscriptions).2 =
      forgetTickers action (droppedKeys provider s action subscriptions)
        (sessionTickers provider s) ∧
    sessionEpoch provider
        ((configuredAdapter provider).subscriptionMessages s action subscriptions).2 =
      sessionEpoch provider s := by
  cases provider with
  | bybit => exact BybitSession.subscriptionMessages_tickers s action subscriptions
  | binance => exact BinanceSession.subscriptionMessages_tickers s action subscriptions
  | okx => exact OkxSession.subscriptionMessages_tickers s action subscriptions
  | kucoin => exact KucoinSession.subscriptionMessages_tickers s action subscriptions
  | mexc => exact MexcSession.subscriptionMessages_tickers s action subscriptions
  | bingx => exact BingxSession.subscriptionMessages_tickers s action subscriptions

/-- If the commands can be built, no key is left out. -/
theorem droppedKeys_of_ok {provider : Provider} {s : (configuredAdapter provider).Session}
    {action : SubscriptionAction} {subscriptions : List SubscriptionKey}
    (h : ((configuredAdapter provider).subscriptionMessages s action subscriptions).1.isOk = true) :
    droppedKeys provider s action subscriptions = subscriptions := by
  cases provider with
  | bybit | binance | okx | kucoin => exact if_pos h
  | mexc => exact MexcSession.dropped_of_ok s action subscriptions h
  | bingx => exact BingxSession.dropped_of_ok s action subscriptions h

/-- A heartbeat draws an id at most. -/
theorem heartbeat_tickers (provider : Provider) (s : (configuredAdapter provider).Session) :
    sessionTickers provider ((configuredAdapter provider).heartbeat s).2 =
        sessionTickers provider s ∧
      sessionEpoch provider ((configuredAdapter provider).heartbeat s).2 =
        sessionEpoch provider s := by
  cases provider <;> exact ⟨rfl, rfl⟩

/-! ## Calls -/

/-- The changes a call makes to the cache. -/
def SessionCall.changes (provider : Provider) (s : (configuredAdapter provider).Session) :
    SessionCall → List (Change Text Field ObservedDecimal)
  | parse text receivedAtMs =>
    ((frameReading provider text receivedAtMs).applied (sessionTickers provider s)).map
      Update.change
  | subscriptionMessages action subscriptions =>
    forgotten action (droppedKeys provider s action subscriptions)
  | heartbeat => []

/-- The cache after a frame. -/
theorem parse_tickers (provider : Provider) (s : (configuredAdapter provider).Session)
    (text : Text) (receivedAtMs : Nat) :
    sessionTickers provider ((configuredAdapter provider).parse s text receivedAtMs).2 =
      storeAll (sessionTickers provider s)
        ((frameReading provider text receivedAtMs).applied (sessionTickers provider s)) := by
  unfold frameReading
  cases hValue : marketValue provider text with
  | none => exact (parse_control hValue s receivedAtMs).2.1
  | some value =>
    rw [(parse_market hValue s receivedAtMs).2.1, Reading.handle_tickers]

/-- What a call does to the table of last values is what its `changes` say. -/
theorem view_step (provider : Provider) (s : (configuredAdapter provider).Session)
    (call : SessionCall) :
    view (sessionTickers provider (call.step provider s)) =
      Change.applyAll (view (sessionTickers provider s)) (call.changes provider s) := by
  cases call with
  | parse text receivedAtMs =>
    rw [SessionCall.step, parse_tickers, view_storeAll, SessionCall.changes]
  | subscriptionMessages action subscriptions =>
    rw [SessionCall.step, (subscriptionMessages_tickers provider s action subscriptions).1,
      view_forgetTickers, SessionCall.changes]
  | heartbeat =>
    rw [SessionCall.step, (heartbeat_tickers provider s).1]
    rfl

/-- A session keeps the epoch of its connection. -/
theorem sessionEpoch_after (provider : Provider) (endpoint : EndpointKind) (epoch : Uuid)
    (calls : List SessionCall) :
    sessionEpoch provider (sessionAfter provider endpoint epoch calls) = epoch := by
  refine run_invariant (P := fun s => sessionEpoch provider s = epoch) (fun s call hEpoch => ?_)
    (by cases provider <;> rfl) calls
  cases call with
  | parse text receivedAtMs =>
    cases hValue : marketValue provider text with
    | none => exact (parse_control hValue s receivedAtMs).2.2.trans hEpoch
    | some value => exact (parse_market hValue s receivedAtMs).2.2.trans hEpoch
  | subscriptionMessages action subscriptions =>
    exact (subscriptionMessages_tickers provider s action subscriptions).2.trans hEpoch
  | heartbeat => exact (heartbeat_tickers provider s).2.trans hEpoch

/-- A new session has an empty cache. -/
theorem sessionTickers_session (provider : Provider) (endpoint : EndpointKind) (epoch : Uuid) :
    sessionTickers provider ((configuredAdapter provider).session endpoint epoch) = ∅ := by
  cases provider <;> rfl

/-! ## Events -/

omit [Unicode] [JsonText] [RustDecimal] [Serde] in
/-- A frame carries events when its market data does. -/
theorem ofMarket_eq_events {market : Option (List ProviderEvent)} {events : List ProviderEvent} :
    ParsedFrame.ofMarket market = .events events ↔ market = some events := by
  cases market with
  | none => exact ⟨nofun, nofun⟩
  | some market =>
    exact ⟨fun h => congrArg some (ParsedFrame.events.inj h),
      fun h => congrArg ParsedFrame.events (Option.some.inj h)⟩

/-- The events of a frame are those of its reading. -/
theorem parse_events {provider : Provider} {s : (configuredAdapter provider).Session} {text : Text}
    {receivedAtMs : Nat} {events : List ProviderEvent}
    (h : ((configuredAdapter provider).parse s text receivedAtMs).1 = .ok (.events events)) :
    ((frameReading provider text receivedAtMs).handle provider (sessionEpoch provider s)
      receivedAtMs (sessionTickers provider s)).1 = .ok (some events) := by
  unfold frameReading
  cases hValue : marketValue provider text with
  | none => exact absurd h ((parse_control hValue s receivedAtMs).1 events)
  | some value =>
    rw [(parse_market hValue s receivedAtMs).1] at h
    obtain ⟨market, hMarket, hEvents⟩ := map_eq_ok.mp h
    rw [ofMarket_eq_events.mp hEvents] at hMarket
    exact hMarket

/-- A ticker event shows its symbol's cache entry as it is after the updates of
its frame up to its own. -/
theorem event_cached {provider : Provider} {s : (configuredAdapter provider).Session} {text : Text}
    {receivedAtMs : Nat} {events : List ProviderEvent}
    (h : ((configuredAdapter provider).parse s text receivedAtMs).1 = .ok (.events events))
    {i : Nat} {event : ProviderEvent} (hEvent : events[i]? = some event) {ticker : Ticker}
    (hTicker : event.payload = .ticker ticker) :
    event.connectionEpoch = sessionEpoch provider s ∧
    ticker = cached (storeAll (sessionTickers provider s)
      (((frameReading provider text receivedAtMs).applied (sessionTickers provider s)).take
        (i + 1)))
      event.symbol := by
  rcases Reading.handle_events provider _ _ (parse_events h) with ⟨items, hItems, rfl⟩ | hAll
  · -- a candle event has no ticker
    rw [List.getElem?_map] at hEvent
    obtain ⟨item, -, rfl⟩ := Option.map_eq_some_iff.mp hEvent
    cases hTicker
  · -- the event of an update shows the entry it has just written
    obtain ⟨u, hUpdate, hEpoch, -, -, hSymbol, -, hPayload⟩ := hAll i event hEvent
    refine ⟨hEpoch, ?_⟩
    rw [hPayload] at hTicker
    obtain rfl := MarketPayload.ticker.inj hTicker
    rw [List.take_add_one, hUpdate, Option.toList_some, storeAll_concat, hSymbol,
      cached_store_self]

/-- The fields of a ticker event, by the changes of its frame. -/
theorem event_ticker {provider : Provider} {s : (configuredAdapter provider).Session} {text : Text}
    {receivedAtMs : Nat} {events : List ProviderEvent}
    (h : ((configuredAdapter provider).parse s text receivedAtMs).1 = .ok (.events events))
    {i : Nat} {event : ProviderEvent} (hEvent : events[i]? = some event) {ticker : Ticker}
    (hTicker : event.payload = .ticker ticker) (field : Field) :
    ticker.get field = Change.applyAll (view (sessionTickers provider s))
      (((SessionCall.parse text receivedAtMs).changes provider s).take (i + 1))
      event.symbol field := by
  rw [(event_cached h hEvent hTicker).2, SessionCall.changes, ← List.map_take,
    ← view_storeAll, view]

end MarketStreamGateway
