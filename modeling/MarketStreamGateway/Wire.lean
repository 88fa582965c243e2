import MarketStreamGateway.Session
import MarketStreamGateway.Lib.Serde
import MarketStreamGateway.Lib.Compact

/-!
# Market Stream Gateway — frames as text

What `send_json` puts on a client's socket: the documents that the derived
`Serialize` implementations make of market events and control messages, printed
compactly. A member that is `none` is left out, `data_quality` also when it is
empty, and the payload of an event is flattened into its `type` and `data`.

The `read` functions are no code of the gateway. They are a client that knows
the field names and nothing else.

Main result: `frame_round_trip` — a client gets every frame back from its text,
so no two frames are sent as the same text and none is taken for another.
-/

namespace MarketStreamGateway

open Lib

/-- The printer and the parser of the `uuid` crate. -/
class UuidText where
  display : Uuid → Text
  parse : Text → Option Uuid
  parse_display : ∀ uuid, parse (display uuid) = some uuid

/-! ## Records -/

/-- The members of a struct in declaration order; a member that is skipped is
`none`. -/
abbrev Fields := List (Text × Option Value)

/-- A struct that derives `Serialize`. -/
def record (fields : Fields) : Value :=
  .object (fields.filterMap fun field => field.2.map fun v => (field.1, v))

/-- An unsigned integer as a JSON number. -/
def natural (n : Nat) : Value := .number (.posInt n)

/-- Dropping the absent members leaves every other one where its name finds it. -/
theorem lookup_fields {fields : Fields} (hNodup : (fields.map Prod.fst).Nodup) (name : Text) :
    (fields.filterMap fun field => field.2.map fun v => (field.1, v)).lookup name =
      (fields.lookup name).join := by
  induction fields with
  | nil => rfl
  | cons field fields ih =>
    obtain ⟨first, member⟩ := field
    obtain ⟨hFirst, hRest⟩ := List.nodup_cons.mp hNodup
    -- a name that is not among the fields is not found
    have hFree : ∀ {other : Text}, other ∉ fields.map Prod.fst → fields.lookup other = none := by
      intro other hOther
      rw [List.lookup_eq_none_iff]
      rintro ⟨key, v⟩ hMem
      rw [bne_iff_ne]
      rintro rfl
      exact hOther (List.mem_map_of_mem hMem)
    by_cases hName : name = first
    · subst hName
      cases member with
      | none => simp [ih hRest, hFree hFirst]
      | some v => simp
    · have hBeq : (name == first) = false := beq_false_of_ne hName
      cases member with
      | none => simp [List.lookup_cons, hBeq, ih hRest]
      | some v => simp [List.lookup_cons, hBeq, ih hRest]

/-- The members of a struct have different names. -/
theorem get_record {fields : Fields} (hNodup : (fields.map Prod.fst).Nodup) (name : Text) :
    (record fields).get name = (fields.lookup name).join := lookup_fields hNodup name

/-- A record answers for each of its names with the member listed under it,
present or not. -/
theorem get_field {fields : Fields} (hNodup : (fields.map Prod.fst).Nodup) {name : Text}
    {member : Option Value} (hField : fields.lookup name = some member) :
    (record fields).get name = member := by
  rw [get_record hNodup, hField, Option.join_some]

/-- A record whose members are plain is plain. -/
theorem plain_record {fields : Fields} (h : ∀ field ∈ fields, ∀ v ∈ field.2, v.Plain) :
    (record fields).Plain := by
  refine .object fun entry hEntry => ?_
  obtain ⟨field, hField, hSome⟩ := List.mem_filterMap.mp hEntry
  obtain ⟨v, hv, rfl⟩ := Option.map_eq_some_iff.mp hSome
  exact h field hField v hv

/-! ## Serializing -/

/-- The value as its text, next to the time it was observed at. -/
def ObservedDecimal.fields (d : ObservedDecimal) : Fields :=
  [("value".toList, some (.string d.value.text)),
    ("observed_at_ms".toList, some (natural d.observedAtMs))]

/-- The ten ticker values, the ones never observed left out. -/
def Ticker.fields (t : Ticker) : Fields :=
  let observed (d : Option ObservedDecimal) := d.map fun d => record d.fields
  [("last".toList, observed t.last), ("mark".toList, observed t.mark),
    ("index".toList, observed t.index), ("bid".toList, observed t.bid),
    ("ask".toList, observed t.ask), ("funding_rate".toList, observed t.fundingRate),
    ("next_funding_time_ms".toList, t.nextFundingTimeMs.map natural)]

/-- The `snake_case` names that serde gives the variants. -/
def CandleFinality.name : CandleFinality → Text
  | .open => "open".toList
  | .closed => "closed".toList
  | .unknown => "unknown".toList

/-- The name serde gives a quality flag. -/
def DataQuality.name : DataQuality → Text
  | .providerVolumeUntrusted => "provider_volume_untrusted".toList

/-- The decimals of a candle are strings; the volumes and the flag may be absent. -/
def Candle.fields (c : Candle) : Fields :=
  let decimal (d : DecimalValue) := Value.string d.text
  [("interval".toList, some (.string c.interval)),
    ("start_time_ms".toList, some (natural c.startTimeMs)),
    ("end_time_ms".toList, some (natural c.endTimeMs)),
    ("open".toList, some (decimal c.openPrice)), ("high".toList, some (decimal c.high)),
    ("low".toList, some (decimal c.low)), ("close".toList, some (decimal c.close)),
    ("base_volume".toList, c.baseVolume.map decimal),
    ("quote_volume".toList, c.quoteVolume.map decimal),
    ("contract_volume".toList, c.contractVolume.map decimal),
    ("finality".toList, some (.string c.finality.name)),
    ("data_quality".toList, if c.dataQuality.isEmpty then none
      else some (.array (c.dataQuality.map fun quality => .string quality.name)))]

/-- Sequence numbers are strings, each of them optional. -/
def SourceSequence.fields (s : SourceSequence) : Fields :=
  [("first".toList, s.first.map .string), ("last".toList, s.last.map .string),
    ("previous".toList, s.previous.map .string)]

/-- The `type` of an event: which variant its data is of. -/
def MarketPayload.tag : MarketPayload → Text
  | .ticker _ => "ticker".toList
  | .candle _ => "candle".toList

/-- The content that stands next to the tag. -/
def MarketPayload.data : MarketPayload → Value
  | .ticker t => record t.fields
  | .candle c => record c.fields

/-- The tag of the payload stands next to its content. -/
def MarketPayload.fields (p : MarketPayload) : Fields :=
  [("type".toList, some (.string p.tag)), ("data".toList, some p.data)]

/-- The four members that identify a subscription. -/
def SubscriptionKey.fields (k : SubscriptionKey) : Fields :=
  [("provider".toList, some (.string k.provider.display)),
    ("market".toList, some (.string k.market.display)),
    ("symbol".toList, some (.string k.symbol)),
    ("channel".toList, some (.string k.channel.display))]

/-- The code an error frame carries. -/
def ErrorCode.name : ErrorCode → Text
  | .invalidJson => "invalid_json".toList
  | .invalidCommand => "invalid_command".toList
  | .limitExceeded => "limit_exceeded".toList
  | .unsupportedSubscription => "unsupported_subscription".toList
  | .lagged => "lagged".toList
  | .internal => "internal".toList

section Frames

variable [UuidText]

/-- The members of an event frame. The payload is flattened into its tag and its data. -/
def MarketEvent.fields (e : MarketEvent) : Fields :=
  [("schema_version".toList, some (natural e.schemaVersion)),
    ("stream_epoch".toList, some (.string (UuidText.display e.streamEpoch))),
    ("delivery_sequence".toList, some (natural e.deliverySequence)),
    ("connection_epoch".toList, some (.string (UuidText.display e.connectionEpoch))),
    ("instrument_id".toList, some (.string e.instrumentId)),
    ("provider".toList, some (.string e.provider.display)),
    ("market".toList, some (.string e.market.display)),
    ("symbol".toList, some (.string e.symbol)),
    ("exchange_time_ms".toList, e.exchangeTimeMs.map natural),
    ("gateway_received_time_ms".toList, some (natural e.gatewayReceivedTimeMs)),
    ("source_sequence".toList, e.sourceSequence.map fun s => record s.fields)] ++
  e.payload.fields

/-- Every variant carries its tag first and the schema version next. -/
def ControlMessage.fields : ControlMessage → Fields
  | .hello streamEpoch maxSubscriptions maxProviderSubscriptions =>
    [("type".toList, some (.string "hello".toList)),
      ("schema_version".toList, some (natural schemaVersion)),
      ("stream_epoch".toList, some (.string (UuidText.display streamEpoch))),
      ("max_subscriptions".toList, some (natural maxSubscriptions)),
      ("max_provider_subscriptions".toList, some (natural maxProviderSubscriptions))]
  | .ack requestId operation subscriptions =>
    [("type".toList, some (.string "ack".toList)),
      ("schema_version".toList, some (natural schemaVersion)),
      ("request_id".toList, some (.string requestId)),
      ("operation".toList, some (.string operation)),
      ("subscriptions".toList, some (.array (subscriptions.map fun k => record k.fields)))]
  | .error requestId code message =>
    [("type".toList, some (.string "error".toList)),
      ("schema_version".toList, some (natural schemaVersion)),
      ("request_id".toList, requestId.map .string),
      ("code".toList, some (.string code.name)),
      ("message".toList, some (.string message))]
  | .pong requestId =>
    [("type".toList, some (.string "pong".toList)),
      ("schema_version".toList, some (natural schemaVersion)),
      ("request_id".toList, some (.string requestId))]
  | .gap droppedMessages message =>
    [("type".toList, some (.string "gap".toList)),
      ("schema_version".toList, some (natural schemaVersion)),
      ("dropped_messages".toList, some (natural droppedMessages)),
      ("message".toList, some (.string message))]

/-- The members of any frame the server sends. -/
def Frame.fields : Frame → Fields
  | .event e => e.fields
  | .control message => message.fields

/-- `serde_json::to_string`, as `send_json` calls it. -/
def Frame.text (f : Frame) : Text := (record f.fields).display

end Frames

/-! ## Reading -/

section Reading

open Value

/-- One of finitely many names. -/
def named {α : Type} (all : List α) (name : α → Text) (v : Value) : Option α :=
  v.asStr.bind fun t => all.find? fun a => name a = t

/-- An array of which every item can be read. -/
def listOf {α : Type} (decode : Value → Option α) (v : Value) : Option (List α) :=
  v.asArray.bind fun items => items.mapM decode

/-- A decimal is read as the text it was written as, whatever the text is. -/
def DecimalValue.read (v : Value) : Option DecimalValue := v.asStr.map DecimalValue.mk

def ObservedDecimal.read (v : Value) : Option ObservedDecimal := do
  let value ← required DecimalValue.read (v.get "value".toList)
  let observedAtMs ← required asU64 (v.get "observed_at_ms".toList)
  return ⟨value, observedAtMs⟩

/-- Every value of a ticker is optional. -/
def Ticker.read (v : Value) : Option Ticker := do
  let observed (name : Text) := optional ObservedDecimal.read (v.get name)
  let last ← observed "last".toList
  let mark ← observed "mark".toList
  let index ← observed "index".toList
  let bid ← observed "bid".toList
  let ask ← observed "ask".toList
  let fundingRate ← observed "funding_rate".toList
  let nextFundingTimeMs ← optional asU64 (v.get "next_funding_time_ms".toList)
  return { last, mark, index, bid, ask, fundingRate, nextFundingTimeMs }

/-- The reader of a candle demands every member but the volumes and the flag. -/
def Candle.read (v : Value) : Option Candle := do
  let decimal (name : Text) := required DecimalValue.read (v.get name)
  let volume (name : Text) := optional DecimalValue.read (v.get name)
  let interval ← required asStr (v.get "interval".toList)
  let startTimeMs ← required asU64 (v.get "start_time_ms".toList)
  let endTimeMs ← required asU64 (v.get "end_time_ms".toList)
  let openPrice ← decimal "open".toList
  let high ← decimal "high".toList
  let low ← decimal "low".toList
  let close ← decimal "close".toList
  let baseVolume ← volume "base_volume".toList
  let quoteVolume ← volume "quote_volume".toList
  let contractVolume ← volume "contract_volume".toList
  let finality ← required (named [.open, .closed, .unknown] CandleFinality.name)
    (v.get "finality".toList)
  let dataQuality ← optional (listOf (named [.providerVolumeUntrusted] DataQuality.name))
    (v.get "data_quality".toList)
  return {
    interval, startTimeMs, endTimeMs, openPrice, high, low, close, baseVolume, quoteVolume
    contractVolume, finality, dataQuality := dataQuality.getD [] }

def SourceSequence.read (v : Value) : Option SourceSequence := do
  let first ← optional asStr (v.get "first".toList)
  let last ← optional asStr (v.get "last".toList)
  let previous ← optional asStr (v.get "previous".toList)
  return ⟨first, last, previous⟩

/-- The tag decides which reader the data goes to; an unknown tag is refused. -/
def MarketPayload.read (tag : Text) (data : Value) : Option MarketPayload :=
  if tag = "ticker".toList then (Ticker.read data).map .ticker
  else if tag = "candle".toList then (Candle.read data).map .candle
  else none

/-- A provider, a market and a channel are found by their names. -/
def SubscriptionKey.read (v : Value) : Option SubscriptionKey := do
  let provider ← required (named Provider.all Provider.display) (v.get "provider".toList)
  let market ← required (named [.linearPerpetual] MarketKind.display) (v.get "market".toList)
  let symbol ← required asStr (v.get "symbol".toList)
  let channel ← required (named [.ticker, .candle1m] Channel.display) (v.get "channel".toList)
  return ⟨provider, market, symbol, channel⟩

/-- The codes a client may be sent. -/
def ErrorCode.all : List ErrorCode :=
  [.invalidJson, .invalidCommand, .limitExceeded, .unsupportedSubscription, .lagged, .internal]

variable [UuidText]

/-- A stream epoch, in the form it is displayed in. -/
def readUuid (v : Value) : Option Uuid := v.asStr.bind UuidText.parse

def MarketEvent.read (v : Value) : Option MarketEvent := do
  let schemaVersion ← required asU64 (v.get "schema_version".toList)
  let streamEpoch ← required readUuid (v.get "stream_epoch".toList)
  let deliverySequence ← required asU64 (v.get "delivery_sequence".toList)
  let connectionEpoch ← required readUuid (v.get "connection_epoch".toList)
  let instrumentId ← required asStr (v.get "instrument_id".toList)
  let provider ← required (named Provider.all Provider.display) (v.get "provider".toList)
  let market ← required (named [.linearPerpetual] MarketKind.display) (v.get "market".toList)
  let symbol ← required asStr (v.get "symbol".toList)
  let exchangeTimeMs ← optional asU64 (v.get "exchange_time_ms".toList)
  let gatewayReceivedTimeMs ← required asU64 (v.get "gateway_received_time_ms".toList)
  let sourceSequence ← optional SourceSequence.read (v.get "source_sequence".toList)
  let tag ← required asStr (v.get "type".toList)
  let payload ← required (MarketPayload.read tag) (v.get "data".toList)
  return {
    schemaVersion, streamEpoch, deliverySequence, connectionEpoch, instrumentId, provider, market
    symbol, exchangeTimeMs, gatewayReceivedTimeMs, sourceSequence, payload }

/-- The frame type decides which members are demanded. -/
def ControlMessage.read (tag : Text) (v : Value) : Option ControlMessage :=
  if tag = "hello".toList then do
    let streamEpoch ← required readUuid (v.get "stream_epoch".toList)
    let maxSubscriptions ← required asU64 (v.get "max_subscriptions".toList)
    let maxProviderSubscriptions ← required asU64 (v.get "max_provider_subscriptions".toList)
    return .hello streamEpoch maxSubscriptions maxProviderSubscriptions
  else if tag = "ack".toList then do
    let requestId ← required asStr (v.get "request_id".toList)
    let operation ← required asStr (v.get "operation".toList)
    let subscriptions ← required (listOf SubscriptionKey.read) (v.get "subscriptions".toList)
    return .ack requestId operation subscriptions
  else if tag = "error".toList then do
    let requestId ← optional asStr (v.get "request_id".toList)
    let code ← required (named ErrorCode.all ErrorCode.name) (v.get "code".toList)
    let message ← required asStr (v.get "message".toList)
    return .error requestId code message
  else if tag = "pong".toList then do
    let requestId ← required asStr (v.get "request_id".toList)
    return .pong requestId
  else if tag = "gap".toList then do
    let droppedMessages ← required asU64 (v.get "dropped_messages".toList)
    let message ← required asStr (v.get "message".toList)
    return .gap droppedMessages message
  else none

/-- A frame, by its tag. -/
def Frame.read (v : Value) : Option Frame := do
  let tag ← required asStr (v.get "type".toList)
  if tag = "ticker".toList ∨ tag = "candle".toList then (MarketEvent.read v).map .event
  else (ControlMessage.read tag v).map .control

/-- What a client makes of the text of a frame. -/
def Frame.ofText (t : Text) : Option Frame := (Value.read t).bind Frame.read

end Reading

/-! ## Plain documents -/

section Documents

open Value

theorem plain_natural (n : Nat) : (natural n).Plain := .posInt n

theorem ObservedDecimal.plain (d : ObservedDecimal) : (record d.fields).Plain :=
  plain_record (by simp [fields, plain_natural, Plain.string])

theorem Ticker.plain (t : Ticker) : (record t.fields).Plain :=
  plain_record (by simp [fields, plain_natural, ObservedDecimal.plain])

/-- A candle holds strings, unsigned integers and an array of flags. -/
theorem Candle.plain (c : Candle) : (record c.fields).Plain := by
  have hQualities :
      (Value.array (c.dataQuality.map fun quality => .string quality.name)).Plain := by
    refine .array fun item hItem => ?_
    obtain ⟨quality, -, rfl⟩ := List.mem_map.mp hItem
    exact .string _
  refine plain_record ?_
  simp [fields, plain_natural, Plain.string, hQualities]

theorem SourceSequence.plain (s : SourceSequence) : (record s.fields).Plain :=
  plain_record (by simp [fields, Plain.string])

theorem MarketPayload.plain (p : MarketPayload) : p.data.Plain := by
  cases p with
  | ticker t => exact t.plain
  | candle c => exact c.plain

theorem SubscriptionKey.plain (k : SubscriptionKey) : (record k.fields).Plain :=
  plain_record (by simp [fields, Plain.string])

section Frames

variable [UuidText]

/-- The whole event is plain because its source sequence and its payload are. -/
theorem MarketEvent.plain (e : MarketEvent) : (record e.fields).Plain :=
  plain_record (by
    simp [fields, MarketPayload.fields, plain_natural, Plain.string, SourceSequence.plain,
      MarketPayload.plain])

/-- The subscriptions of an acknowledgement are plain one by one. -/
theorem ControlMessage.plain (m : ControlMessage) : (record m.fields).Plain := by
  refine plain_record ?_
  cases m with
  | ack requestId operation subscriptions =>
    have hKeys : (Value.array (subscriptions.map fun k => record k.fields)).Plain := by
      refine .array fun item hItem => ?_
      obtain ⟨k, -, rfl⟩ := List.mem_map.mp hItem
      exact k.plain
    simp [fields, plain_natural, Plain.string, hKeys]
  | _ => simp [fields, plain_natural, Plain.string]

end Frames

end Documents

/-! ## Reading back -/

section RoundTrip

open Value

/-- An optional member, left out or there. -/
theorem optional_map {α : Type} {decode : Value → Option α} (encode : α → Value)
    (hBack : ∀ a, decode (encode a) = some a) (hSome : ∀ a, encode a ≠ .null) (o : Option α) :
    optional decode (o.map encode) = some o := by
  cases o with
  | none => rfl
  | some a =>
    rw [Option.map_some, Value.optional]
    · rw [hBack, Option.map_some]
    · exact hSome a

/-- What every item survives, the array survives. -/
theorem listOf_map {α : Type} {decode : Value → Option α} {encode : α → Value}
    (hBack : ∀ a, decode (encode a) = some a) (as : List α) :
    listOf decode (.array (as.map encode)) = some as := by
  rw [listOf, asArray, Option.bind_some]
  induction as with
  | nil => rfl
  | cons a as ih => simp [hBack, ih]

/-- An optional integer comes back, absent or not. -/
theorem optional_natural (o : Option Nat) : optional asU64 (o.map natural) = some o :=
  optional_map natural (fun _ => rfl) (fun _ => nofun) o

theorem optional_string (o : Option Text) : optional asStr (o.map .string) = some o :=
  optional_map .string (fun _ => rfl) (fun _ => nofun) o

/-- An optional decimal comes back with its text. -/
theorem optional_decimal (o : Option DecimalValue) :
    optional DecimalValue.read (o.map fun d => .string d.text) = some o :=
  optional_map (fun d : DecimalValue => .string d.text) (fun _ => rfl) (fun _ => nofun) o

/-- No two providers share a name, so the name finds the provider. -/
theorem named_provider (p : Provider) :
    named Provider.all Provider.display (.string p.display) = some p := by
  cases p <;> rfl

theorem named_market (m : MarketKind) :
    named [.linearPerpetual] MarketKind.display (.string m.display) = some m := by
  cases m
  rfl

/-- No two channels share a name. -/
theorem named_channel (c : Channel) :
    named [.ticker, .candle1m] Channel.display (.string c.display) = some c := by
  cases c <;> rfl

theorem named_finality (f : CandleFinality) :
    named [.open, .closed, .unknown] CandleFinality.name (.string f.name) = some f := by
  cases f <;> rfl

theorem named_quality (q : DataQuality) :
    named [.providerVolumeUntrusted] DataQuality.name (.string q.name) = some q := by
  cases q
  rfl

theorem named_errorCode (c : ErrorCode) :
    named ErrorCode.all ErrorCode.name (.string c.name) = some c := by
  cases c <;> rfl

/-- Reading undoes serializing. The same holds of every record below, by the
lookups of its names. -/
theorem ObservedDecimal.read_record (d : ObservedDecimal) : read (record d.fields) = some d := by
  have hNodup : (d.fields.map Prod.fst).Nodup := by
    simp only [fields, List.map_cons, List.map_nil]
    decide
  have hValue : (record d.fields).get "value".toList = _ := get_field hNodup rfl
  have hTime : (record d.fields).get "observed_at_ms".toList = _ := get_field hNodup rfl
  rw [read, hValue, hTime]
  rfl

/-- An optional observation comes back. -/
theorem optional_observed (o : Option ObservedDecimal) :
    optional ObservedDecimal.read (o.map fun d => record d.fields) = some o :=
  optional_map _ ObservedDecimal.read_record (fun _ => nofun) o

/-- Reading a ticker undoes writing it: each name finds its own value, and no
absent value is made up. -/
theorem Ticker.read_record (t : Ticker) : read (record t.fields) = some t := by
  have hNodup : (t.fields.map Prod.fst).Nodup := by
    simp only [fields, List.map_cons, List.map_nil]
    decide
  have hLast : (record t.fields).get "last".toList = _ := get_field hNodup rfl
  have hMark : (record t.fields).get "mark".toList = _ := get_field hNodup rfl
  have hIndex : (record t.fields).get "index".toList = _ := get_field hNodup rfl
  have hBid : (record t.fields).get "bid".toList = _ := get_field hNodup rfl
  have hAsk : (record t.fields).get "ask".toList = _ := get_field hNodup rfl
  have hFunding : (record t.fields).get "funding_rate".toList = _ := get_field hNodup rfl
  have hNext : (record t.fields).get "next_funding_time_ms".toList = _ := get_field hNodup rfl
  simp only [read, hLast, hMark, hIndex, hBid, hAsk, hFunding, hNext, optional_observed,
    optional_natural]
  rfl

/-- The quality flags are left out when there are none. -/
theorem optional_quality (qualities : List DataQuality) :
    (optional (listOf (named [.providerVolumeUntrusted] DataQuality.name))
      (if qualities.isEmpty then none
        else some (.array (qualities.map fun quality => .string quality.name)))).map
      (fun read => read.getD []) = some qualities := by
  cases qualities with
  | nil => rfl
  | cons quality qualities =>
    have hList := listOf_map named_quality (quality :: qualities)
    rw [if_neg (by simp), Value.optional]
    · rw [hList]
      rfl
    · nofun

/-- Reading a candle undoes writing it. -/
theorem Candle.read_record (c : Candle) : read (record c.fields) = some c := by
  have hNodup : (c.fields.map Prod.fst).Nodup := by
    simp only [fields, List.map_cons, List.map_nil]
    decide
  -- every member is found under its own name
  have hInterval : (record c.fields).get "interval".toList = _ := get_field hNodup rfl
  have hStart : (record c.fields).get "start_time_ms".toList = _ := get_field hNodup rfl
  have hEnd : (record c.fields).get "end_time_ms".toList = _ := get_field hNodup rfl
  have hOpen : (record c.fields).get "open".toList = _ := get_field hNodup rfl
  have hHigh : (record c.fields).get "high".toList = _ := get_field hNodup rfl
  have hLow : (record c.fields).get "low".toList = _ := get_field hNodup rfl
  have hClose : (record c.fields).get "close".toList = _ := get_field hNodup rfl
  have hBase : (record c.fields).get "base_volume".toList = _ := get_field hNodup rfl
  have hQuote : (record c.fields).get "quote_volume".toList = _ := get_field hNodup rfl
  have hContract : (record c.fields).get "contract_volume".toList = _ := get_field hNodup rfl
  have hFinality : (record c.fields).get "finality".toList = _ := get_field hNodup rfl
  have hQuality : (record c.fields).get "data_quality".toList = _ := get_field hNodup rfl
  obtain ⟨qualities, hRead, hQualities⟩ :=
    Option.map_eq_some_iff.mp (optional_quality c.dataQuality)
  simp only [read, hInterval, hStart, hEnd, hOpen, hHigh, hLow, hClose, hBase, hQuote, hContract,
    hFinality, hQuality, optional_decimal, hRead]
  simp [required, DecimalValue.read, asStr, natural, asU64, Number.asU64, named_finality,
    hQualities]

theorem SourceSequence.read_record (s : SourceSequence) : read (record s.fields) = some s := by
  have hNodup : (s.fields.map Prod.fst).Nodup := by
    simp only [fields, List.map_cons, List.map_nil]
    decide
  have hFirst : (record s.fields).get "first".toList = _ := get_field hNodup rfl
  have hLast : (record s.fields).get "last".toList = _ := get_field hNodup rfl
  have hPrevious : (record s.fields).get "previous".toList = _ := get_field hNodup rfl
  simp only [read, hFirst, hLast, hPrevious, optional_string]
  rfl

/-- The tag written sends the data back to the reader of its own variant. -/
theorem MarketPayload.read_data (p : MarketPayload) : read p.tag p.data = some p := by
  cases p with
  | ticker t =>
    change read "ticker".toList (record t.fields) = _
    rw [read, if_pos rfl, Ticker.read_record, Option.map_some]
  | candle c =>
    change read "candle".toList (record c.fields) = _
    rw [read, if_neg (by decide), if_pos rfl, Candle.read_record, Option.map_some]

theorem SubscriptionKey.read_record (k : SubscriptionKey) : read (record k.fields) = some k := by
  have hNodup : (k.fields.map Prod.fst).Nodup := by
    simp only [fields, List.map_cons, List.map_nil]
    decide
  have hProvider : (record k.fields).get "provider".toList = _ := get_field hNodup rfl
  have hMarket : (record k.fields).get "market".toList = _ := get_field hNodup rfl
  have hSymbol : (record k.fields).get "symbol".toList = _ := get_field hNodup rfl
  have hChannel : (record k.fields).get "channel".toList = _ := get_field hNodup rfl
  rw [read, hProvider, hMarket, hSymbol, hChannel]
  simp [required, named_provider, named_market, named_channel, asStr]

variable [UuidText]

/-- An epoch is read from its display. -/
theorem readUuid_display (uuid : Uuid) : readUuid (.string (UuidText.display uuid)) = some uuid :=
  UuidText.parse_display uuid

/-- No member of an event frame repeats, the flattened ones included. -/
theorem MarketEvent.fields_nodup (e : MarketEvent) : (e.fields.map Prod.fst).Nodup := by
  simp only [fields, MarketPayload.fields, List.map_cons, List.map_nil, List.cons_append,
    List.nil_append]
  decide

/-- Reading an event undoes writing it. -/
theorem MarketEvent.read_record (e : MarketEvent) : read (record e.fields) = some e := by
  have hNodup := e.fields_nodup
  -- every member is found under its own name
  have hSchema : (record e.fields).get "schema_version".toList = _ := get_field hNodup rfl
  have hStream : (record e.fields).get "stream_epoch".toList = _ := get_field hNodup rfl
  have hSequence : (record e.fields).get "delivery_sequence".toList = _ := get_field hNodup rfl
  have hConnection : (record e.fields).get "connection_epoch".toList = _ := get_field hNodup rfl
  have hInstrument : (record e.fields).get "instrument_id".toList = _ := get_field hNodup rfl
  have hProvider : (record e.fields).get "provider".toList = _ := get_field hNodup rfl
  have hMarket : (record e.fields).get "market".toList = _ := get_field hNodup rfl
  have hSymbol : (record e.fields).get "symbol".toList = _ := get_field hNodup rfl
  have hExchange : (record e.fields).get "exchange_time_ms".toList = _ := get_field hNodup rfl
  have hReceived : (record e.fields).get "gateway_received_time_ms".toList = _ :=
    get_field hNodup rfl
  have hSource : (record e.fields).get "source_sequence".toList = _ := get_field hNodup rfl
  have hTag : (record e.fields).get "type".toList = _ := get_field hNodup rfl
  have hData : (record e.fields).get "data".toList = _ := get_field hNodup rfl
  have hSequences : optional SourceSequence.read
      (e.sourceSequence.map fun s => record s.fields) = some e.sourceSequence :=
    optional_map _ SourceSequence.read_record (fun _ => nofun) _
  simp only [read, hSchema, hStream, hSequence, hConnection, hInstrument, hProvider, hMarket,
    hSymbol, hExchange, hReceived, hSource, hTag, hData, hSequences, optional_natural]
  simp [required, asStr, natural, asU64, Number.asU64, readUuid_display, named_provider,
    named_market, MarketPayload.read_data]

/-- The `type` of a control frame. -/
def ControlMessage.tag : ControlMessage → Text
  | .hello .. => "hello".toList
  | .ack .. => "ack".toList
  | .error .. => "error".toList
  | .pong _ => "pong".toList
  | .gap .. => "gap".toList

/-- No member of a control frame repeats. -/
theorem ControlMessage.fields_nodup (m : ControlMessage) : (m.fields.map Prod.fst).Nodup := by
  cases m <;>
    · simp only [fields, List.map_cons, List.map_nil]
      decide

/-- A control frame says its type. -/
theorem ControlMessage.get_tag (m : ControlMessage) :
    (record m.fields).get "type".toList = some (.string m.tag) := by
  refine get_field m.fields_nodup ?_
  cases m <;> rfl

omit [UuidText] in
/-- The tags of the two kinds of frames are different. -/
theorem ControlMessage.tag_control (m : ControlMessage) :
    ¬ (m.tag = "ticker".toList ∨ m.tag = "candle".toList) := by
  -- the tags are words, each other than the two of events
  cases m with
  | hello =>
    change ¬ ("hello".toList = _ ∨ "hello".toList = _)
    decide
  | ack =>
    change ¬ ("ack".toList = _ ∨ "ack".toList = _)
    decide
  | error =>
    change ¬ ("error".toList = _ ∨ "error".toList = _)
    decide
  | pong =>
    change ¬ ("pong".toList = _ ∨ "pong".toList = _)
    decide
  | gap =>
    change ¬ ("gap".toList = _ ∨ "gap".toList = _)
    decide

/-- Reading a control message by its own type undoes writing it. -/
theorem ControlMessage.read_record (m : ControlMessage) :
    read m.tag (record m.fields) = some m := by
  -- each member is found under its own name, whatever the order
  have hNodup := m.fields_nodup
  cases m with
  | hello streamEpoch maxSubscriptions maxProviderSubscriptions =>
    have hEpoch : (record _).get "stream_epoch".toList = _ := get_field hNodup rfl
    have hMax : (record _).get "max_subscriptions".toList = _ := get_field hNodup rfl
    have hProvider : (record _).get "max_provider_subscriptions".toList = _ := get_field hNodup rfl
    change read "hello".toList _ = _
    rw [read, if_pos rfl]
    simp only [hEpoch, hMax, hProvider]
    simp [required, natural, asU64, Number.asU64, readUuid_display]
  | ack requestId operation subscriptions =>
    have hId : (record _).get "request_id".toList = _ := get_field hNodup rfl
    have hOperation : (record _).get "operation".toList = _ := get_field hNodup rfl
    have hKeys : (record _).get "subscriptions".toList = _ := get_field hNodup rfl
    have hList := listOf_map SubscriptionKey.read_record subscriptions
    change read "ack".toList _ = _
    rw [read, if_neg (by decide), if_pos rfl]
    simp only [hId, hOperation, hKeys]
    simp [required, asStr, hList]
  | error requestId code message =>
    have hId : (record _).get "request_id".toList = _ := get_field hNodup rfl
    have hCode : (record _).get "code".toList = _ := get_field hNodup rfl
    have hMessage : (record _).get "message".toList = _ := get_field hNodup rfl
    change read "error".toList _ = _
    rw [read, if_neg (by decide), if_neg (by decide), if_pos rfl]
    simp only [hId, hCode, hMessage]
    simp [optional_string, required, asStr, named_errorCode]
  | pong requestId =>
    have hId : (record _).get "request_id".toList = _ := get_field hNodup rfl
    change read "pong".toList _ = _
    rw [read, if_neg (by decide), if_neg (by decide), if_neg (by decide), if_pos rfl]
    simp only [hId]
    simp [required, asStr]
  | gap droppedMessages message =>
    have hDropped : (record _).get "dropped_messages".toList = _ := get_field hNodup rfl
    have hMessage : (record _).get "message".toList = _ := get_field hNodup rfl
    change read "gap".toList _ = _
    rw [read, if_neg (by decide), if_neg (by decide), if_neg (by decide), if_neg (by decide),
      if_pos rfl]
    simp only [hDropped, hMessage]
    simp [required, asStr, natural, asU64, Number.asU64]

/-- A frame is read as what it is: an event has no `type` of a control message. -/
theorem Frame.read_record (f : Frame) : read (record f.fields) = some f := by
  cases f with
  | event e =>
    have hTag : (record e.fields).get "type".toList = some (.string e.payload.tag) :=
      get_field e.fields_nodup rfl
    have hKind : e.payload.tag = "ticker".toList ∨ e.payload.tag = "candle".toList := by
      cases e.payload with
      | ticker t => exact .inl rfl
      | candle c => exact .inr rfl
    rw [read, fields, hTag]
    simp only [required, asStr, Option.bind_some, Option.bind_eq_bind, if_pos hKind,
      MarketEvent.read_record, Option.map_some]
  | control m =>
    rw [read, fields, m.get_tag]
    simp only [required, asStr, Option.bind_some, Option.bind_eq_bind, if_neg m.tag_control,
      ControlMessage.read_record, Option.map_some]

end RoundTrip

/-- **Round trip.** Whatever a frame holds, its text is one document and nothing
else, and a client that knows the format reads the frame from it: every field of
an event or a control message survives, an absent one as absent, and no frame is
taken for another. -/
theorem frame_round_trip [UuidText] (f : Frame) : Frame.ofText f.text = some f := by
  have hPlain : (record f.fields).Plain := by
    cases f with
    | event e => exact e.plain
    | control m => exact m.plain
  rw [Frame.ofText, Frame.text, Value.read_display hPlain, Option.bind_some, Frame.read_record]

example [UuidText] : (Frame.control (.pong "p1".toList)).text =
    "\x7b\"type\":\"pong\",\"schema_version\":1,\"request_id\":\"p1\"\x7d".toList := rfl

end MarketStreamGateway
