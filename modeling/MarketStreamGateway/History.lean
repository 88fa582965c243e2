import MarketStreamGateway.Domain
import MarketStreamGateway.Lib.Text

/-!
# Market Stream Gateway — historical candles

`history.rs`: requests, the row decoders of the six venues, the pagination
loops and the normalization of their result. A `HistoryRequest` carries the
checks its constructor made.

HTTP and the JSON deserializer are outside. A venue is a function from the
queries it was sent so far, the latest first, to what the deserializer makes of
the body; a body the source deserializes twice has two such results. A
`RawValue` is a raw JSON token: a string, decoded or not, or a bare token. An
index into a row or a column carries the bound that the length check before it
established, so that no access can panic.

The loops count their pages down from `maxUpstreamPages`; `count_page` fails
where the count reaches zero.
-/

namespace MarketStreamGateway.History

open Lib

/-- One minute: the interval of every candle, and the boundary every bound is on. -/
def candleIntervalMs : Nat := 60000
/-- The candles one request may ask for, over a range of at most `maxHistoryRangeMs`. -/
def maxHistoryCandles : Nat := 10000
def maxHistoryRangeMs : Nat := 600000000

/-- Rows a page of each venue holds. The KuCoin, MEXC and BingX limits set the
width of a window too. -/
def bybitPageLimit : Nat := 1000
def binancePageLimit : Nat := 1500
def okxPageLimit : Nat := 300
def kucoinPageLimit : Nat := 500
def mexcPageLimit : Nat := 2000
def bingxPageLimit : Nat := 1440
/-- The pages one request may cost a venue. -/
def maxUpstreamPages : Nat := 40

/-! ## Errors -/

/-- Why a request got no candles. The first is the client's doing, the last a
venue whose pages do not advance. -/
inductive HistoryError where
  | invalidRequest (message : Text)
  | transport (provider : Provider) (source : Text)
  | httpStatus (provider : Provider) (status : Nat) (message : Text)
  | providerRejected (provider : Provider) (code message : Text)
  | invalidPayload (provider : Provider) (message : Text)
  | paginationStalled (provider : Provider) (cursorMs : Nat)
  deriving DecidableEq, Repr

/-! ## Requests -/

section Requests

variable [Unicode]

/-- The symbol check of Bybit and KuCoin: ASCII letters and digits, at least one. -/
def asciiAlphanumeric (value : Text) : Bool :=
  !value.isEmpty && value.all fun c => c.isAlphanum

/-- The symbol check of Binance, which lists symbols outside ASCII. -/
def unicodeAlphanumeric (value : Text) : Bool :=
  !value.isEmpty && value.all Unicode.isAlphanumeric

def endsWith (suffix value : Text) : Bool := suffix.isSuffixOf value

/-- The quote currencies of a separated symbol. -/
def isQuote (quote : Text) : Bool := quote = "USDT".toList || quote = "USDC".toList

/-- A base and a quote around the first separator. The base ends at the first
separator, so it never contains one; the source checks again. -/
def validatePair (separator : Char) (symbol : Text) : Bool :=
  match Text.splitOnce separator symbol with
  | none => false
  | some (base, quote) => !base.contains separator && asciiAlphanumeric base && isQuote quote

/-- An OKX symbol is a pair with the suffix of a swap. -/
def validateOkxSymbol (symbol : Text) : Bool :=
  match Text.stripSuffix "-SWAP".toList symbol with
  | none => false
  | some pair => validatePair '-' pair

def validateMexcSymbol (symbol : Text) : Bool := validatePair '_' symbol

def validateBingxSymbol (symbol : Text) : Bool := validatePair '-' symbol

/-- The symbol grammar of a venue. -/
def validProviderSymbol (provider : Provider) (symbol : Text) : Bool :=
  match provider with
  | .bybit => asciiAlphanumeric symbol &&
      (endsWith "USDT".toList symbol || endsWith "USDC".toList symbol)
  | .binance => unicodeAlphanumeric symbol &&
      (endsWith "USDT".toList symbol || endsWith "USDC".toList symbol)
  | .okx => validateOkxSymbol symbol
  | .kucoin => asciiAlphanumeric symbol &&
      (endsWith "USDTM".toList symbol || endsWith "USDCM".toList symbol)
  | .mexc => validateMexcSymbol symbol
  | .bingx => validateBingxSymbol symbol

/-- A validated request for one-minute buckets in `[startTimeMs, endTimeMs)`. -/
structure HistoryRequest where
  provider : Provider
  symbol : Text
  startTimeMs : Nat
  endTimeMs : Nat
  limit : Nat
  normalized : normalizeSymbol symbol = .ok symbol
  venueSymbol : validProviderSymbol provider symbol = true
  start_pos : startTimeMs ≠ 0
  start_aligned : candleIntervalMs ∣ startTimeMs
  end_aligned : candleIntervalMs ∣ endTimeMs
  start_lt_end : startTimeMs < endTimeMs
  range_le : endTimeMs - startTimeMs ≤ maxHistoryRangeMs
  limit_mem : 1 ≤ limit ∧ limit ≤ maxHistoryCandles

/-- Validate a bounded one-minute history request. -/
def HistoryRequest.new (provider : Provider) (symbol : Text) (startTimeMs endTimeMs limit : Nat) :
    Except HistoryError HistoryRequest :=
  match hNormalized : normalizeSymbol symbol with
  | .error error => .error (.invalidRequest error.display)
  | .ok normalized =>
    if hExact : symbol ≠ normalized then
      .error (.invalidRequest
        "symbol must be the exact uppercase venue symbol without surrounding whitespace".toList)
    else if hVenue : ¬ validProviderSymbol provider normalized then
      .error (.invalidRequest (normalized ++ " is not an exact ".toList ++ provider.display ++
        " linear perpetual symbol".toList))
    else if hBounds : startTimeMs = 0 ∨ ¬ candleIntervalMs ∣ startTimeMs ∨
        ¬ candleIntervalMs ∣ endTimeMs then
      .error (.invalidRequest "history bounds must be positive UTC minute boundaries".toList)
    else if hOrder : endTimeMs < startTimeMs then
      .error (.invalidRequest "end_time_ms must be greater than start_time_ms".toList)
    else if hRange : endTimeMs - startTimeMs = 0 then
      .error (.invalidRequest "end_time_ms must be greater than start_time_ms".toList)
    else if hWide : endTimeMs - startTimeMs > maxHistoryRangeMs then
      .error (.invalidRequest ("history range exceeds ".toList ++ Text.ofNat maxHistoryRangeMs ++
        " milliseconds".toList))
    else if hLimit : ¬ (1 ≤ limit ∧ limit ≤ maxHistoryCandles) then
      .error (.invalidRequest ("history limit must be between 1 and ".toList ++
        Text.ofNat maxHistoryCandles))
    else
      .ok {
        provider, symbol := normalized, startTimeMs, endTimeMs, limit
        normalized := by rw [not_not] at hExact; rw [← hNormalized, hExact]
        venueSymbol := by simpa using hVenue
        start_pos := fun h => hBounds (Or.inl h)
        start_aligned := by tauto
        end_aligned := by tauto
        start_lt_end := by omega
        range_le := by omega
        limit_mem := by simpa using hLimit }

end Requests

/-! ## Decoding rows -/

/-- A raw JSON token. -/
inductive RawValue where
  /-- A string token, with what `from_str::<String>` makes of it. -/
  | string (decoded : Except Text Text)
  | bare (token : Text)

/-- The text of a number, quoted or bare. A string that cannot be decoded is
refused under the name of its field. -/
def rawDecimal (provider : Provider) (value : RawValue) (field : Text) : Except HistoryError Text :=
  match value with
  | .string (.ok text) => .ok text
  | .string (.error error) =>
    .error (.invalidPayload provider ("invalid ".toList ++ field ++ ": ".toList ++ error))
  | .bare token => .ok token

/-- Digits only: no sign, no blank, no separator. A number past `u64` is
refused with a text of its own. -/
def parseU64Text (provider : Provider) (value field : Text) : Except HistoryError Nat :=
  if value.isEmpty || !value.all Char.isDigit then
    .error (.invalidPayload provider (field ++ " must be an unsigned integer".toList))
  else match Text.parseU64 value with
    | some n => .ok n
    | none => .error (.invalidPayload provider (field ++ " is out of range".toList))

/-- An unsigned integer, quoted or bare. -/
def rawU64 (provider : Provider) (value : RawValue) (field : Text) : Except HistoryError Nat := do
  parseU64Text provider (← rawDecimal provider value field) field

/-- The check before a row is indexed; a row that passes it has the cells that
are read. -/
def requireLen (provider : Provider) (actual expected : Nat) :
    Except HistoryError (PLift (actual = expected)) :=
  if h : actual = expected then .ok ⟨h⟩
  else .error (.invalidPayload provider ("candle row has ".toList ++ Text.ofNat actual ++
    " fields; expected ".toList ++ Text.ofNat expected))

/-- `checked_add` of one minute. -/
def addInterval (provider : Provider) (timeMs : Nat) (message : Text) : Except HistoryError Nat :=
  if timeMs + candleIntervalMs ≤ u64Max then .ok (timeMs + candleIntervalMs)
  else .error (.invalidPayload provider message)

/-- Venues that say nothing about finality: a bucket is closed once the
server's clock has passed its end. -/
def elapsedFinality (endTimeMs serverTimeMs : Nat) : CandleFinality :=
  if endTimeMs ≤ serverTimeMs then .closed else .open

/-- What a row decoder found in its row, before any decimal is parsed. -/
structure CandleFields where
  startTimeMs : Nat
  openPrice : Text
  high : Text
  low : Text
  close : Text
  baseVolume : Option Text
  quoteVolume : Option Text
  contractVolume : Option Text
  finality : CandleFinality
  dataQuality : List DataQuality

section Rows

variable [RustDecimal]

/-- `history::decimal`: scientific notation is expanded, anything else kept. -/
def decimal (provider : Provider) (value field : Text) : Except HistoryError DecimalValue := do
  let normalized ←
    -- the marker alone decides; `from_scientific` refuses a text without one
    if value.any fun c => c = 'e' || c = 'E' then
      match RustDecimal.fromScientific value with
      | some parsed => .ok (RustDecimal.toText parsed)
      | none =>
        .error (.invalidPayload provider ("invalid ".toList ++ field ++ ": ".toList ++ value))
    else .ok value
  match DecimalValue.new normalized with
  | .ok parsed => .ok parsed
  | .error error =>
    .error (.invalidPayload provider ("invalid ".toList ++ field ++ ": ".toList ++ error.display))

/-- A decimal that a venue may leave out. -/
def optionalDecimal (provider : Provider) (value : Option Text) (field : Text) :
    Except HistoryError (Option DecimalValue) :=
  match value with
  | none => .ok none
  | some value => (decimal provider value field).map some

/-- From the texts of a row to a candle: aligned start, decimals in the order
the source parses them, and the checks of `Candle::validate` last. -/
def buildCandle (provider : Provider) (fields : CandleFields) : Except HistoryError Candle := do
  if ¬ candleIntervalMs ∣ fields.startTimeMs then
    throw (.invalidPayload provider ("candle start ".toList ++ Text.ofNat fields.startTimeMs ++
      " is not a UTC minute boundary".toList))
  let endTimeMs ← addInterval provider fields.startTimeMs "candle end timestamp overflow".toList
  let openPrice ← decimal provider fields.openPrice "open".toList
  let high ← decimal provider fields.high "high".toList
  let low ← decimal provider fields.low "low".toList
  let close ← decimal provider fields.close "close".toList
  let baseVolume ← optionalDecimal provider fields.baseVolume "base volume".toList
  let quoteVolume ← optionalDecimal provider fields.quoteVolume "quote volume".toList
  let contractVolume ← optionalDecimal provider fields.contractVolume "contract volume".toList
  let candle : Candle :=
    { interval := "1m".toList, startTimeMs := fields.startTimeMs, endTimeMs
      openPrice, high, low, close, baseVolume, quoteVolume, contractVolume
      finality := fields.finality, dataQuality := fields.dataQuality }
  match candle.validate with
  | .ok () => .ok candle
  | .error error => .error (.invalidPayload provider error.display)

end Rows

/-! ## Bybit -/

/-- The parameters of a page; `stop` is inclusive. -/
structure BybitQuery where
  category : Text
  symbol : Text
  interval : Text
  start : Nat
  stop : Nat
  limit : Nat

/-- What every Bybit answer says, a refusal included. -/
structure BybitHeader where
  retCode : Int
  retMsg : Text

structure BybitResponse where
  retCode : Int
  category : Text
  symbol : Text
  list : List (List Text)
  time : Nat

/-- The two deserializations of a body. -/
structure BybitBody where
  header : Except HistoryError BybitHeader
  response : Except HistoryError BybitResponse

section Bybit

variable [RustDecimal]

/-- Seven cells, all strings; the server's clock decides the finality. -/
def parseBybitRow (row : List Text) (serverTimeMs : Nat) : Except HistoryError Candle := do
  let ⟨hLen⟩ ← requireLen .bybit row.length 7
  let cell (i : Fin 7) : Text := row.get (i.cast hLen.symm)
  let startTimeMs ← parseU64Text .bybit (cell 0) "start time".toList
  let endTimeMs ← addInterval .bybit startTimeMs "candle end timestamp overflow".toList
  buildCandle .bybit
    { startTimeMs
      openPrice := cell 1, high := cell 2, low := cell 3, close := cell 4
      baseVolume := some (cell 5), quoteVolume := some (cell 6)
      contractVolume := none
      finality := elapsedFinality endTimeMs serverTimeMs, dataQuality := [] }

/-- A refusal is read from the header. The answer must be about what was asked. -/
def parseBybit (body : BybitBody) (expectedSymbol : Text) : Except HistoryError (List Candle) := do
  let header ← body.header
  if header.retCode ≠ 0 then
    throw (.providerRejected .bybit (Text.ofInt header.retCode) header.retMsg)
  -- the whole envelope is read only once the header says success
  let response ← body.response
  if response.retCode ≠ 0 then
    throw (.invalidPayload .bybit "successful envelope changed retCode while parsing".toList)
  if response.category ≠ "linear".toList ∨ response.symbol ≠ expectedSymbol then
    throw (.invalidPayload .bybit "response category or symbol does not match request".toList)
  response.list.mapM fun row => parseBybitRow row response.time

end Bybit

/-! ## Binance -/

/-- The parameters of a page; `endTime` is inclusive and the same on every page. -/
structure BinanceQuery where
  symbol : Text
  interval : Text
  startTime : Nat
  endTime : Nat
  limit : Nat

structure BinanceTime where
  serverTime : Nat

/-- The close time a venue prints is one millisecond before the end. -/
def requireCloseTime (provider : Provider) (closeTimeMs endTimeMs : Nat) (message : Text) :
    Except HistoryError Unit :=
  if closeTimeMs + 1 ≤ u64Max ∧ closeTimeMs + 1 = endTimeMs then .ok ()
  else .error (.invalidPayload provider message)

section Binance

variable [RustDecimal]

/-- Twelve cells. The close time is redundant, and checked against the open time. -/
def parseBinanceRow (row : List RawValue) (serverTimeMs : Nat) : Except HistoryError Candle := do
  let ⟨hLen⟩ ← requireLen .binance row.length 12
  let cell (i : Fin 12) : RawValue := row.get (i.cast hLen.symm)
  let startTimeMs ← rawU64 .binance (cell 0) "open time".toList
  let closeTimeMs ← rawU64 .binance (cell 6) "close time".toList
  let endTimeMs ← addInterval .binance startTimeMs "candle end timestamp overflow".toList
  requireCloseTime .binance closeTimeMs endTimeMs
    "one-minute close time is not open time plus 59,999 milliseconds".toList
  let openPrice ← rawDecimal .binance (cell 1) "open".toList
  let high ← rawDecimal .binance (cell 2) "high".toList
  let low ← rawDecimal .binance (cell 3) "low".toList
  let close ← rawDecimal .binance (cell 4) "close".toList
  let baseVolume ← rawDecimal .binance (cell 5) "base volume".toList
  let quoteVolume ← rawDecimal .binance (cell 7) "quote volume".toList
  buildCandle .binance
    { startTimeMs, openPrice, high, low, close
      baseVolume := some baseVolume, quoteVolume := some quoteVolume, contractVolume := none
      finality := elapsedFinality endTimeMs serverTimeMs, dataQuality := [] }

/-- Binance answers with bare rows; one bad row refuses the page. -/
def parseBinance (rows : List (List RawValue)) (serverTimeMs : Nat) :
    Except HistoryError (List Candle) :=
  rows.mapM fun row => parseBinanceRow row serverTimeMs

/-- The clock that decides finality, asked for once before the pages. -/
def parseBinanceServerTime (response : BinanceTime) : Except HistoryError Nat :=
  if response.serverTime = 0 then
    .error (.invalidPayload .binance "serverTime must be positive".toList)
  else .ok response.serverTime

end Binance

/-! ## OKX -/

/-- The parameters of a page: `after` and `before` are cursors, both exclusive. -/
structure OkxQuery where
  instId : Text
  bar : Text
  after : Nat
  before : Nat
  limit : Nat

structure OkxHeader where
  code : Text
  msg : Text

structure OkxResponse where
  code : Text
  data : List (List Text)

/-- The two deserializations of a body. -/
structure OkxBody where
  header : Except HistoryError OkxHeader
  response : Except HistoryError OkxResponse

section Okx

variable [RustDecimal]

/-- OKX says itself which candles are final, in the last of nine cells. -/
def parseOkxRow (row : List Text) : Except HistoryError Candle := do
  let ⟨hLen⟩ ← requireLen .okx row.length 9
  let cell (i : Fin 9) : Text := row.get (i.cast hLen.symm)
  let finality ←
    if cell 8 = "0".toList then .ok CandleFinality.open
    else if cell 8 = "1".toList then .ok CandleFinality.closed
    else .error (.invalidPayload .okx ("unknown confirm value ".toList ++ cell 8))
  let startTimeMs ← parseU64Text .okx (cell 0) "start time".toList
  buildCandle .okx
    { startTimeMs
      openPrice := cell 1, high := cell 2, low := cell 3, close := cell 4
      contractVolume := some (cell 5), baseVolume := some (cell 6), quoteVolume := some (cell 7)
      finality, dataQuality := [] }

/-- A refusal is read from the header; the instrument is not echoed. -/
def parseOkx (body : OkxBody) : Except HistoryError (List Candle) := do
  let header ← body.header
  if header.code ≠ "0".toList then throw (.providerRejected .okx header.code header.msg)
  let response ← body.response
  if response.code ≠ "0".toList then
    throw (.invalidPayload .okx "successful envelope changed code while parsing".toList)
  response.data.mapM parseOkxRow

end Okx

/-! ## KuCoin -/

/-- The parameters of a window; KuCoin takes no limit. -/
structure KucoinQuery where
  symbol : Text
  granularity : Text
  start : Nat
  stop : Nat

structure KucoinHeader where
  code : Text
  msg : Text

structure KucoinResponse where
  code : Text
  data : List (List RawValue)

/-- The two deserializations of a body. -/
structure KucoinBody where
  header : Except HistoryError KucoinHeader
  response : Except HistoryError KucoinResponse

section Kucoin

variable [RustDecimal]

/-- The volumes and the turnover of a row are not read, and the candle says why. -/
def parseKucoinRow (row : List RawValue) : Except HistoryError Candle := do
  let ⟨hLen⟩ ← requireLen .kucoin row.length 7
  let cell (i : Fin 7) : RawValue := row.get (i.cast hLen.symm)
  let startTimeMs ← rawU64 .kucoin (cell 0) "start time".toList
  let openPrice ← rawDecimal .kucoin (cell 1) "open".toList
  let high ← rawDecimal .kucoin (cell 2) "high".toList
  let low ← rawDecimal .kucoin (cell 3) "low".toList
  let close ← rawDecimal .kucoin (cell 4) "close".toList
  buildCandle .kucoin
    { startTimeMs, openPrice, high, low, close
      baseVolume := none, quoteVolume := none, contractVolume := none
      finality := .unknown, dataQuality := [.providerVolumeUntrusted] }

/-- A refusal is read from the header. -/
def parseKucoin (body : KucoinBody) : Except HistoryError (List Candle) := do
  let header ← body.header
  if header.code ≠ "200000".toList then throw (.providerRejected .kucoin header.code header.msg)
  let response ← body.response
  if response.code ≠ "200000".toList then
    throw (.invalidPayload .kucoin "successful envelope changed code while parsing".toList)
  response.data.mapM parseKucoinRow

end Kucoin

/-! ## MEXC -/

/-- The parameters of a window, in seconds. -/
structure MexcQuery where
  symbol : Text
  interval : Text
  start : Nat
  stop : Nat

/-- One array for each field of the candles. -/
structure MexcHistoryData where
  time : List RawValue
  openPrice : List RawValue
  close : List RawValue
  high : List RawValue
  low : List RawValue
  vol : List RawValue
  amount : List RawValue

structure MexcHistoryEnvelope where
  success : Bool
  code : Int
  data : MexcHistoryData

structure MexcTimeEnvelope where
  success : Bool
  code : Int
  data : Nat

/-- MEXC reports a refusal in two fields, which the error shows side by side. -/
def mexcRejected (success : Bool) (code : Int) : HistoryError :=
  .providerRejected .mexc (Text.ofInt code)
    ("success=".toList ++ if success then "true".toList else "false".toList)

/-- The parallel arrays have one length. -/
structure MexcHistoryData.Parallel (data : MexcHistoryData) : Prop where
  openPrice : data.openPrice.length = data.time.length
  close : data.close.length = data.time.length
  high : data.high.length = data.time.length
  low : data.low.length = data.time.length
  vol : data.vol.length = data.time.length
  amount : data.amount.length = data.time.length

/-- The check of one array. -/
def requireParallel (field : Text) (actual expected : Nat) :
    Except HistoryError (PLift (actual = expected)) :=
  if h : actual = expected then .ok ⟨h⟩
  else .error (.invalidPayload .mexc ("parallel ".toList ++ field ++ " array has ".toList ++
    Text.ofNat actual ++ " rows; expected ".toList ++ Text.ofNat expected))

/-- The loop of `parse_mexc` over the six arrays. -/
def MexcHistoryData.parallel (data : MexcHistoryData) :
    Except HistoryError (PLift data.Parallel) := do
  let ⟨hOpen⟩ ← requireParallel "open".toList data.openPrice.length data.time.length
  let ⟨hClose⟩ ← requireParallel "close".toList data.close.length data.time.length
  let ⟨hHigh⟩ ← requireParallel "high".toList data.high.length data.time.length
  let ⟨hLow⟩ ← requireParallel "low".toList data.low.length data.time.length
  let ⟨hVol⟩ ← requireParallel "vol".toList data.vol.length data.time.length
  let ⟨hAmount⟩ ← requireParallel "amount".toList data.amount.length data.time.length
  return ⟨hOpen, hClose, hHigh, hLow, hVol, hAmount⟩

section Mexc

variable [RustDecimal]

/-- The candle at one index of the arrays. Times are in seconds. -/
def parseMexcRow (data : MexcHistoryData) (h : data.Parallel) (serverTimeMs : Nat)
    (index : Fin data.time.length) : Except HistoryError Candle := do
  let cell {column : List RawValue} (hLen : column.length = data.time.length) : RawValue :=
    column.get (index.cast hLen.symm)
  let seconds ← rawU64 .mexc (data.time.get index) "time".toList
  if u64Max < seconds * 1000 then
    throw (.invalidPayload .mexc "candle start timestamp overflow".toList)
  let startTimeMs := seconds * 1000
  let endTimeMs ← addInterval .mexc startTimeMs "candle end timestamp overflow".toList
  let openPrice ← rawDecimal .mexc (cell h.openPrice) "open".toList
  let high ← rawDecimal .mexc (cell h.high) "high".toList
  let low ← rawDecimal .mexc (cell h.low) "low".toList
  let close ← rawDecimal .mexc (cell h.close) "close".toList
  let quoteVolume ← rawDecimal .mexc (cell h.amount) "quote volume".toList
  let contractVolume ← rawDecimal .mexc (cell h.vol) "contract volume".toList
  buildCandle .mexc
    { startTimeMs, openPrice, high, low, close
      baseVolume := none, quoteVolume := some quoteVolume, contractVolume := some contractVolume
      finality := elapsedFinality endTimeMs serverTimeMs, dataQuality := [] }

/-- The arrays are compared before the first of them is indexed. -/
def parseMexc (response : MexcHistoryEnvelope) (serverTimeMs : Nat) :
    Except HistoryError (List Candle) := do
  if !response.success || response.code ≠ 0 then
    throw (mexcRejected response.success response.code)
  let ⟨hParallel⟩ ← response.data.parallel
  (List.finRange response.data.time.length).mapM
    (parseMexcRow response.data hParallel serverTimeMs)

/-- The clock that decides finality, in milliseconds. -/
def parseMexcServerTime (response : MexcTimeEnvelope) : Except HistoryError Nat :=
  if !response.success || response.code ≠ 0 then
    .error (mexcRejected response.success response.code)
  else if response.data = 0 then
    .error (.invalidPayload .mexc "server time must be positive".toList)
  else .ok response.data

end Mexc

/-! ## BingX -/

/-- The parameters of a window; the limit is the number of its minutes. -/
structure BingxQuery where
  symbol : Text
  interval : Text
  startTime : Nat
  endTime : Nat
  limit : Nat

/-- A candle in the form of an object. -/
structure BingxHistoryObject where
  openPrice : RawValue
  close : RawValue
  high : RawValue
  low : RawValue
  volume : RawValue
  time : RawValue

/-- A raw row, by its first character, with what it is deserialized to. -/
inductive BingxRow where
  | object (fields : Except Text BingxHistoryObject)
  | array (items : Except Text (List RawValue))
  | other

structure BingxHistoryEnvelope where
  code : Int
  msg : Text
  data : List BingxRow

structure BingxTimeEnvelope where
  code : Int
  msg : Text
  serverTime : Nat

section Bingx

variable [RustDecimal]

/-- BingX answers in two forms. An object has no close time and no quote
volume; an array has both, and its close time is checked. -/
def parseBingxRow (row : BingxRow) (serverTimeMs : Nat) : Except HistoryError Candle :=
  match row with
  | .object (.error error) =>
    .error (.invalidPayload .bingx ("invalid object candle row: ".toList ++ error))
  | .object (.ok row) => do
    let startTimeMs ← rawU64 .bingx row.time "time".toList
    let endTimeMs ← addInterval .bingx startTimeMs "candle end timestamp overflow".toList
    let openPrice ← rawDecimal .bingx row.openPrice "open".toList
    let high ← rawDecimal .bingx row.high "high".toList
    let low ← rawDecimal .bingx row.low "low".toList
    let close ← rawDecimal .bingx row.close "close".toList
    let baseVolume ← rawDecimal .bingx row.volume "base volume".toList
    buildCandle .bingx
      { startTimeMs, openPrice, high, low, close
        baseVolume := some baseVolume, quoteVolume := none, contractVolume := none
        finality := elapsedFinality endTimeMs serverTimeMs, dataQuality := [] }
  | .array (.error error) =>
    .error (.invalidPayload .bingx ("invalid array candle row: ".toList ++ error))
  | .array (.ok row) => do
    let ⟨hLen⟩ ← requireLen .bingx row.length 11
    let cell (i : Fin 11) : RawValue := row.get (i.cast hLen.symm)
    let startTimeMs ← rawU64 .bingx (cell 0) "open time".toList
    let endTimeMs ← addInterval .bingx startTimeMs "candle end timestamp overflow".toList
    let closeTimeMs ← rawU64 .bingx (cell 6) "close time".toList
    requireCloseTime .bingx closeTimeMs endTimeMs
      "one-minute candle close time is inconsistent with open time".toList
    let openPrice ← rawDecimal .bingx (cell 1) "open".toList
    let high ← rawDecimal .bingx (cell 2) "high".toList
    let low ← rawDecimal .bingx (cell 3) "low".toList
    let close ← rawDecimal .bingx (cell 4) "close".toList
    let baseVolume ← rawDecimal .bingx (cell 5) "base volume".toList
    let quoteVolume ← rawDecimal .bingx (cell 7) "quote volume".toList
    buildCandle .bingx
      { startTimeMs, openPrice, high, low, close
        baseVolume := some baseVolume, quoteVolume := some quoteVolume, contractVolume := none
        finality := elapsedFinality endTimeMs serverTimeMs, dataQuality := [] }
  | .other => .error (.invalidPayload .bingx "candle row must be an object or array".toList)

/-- The rows may mix the two forms. -/
def parseBingx (response : BingxHistoryEnvelope) (serverTimeMs : Nat) :
    Except HistoryError (List Candle) := do
  if response.code ≠ 0 then
    throw (.providerRejected .bingx (Text.ofInt response.code) response.msg)
  response.data.mapM fun row => parseBingxRow row serverTimeMs

/-- The clock that decides finality. -/
def parseBingxServerTime (response : BingxTimeEnvelope) : Except HistoryError Nat :=
  if response.code ≠ 0 then
    .error (.providerRejected .bingx (Text.ofInt response.code) response.msg)
  else if response.serverTime = 0 then
    .error (.invalidPayload .bingx "serverTime must be positive".toList)
  else .ok response.serverTime

end Bingx

/-! ## The loops -/

/-- A venue's REST endpoints; each answers from the queries sent so far. -/
structure HistoryClient where
  bybit : List BybitQuery → Except HistoryError BybitBody
  binanceTime : Except HistoryError BinanceTime
  binance : List BinanceQuery → Except HistoryError (List (List RawValue))
  okx : List OkxQuery → Except HistoryError OkxBody
  kucoin : List KucoinQuery → Except HistoryError KucoinBody
  mexcTime : Except HistoryError MexcTimeEnvelope
  mexc : List MexcQuery → Except HistoryError MexcHistoryEnvelope
  bingxTime : Except HistoryError BingxTimeEnvelope
  bingx : List BingxQuery → Except HistoryError BingxHistoryEnvelope

/-- From an exclusive bound to the inclusive one a venue takes. -/
def exclusiveQueryEnd (endTimeMs : Nat) : Except HistoryError Nat :=
  if endTimeMs = 0 then
    .error (.invalidRequest "exclusive end timestamp must be positive".toList)
  else .ok (endTimeMs - 1)

section Loops

variable {Query : Type}

/-- The loop of `fetch_bybit` and `fetch_okx`, from the newest page to the
oldest. `query` builds the query for a cursor, `page` fetches and decodes. -/
def fetchBackwards (provider : Provider) (pageLimit startTimeMs : Nat)
    (query : Nat → Except HistoryError Query)
    (page : List Query → Except HistoryError (List Candle)) :
    Nat → List Query → Nat → List Candle → Except HistoryError (List Candle)
  | 0, _, _, _ => .error (.paginationStalled provider 0)
  | pages + 1, asked, cursorEnd, candles => do
    let asked := (← query cursorEnd) :: asked
    let found ← page asked
    match (found.map Candle.startTimeMs).min? with
    -- an empty page: the venue has nothing older
    | none => .ok candles
    | some oldest =>
      -- no progress: the next query would be the one just sent
      if oldest ≥ cursorEnd then .error (.paginationStalled provider cursorEnd)
      else
        let candles := candles ++ found
        -- the range is covered, or the page was not full
        if oldest ≤ startTimeMs ∨ found.length < pageLimit then .ok candles
        else fetchBackwards provider pageLimit startTimeMs query page pages asked oldest candles

/-- The loop of `fetch_binance`, from the oldest page to the newest. -/
def fetchForwards (provider : Provider) (pageLimit endTimeMs : Nat)
    (query : Nat → Except HistoryError Query)
    (page : List Query → Except HistoryError (List Candle)) :
    Nat → List Query → Nat → List Candle → Except HistoryError (List Candle)
  | 0, _, cursorStart, candles =>
    if cursorStart < endTimeMs then .error (.paginationStalled provider 0) else .ok candles
  | pages + 1, asked, cursorStart, candles =>
    if cursorStart < endTimeMs then do
      let asked := (← query cursorStart) :: asked
      let found ← page asked
      match (found.map Candle.startTimeMs).max? with
      | none => .ok candles
      | some newest =>
        let next ← addInterval provider newest "pagination timestamp overflow".toList
        -- no progress: the next query would be the one just sent
        if next ≤ cursorStart then .error (.paginationStalled provider cursorStart)
        else
          let candles := candles ++ found
          -- the range is covered, or the page was not full
          if next ≥ endTimeMs ∨ found.length < pageLimit then .ok candles
          else fetchForwards provider pageLimit endTimeMs query page pages asked next candles
    else .ok candles

/-- The loop of `fetch_kucoin`, `fetch_mexc` and `fetch_bingx`, over windows of
a fixed span. `query` builds the query for a window. -/
def fetchWindows (provider : Provider) (pageSpan endTimeMs : Nat)
    (query : Nat → Nat → Except HistoryError Query)
    (page : List Query → Except HistoryError (List Candle)) :
    Nat → List Query → Nat → List Candle → Except HistoryError (List Candle)
  | 0, _, cursorStart, candles =>
    if cursorStart < endTimeMs then .error (.paginationStalled provider 0) else .ok candles
  | pages + 1, asked, cursorStart, candles =>
    if cursorStart < endTimeMs then do
      -- `saturating_add`, cut to the range
      let pageEnd := min (min (cursorStart + pageSpan) u64Max) endTimeMs
      let asked := (← query cursorStart pageEnd) :: asked
      let candles := candles ++ (← page asked)
      if pageEnd ≤ cursorStart then .error (.paginationStalled provider cursorStart)
      else fetchWindows provider pageSpan endTimeMs query page pages asked pageEnd candles
    else .ok candles

end Loops

section Fetch

variable [RustDecimal] [Unicode]

namespace HistoryClient

/-- From the end of the range down; the lower bound is in every query. -/
def fetchBybit (client : HistoryClient) (request : HistoryRequest) :
    Except HistoryError (List Candle) :=
  fetchBackwards .bybit bybitPageLimit request.startTimeMs
    (fun cursorEnd => do
      return ⟨"linear".toList, request.symbol, "1".toList, request.startTimeMs,
        ← exclusiveQueryEnd cursorEnd, bybitPageLimit⟩)
    (fun asked => do parseBybit (← client.bybit asked) request.symbol)
    maxUpstreamPages [] request.endTimeMs []

/-- From the start of the range up; the upper bound is in every query. -/
def fetchBinance (client : HistoryClient) (request : HistoryRequest) :
    Except HistoryError (List Candle) := do
  let serverTimeMs ← parseBinanceServerTime (← client.binanceTime)
  fetchForwards .binance binancePageLimit request.endTimeMs
    (fun cursorStart => do
      return ⟨request.symbol, "1m".toList, cursorStart, ← exclusiveQueryEnd request.endTimeMs,
        binancePageLimit⟩)
    (fun asked => do parseBinance (← client.binance asked) serverTimeMs)
    maxUpstreamPages [] request.startTimeMs []

/-- OKX cursors are exclusive; one millisecond below the aligned lower bound
includes the candle that opens there. -/
def fetchOkx (client : HistoryClient) (request : HistoryRequest) :
    Except HistoryError (List Candle) :=
  fetchBackwards .okx okxPageLimit request.startTimeMs
    (fun cursorEnd =>
      .ok ⟨request.symbol, "1m".toList, cursorEnd, request.startTimeMs - 1, okxPageLimit⟩)
    (fun asked => do parseOkx (← client.okx asked))
    maxUpstreamPages [] request.endTimeMs []

/-- Windows of as many minutes as a page holds. -/
def fetchKucoin (client : HistoryClient) (request : HistoryRequest) :
    Except HistoryError (List Candle) :=
  fetchWindows .kucoin (kucoinPageLimit * candleIntervalMs) request.endTimeMs
    (fun cursorStart pageEnd => do
      return ⟨request.symbol, "60".toList, cursorStart, ← exclusiveQueryEnd pageEnd⟩)
    (fun asked => do parseKucoin (← client.kucoin asked))
    maxUpstreamPages [] request.startTimeMs []

/-- MEXC takes the start of the last bucket, in seconds, as the end of a window. -/
def fetchMexc (client : HistoryClient) (request : HistoryRequest) :
    Except HistoryError (List Candle) := do
  let serverTimeMs ← parseMexcServerTime (← client.mexcTime)
  fetchWindows .mexc (mexcPageLimit * candleIntervalMs) request.endTimeMs
    (fun cursorStart pageEnd =>
      if pageEnd < candleIntervalMs then
        .error (.invalidPayload .mexc "page end underflow".toList)
      else .ok ⟨request.symbol, "Min1".toList, cursorStart / 1000,
        (pageEnd - candleIntervalMs) / 1000⟩)
    (fun asked => do parseMexc (← client.mexc asked) serverTimeMs)
    maxUpstreamPages [] request.startTimeMs []

/-- The limit of a query is the width of its window in minutes. -/
def fetchBingx (client : HistoryClient) (request : HistoryRequest) :
    Except HistoryError (List Candle) := do
  let serverTimeMs ← parseBingxServerTime (← client.bingxTime)
  fetchWindows .bingx (bingxPageLimit * candleIntervalMs) request.endTimeMs
    (fun cursorStart pageEnd => do
      return ⟨request.symbol, "1m".toList, cursorStart, ← exclusiveQueryEnd pageEnd,
        (pageEnd - cursorStart) / candleIntervalMs⟩)
    (fun asked => do parseBingx (← client.bingx asked) serverTimeMs)
    maxUpstreamPages [] request.startTimeMs []

end HistoryClient

/-! ## The result -/

/-- A candle with the instrument it belongs to. -/
structure HistoryCandle where
  provider : Provider
  market : MarketKind
  symbol : Text
  candle : Candle
  deriving DecidableEq, Repr

/-- What a request is answered with: the range it asked for, and the candles
found in it. -/
structure HistoryResult where
  provider : Provider
  market : MarketKind
  symbol : Text
  startTimeMs : Nat
  endTimeMs : Nat
  candles : List HistoryCandle
  deriving DecidableEq, Repr

/-- A way `sort_unstable_by_key` may order candles by their start. -/
structure UnstableSort where
  sort : List Candle → List Candle
  perm : ∀ candles, (sort candles).Perm candles
  sorted : ∀ candles, (sort candles).Pairwise fun a b => a.startTimeMs ≤ b.startTimeMs

/-- The loop of `finish_result` over the sorted candles. -/
def dropDuplicates (provider : Provider) (unique : List Candle) :
    List Candle → Except HistoryError (List Candle)
  | [] => .ok unique
  | candle :: rest =>
    match unique.getLast? with
    | some previous =>
      if previous.startTimeMs = candle.startTimeMs then
        -- the same minute twice: agreeing candles count once
        if previous ≠ candle then
          .error (.invalidPayload provider
            ("conflicting duplicate candle at ".toList ++ Text.ofNat candle.startTimeMs))
        else dropDuplicates provider unique rest
      else dropDuplicates provider (unique ++ [candle]) rest
    | none => dropDuplicates provider (unique ++ [candle]) rest

/-- Keep the candles inside the range, put them in order, drop repetitions and
cut to the limit, earliest first. -/
def finishResult (unstable : UnstableSort) (request : HistoryRequest) (candles : List Candle) :
    Except HistoryError HistoryResult := do
  -- a candle that reaches over either bound is dropped
  let retained := candles.filter fun candle =>
    request.startTimeMs ≤ candle.startTimeMs && candle.endTimeMs ≤ request.endTimeMs
  let unique ← dropDuplicates request.provider [] (unstable.sort retained)
  let candles := (unique.take request.limit).map fun candle =>
    ⟨request.provider, .linearPerpetual, request.symbol, candle⟩
  return ⟨request.provider, .linearPerpetual, request.symbol, request.startTimeMs,
    request.endTimeMs, candles⟩

/-- Fetch, normalize, order and deduplicate one-minute candles. -/
def HistoryClient.fetch (client : HistoryClient) (unstable : UnstableSort)
    (request : HistoryRequest) : Except HistoryError HistoryResult := do
  let candles ← match request.provider with
    | .bybit => client.fetchBybit request
    | .binance => client.fetchBinance request
    | .okx => client.fetchOkx request
    | .kucoin => client.fetchKucoin request
    | .mexc => client.fetchMexc request
    | .bingx => client.fetchBingx request
  finishResult unstable request candles

end Fetch

end MarketStreamGateway.History
