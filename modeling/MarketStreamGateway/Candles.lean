import MarketStreamGateway.CatalogQueries
import MarketStreamGateway.CommandOutcome
import MarketStreamGateway.HistorySoundness
import MarketStreamGateway.Lib.Flow

/-!
# Market Stream Gateway — the candles endpoint

`candles` of `api.rs`: a query is checked against the catalog, takes one of the
history slots, fetches from the venue while other queries and the refreshes of
the catalog go on, and is answered with what was fetched. MEXC reports volumes in
contracts; `enrich_history_volumes` adds the base volume.

The handler of a query whose client has gone is dropped where it waits, and the
permit with it.

Main results:
* `candles_answered` — in every interleaving the slots and the counters account
  for every query; an answer with candles is about an instrument that was listed
  when the query was made, and an error is the one its cause has.
* `mexc_volumes` — what a venue sent for a listed instrument is refused at the
  enrichment exactly when a product cannot be formed or printed.
-/

namespace MarketStreamGateway

open Lib History

/-- The arithmetic of the `rust_decimal` crate. -/
class DecimalArithmetic where
  checkedMul : Decimal → Decimal → Option Decimal
  normalize : Decimal → Decimal

/-! ## Errors -/

/-- The message of a failure, for the log and for a refused request. -/
def HistoryError.display : HistoryError → Text
  | .invalidRequest message => "invalid history request: ".toList ++ message
  | .transport provider source =>
    provider.display ++ " history transport error: ".toList ++ source
  | .httpStatus provider status message =>
    provider.display ++ " history endpoint returned HTTP ".toList ++ Text.ofNat status ++
      ": ".toList ++ message
  | .providerRejected provider code message =>
    provider.display ++ " rejected history request with code ".toList ++ code ++ ": ".toList ++
      message
  | .invalidPayload provider message =>
    "invalid ".toList ++ provider.display ++ " history payload: ".toList ++ message
  | .paginationStalled provider cursorMs =>
    provider.display ++ " history pagination did not advance from ".toList ++ Text.ofNat cursorMs

/-- An error response: the status and the two members of its body. -/
structure ApiError where
  status : Nat
  code : Text
  message : Text
  deriving DecidableEq

/-- The message is cut to 500 characters. -/
def apiError (status : Nat) (code message : Text) : ApiError := ⟨status, code, message.take 500⟩

/-- The refusal of a request that makes no sense. -/
def invalidRequest (message : Text) : ApiError := apiError 400 "invalid_request".toList message

/-- The refusal of a request that found no slot. -/
def historyBusy : ApiError :=
  apiError 429 "history_busy".toList "too many concurrent history requests".toList

/-- The refusal of a request whose venue failed; the failure itself is not shown. -/
def providerUnavailable (provider : Provider) : ApiError :=
  apiError 502 "provider_unavailable".toList
    (provider.display ++ " history request failed".toList)

/-! ## Queries -/

/-- The parameters of `GET /v1/candles`. -/
structure CandleQuery where
  provider : Provider
  symbol : Text
  startTimeMs : Nat
  endTimeMs : Nat
  limit : Option Nat

section Handler

variable [Unicode]

/-- The checks of a query, up to the history slot. -/
def CandleQuery.admit (catalog : Catalog) (query : CandleQuery) :
    Except ApiError (HistoryRequest × Instrument) :=
  match SubscriptionKey.new query.provider .linearPerpetual query.symbol .candle1m with
  | .error error => .error (invalidRequest error.display)
  | .ok key =>
    match catalog.validateSubscription key with
    | .error error => .error (apiError 422 "unsupported_instrument".toList error.display)
    | .ok instrument =>
      match HistoryRequest.new query.provider key.symbol query.startTimeMs query.endTimeMs
        (query.limit.getD 1000) with
      | .error error => .error (invalidRequest (HistoryError.display error))
      | .ok request => .ok (request, instrument)

variable [RustDecimal] [DecimalArithmetic]

/-- The body of the loop of `enrich_history_volumes`. -/
def enrichCandle (contractSize : Decimal) (row : HistoryCandle) : Except Text HistoryCandle :=
  if row.candle.baseVolume.isSome then .ok row
  else match row.candle.contractVolume with
    | none => .error "MEXC history candle is missing contract volume".toList
    | some contracts => match RustDecimal.fromStr contracts.text with
      | none => .error "MEXC contract volume is not a decimal".toList
      | some contracts => match DecimalArithmetic.checkedMul contracts contractSize with
        | none => .error "MEXC base volume overflowed".toList
        | some product => do
          let baseVolume ←
            (DecimalValue.new (RustDecimal.toText (DecimalArithmetic.normalize product))).mapError
              DomainError.display
          let candle := { row.candle with baseVolume := some baseVolume }
          candle.validate.mapError DomainError.display
          return { row with candle }

/-- MEXC reports volumes in contracts, which the size of a contract turns into
the base asset; the other venues are left alone. -/
def enrichHistoryVolumes (result : HistoryResult) (instrument : Instrument) :
    Except Text HistoryResult :=
  if result.provider ≠ .mexc then .ok result
  else match instrument.contractSize with
    | none => .error "MEXC instrument is missing contract size".toList
    | some contractSize =>
      if instrument.contractSizeAsset ≠ some instrument.baseAsset then
        .error "MEXC contract size is not denominated in the base asset".toList
      else match RustDecimal.fromStr contractSize.text with
        | none => .error "MEXC contract size is not a decimal".toList
        | some contractSize => do
          let candles ← result.candles.mapM (enrichCandle contractSize)
          return { result with candles }

/-- The response to what the fetch returned. -/
def historyResponse (provider : Provider) (instrument : Instrument) :
    Except HistoryError HistoryResult → Except ApiError HistoryResult
  | .ok result => match enrichHistoryVolumes result instrument with
    | .ok result => .ok result
    | .error _ => .error (providerUnavailable provider)
  | .error (.invalidRequest message) => .error (invalidRequest message)
  | .error _ => .error (providerUnavailable provider)

end Handler

/-! ## The endpoint -/

section Endpoint

variable [Unicode]

/-- A query that holds a slot. -/
structure ActiveRequest where
  query : CandleQuery
  request : HistoryRequest
  instrument : Instrument

/-- The catalog, the free permits of `history_slots`, the queries that hold one
and the two counters. -/
structure CandleService where
  refreshing : Refreshing
  historySlots : Nat
  active : List ActiveRequest
  historyRequests : Provider → Nat
  historyFailures : Provider → Nat

/-- The steps of the endpoint. A request is admitted, holds a slot while its
venue is asked, and is answered or dropped. -/
inductive CandleOp where
  | refresh (op : RefreshOp)
  | request (query : CandleQuery)
  /-- The fetch of an active query has ended, after what the venue answered. -/
  | finish (index : Nat) (client : HistoryClient) (unstable : UnstableSort)
  | drop (index : Nat)

/-- How a query ends. -/
inductive CandleOutcome where
  /-- Answered at once. -/
  | refused (query : CandleQuery) (error : ApiError)
  | answered (a : ActiveRequest) (client : HistoryClient)
      (response : Except ApiError HistoryResult)
  | dropped (a : ActiveRequest)

/-- Increment the counter of a provider. -/
def increment (counter : Provider → Nat) (provider : Provider) : Provider → Nat :=
  Function.update counter provider (counter provider + 1)

namespace CandleService

/-- An endpoint without requests. -/
def start (enabledProviders : Finset Provider) (maxHistoryRequests : Nat) : CandleService :=
  ⟨.start enabledProviders, maxHistoryRequests, [], fun _ => 0, fun _ => 0⟩

/-- The catalog the requests are checked against. -/
def catalog (s : CandleService) : Catalog := s.refreshing.catalog

/-- The permit goes back with the end of the handler. -/
def release (s : CandleService) (index : Nat) : CandleService :=
  { s with historySlots := s.historySlots + 1, active := s.active.eraseIdx index }

variable [RustDecimal] [DecimalArithmetic]

/-- A request takes a slot with its admission, and gives it back when its fetch
ends or it is dropped. -/
def step (s : CandleService) : CandleOp → CandleService
  | .refresh op => { s with refreshing := s.refreshing.step op }
  | .request query =>
    match query.admit s.catalog with
    | .error _ => s
    | .ok (request, instrument) =>
      if s.historySlots = 0 then s
      else
        { s with
          historySlots := s.historySlots - 1
          active := s.active ++ [⟨query, request, instrument⟩]
          historyRequests := increment s.historyRequests query.provider }
  | .finish index client unstable =>
    match s.active[index]? with
    | none => s
    | some a =>
      match historyResponse a.query.provider a.instrument (client.fetch unstable a.request) with
      | .ok _ => s.release index
      | .error _ =>
        { s with historyFailures := increment s.historyFailures a.query.provider }.release index
  | .drop index =>
    match s.active[index]? with
    | none => s
    | some _ => s.release index

/-- The query that takes a slot. -/
def asked (s : CandleService) : CandleOp → List ActiveRequest
  | .request query =>
    match query.admit s.catalog with
    | .error _ => []
    | .ok (request, instrument) =>
      if s.historySlots = 0 then [] else [⟨query, request, instrument⟩]
  | _ => []

/-- What a step answers. -/
def outcomes (s : CandleService) : CandleOp → List CandleOutcome
  | .refresh _ => []
  | .request query =>
    match query.admit s.catalog with
    | .error error => [.refused query error]
    | .ok _ => if s.historySlots = 0 then [.refused query historyBusy] else []
  | .finish index client unstable =>
    match s.active[index]? with
    | none => []
    | some a =>
      [.answered a client
        (historyResponse a.query.provider a.instrument (client.fetch unstable a.request))]
  | .drop index =>
    match s.active[index]? with
    | none => []
    | some a => [.dropped a]

end CandleService

end Endpoint

/-! ## What the catalog promises -/

section Promises

variable [Unicode]

/-- A request that is valid holds what it was made from. -/
theorem historyRequest_eq_ok {provider : Provider} {symbol : Text}
    {startTimeMs endTimeMs limit : Nat} {request : HistoryRequest}
    (h : HistoryRequest.new provider symbol startTimeMs endTimeMs limit = .ok request) :
    request.provider = provider ∧ request.symbol = symbol ∧ request.startTimeMs = startTimeMs ∧
      request.endTimeMs = endTimeMs ∧ request.limit = limit := by
  unfold HistoryRequest.new at h
  split at h
  · cases h
  · next normalized hNormalized =>
    split at h
    · cases h
    · next hExact =>
      iterate 6
        split at h
        · cases h
      obtain rfl := Except.ok.inj h
      exact ⟨rfl, (not_not.mp hExact).symm, rfl, rfl, rfl⟩

/-- What the checks have found out about a query that takes a slot. -/
structure AdmittedQuery (catalog : Catalog) (a : ActiveRequest) : Prop where
  listed : a.instrument ∈ catalog.list
  provider : a.instrument.provider = a.query.provider ∧ a.request.provider = a.query.provider
  symbol : normalizeSymbol a.query.symbol = .ok a.request.symbol ∧
    a.instrument.symbol = a.request.symbol
  range : a.request.startTimeMs = a.query.startTimeMs ∧ a.request.endTimeMs = a.query.endTimeMs ∧
    a.request.limit = a.query.limit.getD 1000

/-- How the checks of a query end. -/
def CandleQuery.Checked (query : CandleQuery) (catalog : Catalog) : Prop :=
  (∃ request instrument, query.admit catalog = .ok (request, instrument) ∧
    AdmittedQuery catalog ⟨query, request, instrument⟩) ∨
  (∃ error, query.admit catalog = .error error ∧ error.status = 400) ∨
  ∃ error, query.admit catalog = .error error ∧ error.status = 422 ∧
    ∀ i ∈ catalog.list, i.provider = query.provider →
      normalizeSymbol query.symbol ≠ .ok i.symbol

/-- A query is admitted to an instrument its catalog lists with history, or
refused with the reason. -/
theorem admit_cases {catalog : Catalog} (hListing : catalog.Listing)
    (hDisabled : ∀ p ∉ catalog.enabledProviders, (catalog.providers p).instruments = ∅)
    (query : CandleQuery) : query.Checked catalog := by
  unfold CandleQuery.Checked
  unfold CandleQuery.admit
  cases hKey : SubscriptionKey.new query.provider .linearPerpetual query.symbol .candle1m with
  | error error => exact .inr (.inl ⟨_, rfl, rfl⟩)
  | ok key =>
    obtain ⟨symbol, hSymbol, rfl⟩ := map_eq_ok.mp hKey
    dsimp only
    cases hInstrument : catalog.validateSubscription
        ⟨query.provider, .linearPerpetual, symbol, .candle1m⟩ with
    | error error =>
      refine .inr (.inr ⟨_, rfl, rfl, fun i hi hProvider hName => ?_⟩)
      -- the catalog is asked for the normalized symbol, which a listed one would be
      have hCanonical : normalizeSymbol symbol = .ok symbol := by
        obtain ⟨hFold, hRest⟩ := normalizeSymbol_eq_ok.mp hSymbol
        exact normalizeSymbol_eq_ok.mpr ⟨by rw [hFold, foldSymbol_idem], hRest⟩
      obtain rfl := Except.ok.inj (hSymbol.symm.trans hName)
      have hFound : catalog.validateSubscription
          ⟨query.provider, .linearPerpetual, i.symbol, .candle1m⟩ = .ok i :=
        (validateSubscription_eq_ok hListing hDisabled).mpr
          ⟨by rwa [← list_eq_instruments], hProvider, hCanonical⟩
      rw [hInstrument] at hFound
      cases hFound
    | ok instrument =>
      obtain ⟨hMem, hProvider, hName⟩ :=
        (validateSubscription_eq_ok hListing hDisabled).mp hInstrument
      dsimp only
      cases hRequest : HistoryRequest.new query.provider symbol query.startTimeMs query.endTimeMs
          (query.limit.getD 1000) with
      | error error => exact .inr (.inl ⟨_, rfl, rfl⟩)
      | ok request =>
        obtain ⟨hVenue, hExact, hStart, hEnd, hLimit⟩ := historyRequest_eq_ok hRequest
        have hNormalized := request.normalized
        rw [hExact] at hNormalized
        -- the history request keeps the symbol, so both are about the same instrument
        have hSame : symbol = instrument.symbol := Except.ok.inj (hNormalized.symm.trans hName)
        exact .inl ⟨request, instrument, rfl, by rwa [list_eq_instruments], ⟨hProvider, hVenue⟩,
          ⟨by rw [hExact]; exact hSymbol, by rw [hExact]; exact hSame.symm⟩, hStart, hEnd, hLimit⟩

variable [RustDecimal]

/-- The contract size is a decimal amount of the base asset. -/
def Instrument.Denominated (i : Instrument) : Prop :=
  ∃ contractSize size, i.contractSize = some contractSize ∧
    i.contractSizeAsset = some i.baseAsset ∧ RustDecimal.fromStr contractSize.text = some size

omit [Unicode] in
/-- A decimal value is a text that the decimal crate reads. -/
theorem decimalValue_eq_ok {text : Text} {value : DecimalValue} :
    DecimalValue.new text = .ok value ↔
      value = ⟨text⟩ ∧ ∃ d, RustDecimal.fromStr text = some d := by
  unfold DecimalValue.new
  cases RustDecimal.fromStr text with
  | none => simp
  | some d => simp [eq_comm]

omit [Unicode] in
/-- Every decimal value can be read back. -/
theorem decimalValue_reads {text : Text} {value : DecimalValue}
    (h : DecimalValue.new text = .ok value) : ∃ d, RustDecimal.fromStr value.text = some d := by
  obtain ⟨rfl, hReads⟩ := decimalValue_eq_ok.mp h
  exact hReads

omit [Unicode] in
/-- A size from a listing can be read back. -/
theorem positiveDecimal_reads {provider : Provider} {field : Text} {scalar : WireScalar}
    {value : DecimalValue} (h : positiveDecimal provider field scalar = .ok value) :
    ∃ d, RustDecimal.fromStr value.text = some d := by
  unfold positiveDecimal at h
  dsimp only at h
  obtain ⟨parsed, -, h⟩ := bind_eq_ok.mp h
  split at h
  · exact absurd h throw_bind_ne_ok
  · split at h
    · next hRaw =>
      obtain rfl := Except.ok.inj h
      exact decimalValue_reads hRaw
    · split at h
      · next hPrinted =>
        obtain rfl := Except.ok.inj h
        exact decimalValue_reads hPrinted
      · cases h

/-- MEXC's listing gives every instrument a contract size in its base asset. -/
theorem mexcInstrument_denominated {item : MexcInstrument} {instrument : Instrument}
    (h : mexcInstrument item = .ok (some instrument)) : instrument.Denominated := by
  unfold mexcInstrument at h
  split at h
  · cases h
  · iterate 9 obtain ⟨_, -, h⟩ := bind_eq_ok.mp h
    obtain ⟨contractSize, hSize, h⟩ := bind_eq_ok.mp h
    obtain ⟨_, -, h⟩ := bind_eq_ok.mp h
    obtain rfl := Option.some.inj (Except.ok.inj h)
    obtain ⟨size, hReads⟩ := positiveDecimal_reads hSize
    exact ⟨contractSize, size, rfl, rfl, hReads⟩

omit [Unicode] [RustDecimal] in
/-- What holds of every admitted item holds of the whole listing. -/
theorem insertItems_forall {ι : Type} {P : Instrument → Prop}
    {admission : ι → Except CatalogError (Option Instrument)} {items : List ι}
    (hAdmit : ∀ item instrument, admission item = .ok (some instrument) → P instrument)
    {instruments instruments' : Instruments}
    (hAll : ∀ symbol i, instruments.lookup symbol = some i → P i)
    (h : insertItems admission instruments items = .ok instruments') :
    ∀ symbol i, instruments'.lookup symbol = some i → P i := by
  induction items generalizing instruments with
  | nil =>
    obtain rfl := Except.ok.inj h
    exact hAll
  | cons item items ih =>
    rw [insertItems] at h
    obtain ⟨admitted, hItem, h⟩ := bind_eq_ok.mp h
    cases admitted with
    | none => exact ih hAll h
    | some instrument =>
      obtain ⟨inserted, hInsert, h⟩ := bind_eq_ok.mp h
      refine ih (fun symbol i hFound => ?_) h
      unfold insertUnique at hInsert
      split at hInsert
      · cases hInsert
      · obtain rfl := Except.ok.inj hInsert
        -- what is found is the new instrument or was in the map
        rw [lookup_insert_ite] at hFound
        split at hFound
        · obtain rfl := Option.some.inj hFound
          exact hAdmit item _ hItem
        · exact hAll symbol i hFound

/-- Every instrument of the listing has its contract size. -/
theorem parseMexcCatalog_denominated {body : Except Text MexcEnvelope} {instruments : Instruments}
    (h : parseMexcCatalog body = .ok instruments) :
    ∀ symbol i, instruments.lookup symbol = some i → i.Denominated := by
  obtain ⟨envelope, -, h⟩ := bind_eq_ok.mp h
  split at h
  · cases h
  · obtain ⟨data, -, h⟩ := bind_eq_ok.mp h
    exact insertItems_forall (fun _ _ => mexcInstrument_denominated)
      (fun symbol i hFound => absurd hFound (by simp)) h

/-- In every catalog that refreshes lead to, MEXC contracts are sized in their
base asset. -/
theorem catalog_denominated (enabledProviders : Finset Provider) (ops : List RefreshOp)
    {i : Instrument} (hProvider : i.provider = .mexc)
    (h : i ∈ (run Refreshing.step (.start enabledProviders) ops).catalog.list) :
    i.Denominated := by
  rw [list_eq_instruments, mem_instruments (catalog_listing enabledProviders ops),
    (Refreshing.interleaved enabledProviders ops).snapshots.instruments, hProvider] at h
  cases hLatest : latestListing .mexc
      (trace Refreshing.step Refreshing.completed (.start enabledProviders) ops) with
  | none =>
    rw [hLatest] at h
    cases h
  | some instruments =>
    rw [hLatest] at h
    -- what is listed comes from the latest refresh that succeeded
    obtain ⟨refresh, -, hRefresh⟩ := List.mem_filterMap.mp (List.mem_of_getLast? hLatest)
    split at hRefresh
    · next hMexc =>
      cases hRefreshed : Catalog.refreshed refresh with
      | error error =>
        rw [hRefreshed] at hRefresh
        cases hRefresh
      | ok listed =>
        rw [hRefreshed] at hRefresh
        obtain rfl := Option.some.inj hRefresh
        obtain ⟨fetched, hFetched, hSome⟩ := bind_eq_ok.mp hRefreshed
        split at hSome
        · cases hSome
        · obtain rfl := Except.ok.inj hSome
          rw [hMexc] at hFetched
          obtain ⟨body, -, hParsed⟩ := bind_eq_ok.mp hFetched
          exact parseMexcCatalog_denominated hParsed _ i h
    · cases hRefresh

end Promises

/-! ## What the venue sends -/

section Enrichment

variable [RustDecimal]

/-- A candle of MEXC before the enrichment. -/
structure Candle.InContracts (c : Candle) : Prop where
  valid : c.validate = .ok ()
  baseVolume : c.baseVolume = none
  contractVolume : ∃ contracts d, c.contractVolume = some contracts ∧
    RustDecimal.fromStr contracts.text = some d

/-- A value of a candle can be read back, its exponent worked out. -/
theorem historyDecimal_reads {provider : Provider} {value field : Text} {parsed : DecimalValue}
    (h : History.decimal provider value field = .ok parsed) :
    ∃ d, RustDecimal.fromStr parsed.text = some d := by
  suffices hNew : ∃ normalized, DecimalValue.new normalized = .ok parsed by
    obtain ⟨normalized, hNew⟩ := hNew
    exact decimalValue_reads hNew
  unfold History.decimal at h
  dsimp only at h
  split at h
  · split at h
    · obtain ⟨normalized, -, h⟩ := bind_eq_ok.mp h
      split at h
      · next hNew =>
        obtain rfl := Except.ok.inj h
        exact ⟨normalized, hNew⟩
      · cases h
    · cases h
  · -- without an exponent the text is taken as it is
    obtain ⟨normalized, -, h⟩ := bind_eq_ok.mp h
    split at h
    · next hNew =>
      obtain rfl := Except.ok.inj h
      exact ⟨normalized, hNew⟩
    · cases h

/-- A candle with a contract volume and no base volume is left to be enriched. -/
theorem buildCandle_inContracts {fields : CandleFields} {c : Candle} {contracts : Text}
    (hBase : fields.baseVolume = none) (hContracts : fields.contractVolume = some contracts)
    (h : buildCandle .mexc fields = .ok c) : c.InContracts := by
  have hNone := (buildCandle_built h).baseVolume hBase
  unfold buildCandle at h
  split at h
  · exact absurd h throw_bind_ne_ok
  -- the end, the prices and the two other volumes
  iterate 7 obtain ⟨_, -, h⟩ := bind_eq_ok.mp h
  obtain ⟨contractVolume, hVolume, h⟩ := bind_eq_ok.mp h
  rw [hContracts, optionalDecimal] at hVolume
  obtain ⟨parsed, hParsed, rfl⟩ := map_eq_ok.mp hVolume
  obtain ⟨d, hReads⟩ := historyDecimal_reads hParsed
  dsimp only at h
  split at h
  · next hValid =>
    obtain rfl := Except.ok.inj h
    exact ⟨hValid, hNone, parsed, d, rfl, hReads⟩
  · cases h

/-- Every MEXC row becomes such a candle. -/
theorem parseMexcRow_inContracts {data : MexcHistoryData} {hParallel : data.Parallel}
    {serverTimeMs : Nat} {index : Fin data.time.length} {c : Candle}
    (h : parseMexcRow data hParallel serverTimeMs index = .ok c) : c.InContracts := by
  unfold parseMexcRow at h
  obtain ⟨seconds, -, h⟩ := bind_eq_ok.mp h
  dsimp only at h
  split at h
  · exact absurd h throw_bind_ne_ok
  iterate 6 obtain ⟨_, -, h⟩ := bind_eq_ok.mp h
  obtain ⟨contracts, -, h⟩ := bind_eq_ok.mp h
  exact buildCandle_inContracts rfl rfl h

/-- A MEXC fetch returns such candles only. -/
theorem fetchMexc_inContracts [Unicode] {client : HistoryClient} {request : HistoryRequest}
    {all : List Candle} (h : client.fetchMexc request = .ok all) : ∀ c ∈ all, c.InContracts := by
  unfold HistoryClient.fetchMexc at h
  obtain ⟨time, -, h⟩ := bind_eq_ok.mp h
  obtain ⟨serverTimeMs, -, h⟩ := bind_eq_ok.mp h
  intro c hc
  rcases fetchWindows_origin h c hc with hNone | ⟨asked, found, hPage, hFound⟩
  · exact absurd hNone List.not_mem_nil
  obtain ⟨response, -, hParse⟩ := bind_eq_ok.mp hPage
  obtain ⟨hParallel, index, hRow⟩ := parseMexc_rows hParse hFound
  exact parseMexcRow_inContracts hRow

/-- What a fetch for MEXC returns. -/
theorem fetch_inContracts [Unicode] {client : HistoryClient} {unstable : UnstableSort}
    {request : HistoryRequest} {result : HistoryResult} (hProvider : request.provider = .mexc)
    (h : client.fetch unstable request = .ok result) :
    ∀ row ∈ result.candles, row.candle.InContracts := by
  unfold HistoryClient.fetch at h
  rw [hProvider] at h
  obtain ⟨fetched, hFetched, hFinish⟩ := bind_eq_ok.mp h
  have hSame : finishResult unstable request fetched = .ok result := hFinish
  have hContracts := fetchMexc_inContracts hFetched
  rcases finishResult_cases unstable request fetched with ⟨kept, hOk, hKept⟩ | ⟨start, hErr, -⟩
  · obtain rfl := Except.ok.inj (hSame.symm.trans hOk)
    intro row hRow
    obtain ⟨c, hTaken, rfl⟩ := List.mem_map.mp hRow
    exact hContracts c (List.mem_of_mem_filter ((hKept.mem c).mp (List.mem_of_mem_take hTaken)))
  · rw [hErr] at hSame
    cases hSame

/-! ## The enrichment -/

/-- The check of a volume, as a property. -/
theorem validateVolume_eq_ok {volume : Option DecimalValue} :
    validateVolume volume = .ok () ↔ VolumeSound volume := by
  refine ⟨validateVolume_sound, fun h => ?_⟩
  cases volume with
  | none => rfl
  | some value =>
    obtain ⟨d, hDecimal, hPositive⟩ := h value rfl
    rw [validateVolume, hDecimal, ok_bind, Decimal.lt, hPositive]
    rfl

/-- A valid candle stays valid with another base volume exactly if that is a
decimal and not negative. -/
theorem validate_baseVolume {c : Candle} (hValid : c.validate = .ok ())
    (baseVolume : Option DecimalValue) :
    { c with baseVolume }.validate = .ok () ↔ VolumeSound baseVolume := by
  unfold Candle.validate at hValid ⊢
  split at hValid
  · exact absurd hValid throw_bind_ne_ok
  next hMinute =>
  obtain ⟨openPrice, hOpen, hValid⟩ := bind_eq_ok.mp hValid
  obtain ⟨high, hHigh, hValid⟩ := bind_eq_ok.mp hValid
  obtain ⟨low, hLow, hValid⟩ := bind_eq_ok.mp hValid
  obtain ⟨close, hClose, hValid⟩ := bind_eq_ok.mp hValid
  dsimp only at hValid
  split at hValid
  · exact absurd hValid throw_bind_ne_ok
  next hPositive =>
  split at hValid
  · exact absurd hValid throw_bind_ne_ok
  next hBounds =>
  obtain ⟨-, hVolumes⟩ := unit_bind_eq_ok.mp hValid
  -- the checks before the volumes do not look at the base volume
  rw [if_neg hMinute, hOpen, ok_bind, hHigh, ok_bind, hLow, ok_bind, hClose, ok_bind]
  dsimp only
  rw [if_neg hPositive, if_neg hBounds, unit_bind_eq_ok, validateVolume_eq_ok]
  exact and_iff_left hVolumes

variable [DecimalArithmetic]

/-- The base volume of a number of contracts, as the gateway prints it. -/
def baseVolumeText (product : Decimal) : Text :=
  RustDecimal.toText (DecimalArithmetic.normalize product)

/-- The base volume of a candle in contracts. -/
structure Candle.Priced (size : Decimal) (c : Candle) (baseVolume : DecimalValue) : Prop where
  product : ∃ contracts d product, c.contractVolume = some contracts ∧
    RustDecimal.fromStr contracts.text = some d ∧
    DecimalArithmetic.checkedMul d size = some product ∧ baseVolume = ⟨baseVolumeText product⟩
  sound : VolumeSound (some baseVolume)

/-- The enrichment of one candle. -/
theorem enrichCandle_eq_ok {size : Decimal} {row row' : HistoryCandle}
    (h : row.candle.InContracts) :
    enrichCandle size row = .ok row' ↔ ∃ baseVolume, row.candle.Priced size baseVolume ∧
      row' = { row with candle := { row.candle with baseVolume := some baseVolume } } := by
  obtain ⟨contracts, d, hContracts, hReads⟩ := h.contractVolume
  -- the volume in contracts and the size determine the product
  have hPriced : ∀ {baseVolume}, row.candle.Priced size baseVolume → ∃ product,
      DecimalArithmetic.checkedMul d size = some product ∧
        baseVolume = ⟨baseVolumeText product⟩ := by
    rintro baseVolume ⟨⟨contracts', d', product, hContracts', hReads', hProduct, rfl⟩, -⟩
    obtain rfl := Option.some.inj (hContracts.symm.trans hContracts')
    obtain rfl := Option.some.inj (hReads.symm.trans hReads')
    exact ⟨product, hProduct, rfl⟩
  unfold enrichCandle
  rw [if_neg (by rw [h.baseVolume]; nofun), hContracts]
  dsimp only
  rw [hReads]
  dsimp only
  cases hProduct : DecimalArithmetic.checkedMul d size with
  | none =>
    refine iff_of_false nofun ?_
    rintro ⟨baseVolume, hBase, -⟩
    obtain ⟨product, hSome, -⟩ := hPriced hBase
    rw [hProduct] at hSome
    cases hSome
  | some product =>
    dsimp only
    constructor
    · intro hOk
      obtain ⟨baseVolume, hNew, hOk⟩ := bind_eq_ok.mp hOk
      obtain ⟨rfl, -⟩ := decimalValue_eq_ok.mp (mapError_eq_ok.mp hNew)
      obtain ⟨hValid, hOk⟩ := unit_bind_eq_ok.mp hOk
      obtain rfl := Except.ok.inj hOk
      exact ⟨_, ⟨⟨contracts, d, product, hContracts, hReads, hProduct, rfl⟩,
        (validate_baseVolume h.valid _).mp (mapError_eq_ok.mp hValid)⟩, rfl⟩
    · rintro ⟨baseVolume, hBase, rfl⟩
      obtain ⟨product', hSome, rfl⟩ := hPriced hBase
      obtain rfl := Option.some.inj (hProduct.symm.trans hSome)
      obtain ⟨number, hNumber, -⟩ := hBase.sound _ rfl
      -- a volume that is sound has been read, so the crate takes its text
      have hNew : DecimalValue.new (baseVolumeText product) = .ok ⟨baseVolumeText product⟩ := by
        refine decimalValue_eq_ok.mpr ⟨rfl, ?_⟩
        unfold MarketStreamGateway.decimal at hNumber
        split at hNumber
        · next number' hRead => exact ⟨number', hRead⟩
        · cases hNumber
      refine bind_eq_ok.mpr ⟨_, mapError_eq_ok.mpr hNew, unit_bind_eq_ok.mpr ⟨?_, rfl⟩⟩
      exact mapError_eq_ok.mpr ((validate_baseVolume h.valid _).mpr hBase.sound)

end Enrichment

/-! ## The answer -/

section Answers

variable [Unicode] [RustDecimal]

/-- What a client can rely on about candles that were fetched for it. -/
structure FetchedHistory (request : HistoryRequest) (client : HistoryClient)
    (result : HistoryResult) : Prop where
  about : result.provider = request.provider ∧ result.symbol = request.symbol ∧
    result.startTimeMs = request.startTimeMs ∧ result.endTimeMs = request.endTimeMs
  ascending : (result.candles.map fun row => row.candle.startTimeMs).Pairwise (· < ·)
  limited : result.candles.length ≤ min request.limit
    ((request.endTimeMs - request.startTimeMs) / candleIntervalMs)
  rows : ∀ row ∈ result.candles, row.provider = request.provider ∧ row.symbol = request.symbol ∧
    request.startTimeMs ≤ row.candle.startTimeMs ∧ row.candle.endTimeMs ≤ request.endTimeMs ∧
    Collected client request.provider row.candle

/-- What a fetch that succeeds returns, for the query it answers. -/
theorem fetched_of_fetch {client : HistoryClient} {unstable : UnstableSort}
    {request : HistoryRequest} {result : HistoryResult}
    (h : client.fetch unstable request = .ok result) : FetchedHistory request client result := by
  obtain ⟨all, hFinish, hAll⟩ := fetch_collected h
  obtain ⟨candles, rfl, hStrict, hLength, hMem⟩ :=
    finishResult_sound (fun c hc => (hAll c hc).aligned) (fun c hc => (hAll c hc).sound) hFinish
  refine ⟨⟨rfl, rfl, rfl, rfl⟩, ?_, by rwa [List.length_map], fun row hRow => ?_⟩
  · rw [List.map_map, List.pairwise_map]
    exact hStrict
  · obtain ⟨c, hc, rfl⟩ := List.mem_map.mp hRow
    obtain ⟨hCollected, hLower, hUpper⟩ := hMem c hc
    exact ⟨rfl, rfl, hLower, hUpper, hAll c hCollected⟩

variable [DecimalArithmetic]

omit [Unicode] in
/-- The enrichment, for an instrument of the listing. -/
theorem enrichHistoryVolumes_mexc {result : HistoryResult} {instrument : Instrument}
    (hProvider : result.provider = .mexc) {contractSize : DecimalValue} {size : Decimal}
    (hSize : instrument.contractSize = some contractSize)
    (hAsset : instrument.contractSizeAsset = some instrument.baseAsset)
    (hReads : RustDecimal.fromStr contractSize.text = some size) :
    enrichHistoryVolumes result instrument =
      (result.candles.mapM (enrichCandle size)).map fun candles => { result with candles } := by
  unfold enrichHistoryVolumes
  rw [if_neg (not_not.mpr hProvider), hSize]
  dsimp only
  rw [if_neg (not_not.mpr hAsset), hReads]
  dsimp only
  cases result.candles.mapM (enrichCandle size) <;> rfl

omit [Unicode] in
/-- The answer has candles exactly if every base volume can be worked out. -/
theorem historyResponse_mexc_isOk {result : HistoryResult} {instrument : Instrument}
    (hProvider : result.provider = .mexc) {contractSize : DecimalValue} {size : Decimal}
    (hSize : instrument.contractSize = some contractSize)
    (hAsset : instrument.contractSizeAsset = some instrument.baseAsset)
    (hReads : RustDecimal.fromStr contractSize.text = some size)
    (hContracts : ∀ row ∈ result.candles, row.candle.InContracts) :
    (historyResponse .mexc instrument (.ok result)).isOk ↔
      ∀ row ∈ result.candles, ∃ baseVolume, row.candle.Priced size baseVolume := by
  rw [historyResponse, enrichHistoryVolumes_mexc hProvider hSize hAsset hReads]
  constructor
  · intro hOk row hRow
    cases hRows : result.candles.mapM (enrichCandle size) with
    | error error =>
      rw [hRows] at hOk
      cases hOk
    | ok rows =>
      obtain ⟨row', -, hRow'⟩ := result_of_mapM_eq_ok hRows hRow
      obtain ⟨baseVolume, hPriced, -⟩ := (enrichCandle_eq_ok (hContracts row hRow)).mp hRow'
      exact ⟨baseVolume, hPriced⟩
  · -- every row can be enriched, so the result can
    intro hPriced
    obtain ⟨rows, hRows⟩ := exists_mapM_eq_ok fun row hRow => by
      obtain ⟨baseVolume, hBase⟩ := hPriced row hRow
      exact ⟨_, (enrichCandle_eq_ok (hContracts row hRow)).mpr ⟨baseVolume, hBase, rfl⟩⟩
    rw [hRows]
    rfl

end Answers

/-! ## Every interleaving -/

section Runs

variable [Unicode]

namespace CandleOutcome

/-- The query that gives a slot back. -/
def ended : CandleOutcome → Option ActiveRequest
  | refused _ _ => none
  | answered a _ _ => some a
  | dropped a => some a

/-- A query of the provider that was answered with an error after its fetch. -/
def failed (p : Provider) : CandleOutcome → Bool
  | answered a _ (.error _) => a.query.provider = p
  | _ => false

end CandleOutcome

/-- The slots and the counters, against the queries that took a slot and how
they ended. -/
structure Accounts (maxHistoryRequests : Nat) (s : CandleService) (asked : List ActiveRequest)
    (outcomes : List CandleOutcome) : Prop where
  slots : s.historySlots + s.active.length = maxHistoryRequests
  queries : (s.active ++ outcomes.filterMap CandleOutcome.ended).Perm asked
  requests : ∀ p, s.historyRequests p = asked.countP (·.query.provider = p)
  failures : ∀ p, s.historyFailures p = outcomes.countP (CandleOutcome.failed p)

omit [Unicode] in
/-- Counting one request of a provider. -/
theorem increment_apply (counter : Provider → Nat) (provider p : Provider) :
    increment counter provider p = counter p + if provider = p then 1 else 0 := by
  unfold increment
  by_cases hSame : provider = p
  · subst hSame
    simp
  · simp [hSame, Ne.symm hSame]

namespace Accounts

variable {maxHistoryRequests : Nat} {s s' : CandleService} {asked : List ActiveRequest}
  {outcomes : List CandleOutcome}

/-- A query ends, and gives its slot back. -/
theorem release (h : Accounts maxHistoryRequests s asked outcomes) {index : Nat}
    {a : ActiveRequest} (hActive : s.active[index]? = some a) {outcome : CandleOutcome}
    (hEnded : outcome.ended = some a) {historyFailures : Provider → Nat}
    (hFailures : ∀ p, historyFailures p =
      s.historyFailures p + if outcome.failed p = true then 1 else 0) :
    Accounts maxHistoryRequests ({ s with historyFailures }.release index) asked
      (outcomes ++ [outcome]) := by
  obtain ⟨hIndex, rfl⟩ := List.getElem?_eq_some_iff.mp hActive
  refine ⟨?_, ?_, h.requests, fun p => ?_⟩
  · have hSlots := h.slots
    simp only [CandleService.release, List.length_eraseIdx_of_lt hIndex]
    omega
  · -- the request that leaves the active ones joins those that ended
    have hPerm : (s.active[index] :: s.active.eraseIdx index).Perm s.active :=
      List.getElem_cons_eraseIdx_perm hIndex
    have hEnds : (outcomes ++ [outcome]).filterMap CandleOutcome.ended =
        outcomes.filterMap CandleOutcome.ended ++ [s.active[index]] := by
      simp [hEnded]
    simp only [CandleService.release, hEnds]
    calc (s.active.eraseIdx index ++ (outcomes.filterMap CandleOutcome.ended ++ [s.active[index]]))
        = (s.active.eraseIdx index ++ outcomes.filterMap CandleOutcome.ended) ++
            [s.active[index]] := (List.append_assoc _ _ _).symm
      _ |>.Perm (s.active[index] ::
            (s.active.eraseIdx index ++ outcomes.filterMap CandleOutcome.ended)) :=
          List.perm_append_singleton _ _
      _ |>.Perm (s.active ++ outcomes.filterMap CandleOutcome.ended) :=
          hPerm.append_right _
      _ |>.Perm asked := h.queries
  · simp only [CandleService.release, hFailures, h.failures, List.countP_append,
      List.countP_singleton]

variable [RustDecimal] [DecimalArithmetic]

/-- Every step keeps the slots, the counters and the answers in balance. -/
theorem step (h : Accounts maxHistoryRequests s asked outcomes) (op : CandleOp) :
    Accounts maxHistoryRequests (s.step op) (asked ++ s.asked op) (outcomes ++ s.outcomes op) := by
  cases op with
  | refresh op =>
    simp only [CandleService.step, CandleService.asked, CandleService.outcomes, List.append_nil]
    exact ⟨h.slots, h.queries, h.requests, h.failures⟩
  | request query =>
    -- a refusal takes no slot and ends no request
    have hRefused : ∀ error, Accounts maxHistoryRequests s asked
        (outcomes ++ [.refused query error]) := by
      intro error
      have hEnds : (outcomes ++ [CandleOutcome.refused query error]).filterMap CandleOutcome.ended =
          outcomes.filterMap CandleOutcome.ended := by
        rw [List.filterMap_append]
        exact List.append_nil _
      refine ⟨h.slots, ?_, h.requests, fun p => ?_⟩
      · rw [hEnds]
        exact h.queries
      · rw [h.failures, List.countP_append]
        rfl
    simp only [CandleService.step, CandleService.asked, CandleService.outcomes]
    generalize query.admit s.catalog = admitted
    cases admitted with
    | error error =>
      rw [List.append_nil]
      exact hRefused error
    | ok found =>
      obtain ⟨request, instrument⟩ := found
      dsimp only
      -- an admitted query needs a free slot
      by_cases hFull : s.historySlots = 0
      · rw [if_pos hFull, if_pos hFull, if_pos hFull, List.append_nil]
        exact hRefused historyBusy
      · rw [if_neg hFull, if_neg hFull, if_neg hFull, List.append_nil]
        refine ⟨?_, ?_, fun p => ?_, h.failures⟩
        · have hSlots := h.slots
          simp only [List.length_append, List.length_singleton]
          omega
        · rw [List.append_assoc]
          refine (List.perm_append_comm_assoc _ _ _).trans ?_
          exact (h.queries.cons _).trans (List.perm_append_singleton _ _).symm
        · dsimp only
          rw [increment_apply, h.requests, List.countP_append, List.countP_singleton]
          simp
  | finish index client unstable =>
    simp only [CandleService.step, CandleService.asked, CandleService.outcomes, List.append_nil]
    cases hActive : s.active[index]? with
    | none =>
      rw [List.append_nil]
      exact h
    | some a =>
      dsimp only
      cases historyResponse a.query.provider a.instrument (client.fetch unstable a.request) with
      | ok result => exact h.release hActive rfl fun p => rfl
      -- only a failed fetch counts as a failure
      | error error =>
        refine h.release hActive rfl fun p => ?_
        rw [increment_apply]
        simp [CandleOutcome.failed]
  | drop index =>
    simp only [CandleService.step, CandleService.asked, CandleService.outcomes, List.append_nil]
    cases hActive : s.active[index]? with
    | none =>
      rw [List.append_nil]
      exact h
    -- a dropped request gives its slot back as well
    | some a => exact h.release hActive rfl fun p => rfl

end Accounts

variable [RustDecimal] [DecimalArithmetic]

namespace CandleService

/-- The refreshes among the steps. -/
def refreshOps : CandleOp → List RefreshOp
  | .refresh op => [op]
  | _ => []

/-- A step of the endpoint is a step of the catalog, or none. -/
theorem step_refreshing (s : CandleService) (op : CandleOp) :
    (s.step op).refreshing = run Refreshing.step s.refreshing (refreshOps op) := by
  cases op with
  | refresh op => rfl
  | request query =>
    simp only [step]
    split
    · rfl
    · split <;> rfl
  | finish index client unstable =>
    simp only [step]
    split
    · rfl
    · split <;> rfl
  | drop index =>
    simp only [step]
    split <;> rfl

variable (enabledProviders : Finset Provider) (maxHistoryRequests : Nat) (ops : List CandleOp)

/-- The catalog is one that refreshes lead to. -/
theorem catalog_of_run : (run step (start enabledProviders maxHistoryRequests) ops).catalog =
    (run Refreshing.step (.start enabledProviders)
      (trace step (fun _ op => refreshOps op) (start enabledProviders maxHistoryRequests)
        ops)).catalog :=
  congrArg Refreshing.catalog (run_project step_refreshing _ ops)

/-- In every reachable state a query is admitted or refused as the catalog has it. -/
theorem admit_run (query : CandleQuery) :
    query.Checked (run step (start enabledProviders maxHistoryRequests) ops).catalog := by
  rw [catalog_of_run]
  exact admit_cases (catalog_listing _ _) (catalog_disabled _ _) query

/-- A query that took a slot had passed the checks when it was made. -/
theorem admitted_of_asked {a : ActiveRequest}
    (h : a ∈ trace step asked (start enabledProviders maxHistoryRequests) ops) :
    ∃ earlier later, ops = earlier ++ .request a.query :: later ∧
      AdmittedQuery (run step (start enabledProviders maxHistoryRequests) earlier).catalog a := by
  obtain ⟨earlier, op, later, hOps, hAsked⟩ := mem_trace.mp h
  cases op with
  | request query =>
    have hChecks := admit_run enabledProviders maxHistoryRequests earlier query
    simp only [asked] at hAsked
    -- only a query that passed the checks is asked
    rcases hChecks with ⟨request, instrument, hAdmit, hAdmitted⟩ | ⟨error, hAdmit, -⟩ |
      ⟨error, hAdmit, -⟩ <;> rw [hAdmit] at hAsked
    · dsimp only at hAsked
      split at hAsked
      · cases hAsked
      · obtain rfl := List.mem_singleton.mp hAsked
        exact ⟨earlier, later, hOps, hAdmitted⟩
    · cases hAsked
    · cases hAsked
  | refresh op => cases hAsked
  | finish index client unstable => cases hAsked
  | drop index => cases hAsked

/-- A query for MEXC is about a contract that is sized in its base asset. -/
theorem denominated_of_asked {a : ActiveRequest}
    (h : a ∈ trace step asked (start enabledProviders maxHistoryRequests) ops)
    (hProvider : a.query.provider = .mexc) : a.instrument.Denominated := by
  obtain ⟨earlier, _, _, hAdmitted⟩ := admitted_of_asked enabledProviders maxHistoryRequests ops h
  have hListed := hAdmitted.listed
  rw [catalog_of_run] at hListed
  exact catalog_denominated enabledProviders _ (hAdmitted.provider.1.trans hProvider) hListed

end CandleService

variable (enabledProviders : Finset Provider) (maxHistoryRequests : Nat) (ops : List CandleOp)

/-- **Volumes of MEXC.** For every query that took a slot in any interleaving, and
whatever the venue then sends: another provider's candles are answered as they
were fetched. For MEXC the instrument has a contract size in its base asset and
every candle fetched has a number of contracts, so the answer is an error only
where a product overflows, or where it is printed as something that is no decimal
or negative. -/
theorem mexc_volumes :
    let start := CandleService.start enabledProviders maxHistoryRequests
    let asked := trace CandleService.step CandleService.asked start ops
    (∀ a ∈ asked, a.query.provider ≠ .mexc →
      ∀ (client : HistoryClient) (unstable : UnstableSort) (result : HistoryResult),
        client.fetch unstable a.request = .ok result →
        historyResponse a.query.provider a.instrument (.ok result) = .ok result) ∧
    ∀ a ∈ asked, a.query.provider = .mexc →
      ∃ contractSize size, a.instrument.contractSize = some contractSize ∧
        a.instrument.contractSizeAsset = some a.instrument.baseAsset ∧
        RustDecimal.fromStr contractSize.text = some size ∧
        ∀ (client : HistoryClient) (unstable : UnstableSort) (result : HistoryResult),
          client.fetch unstable a.request = .ok result →
          ((historyResponse .mexc a.instrument (.ok result)).isOk ↔
            ∀ row ∈ result.candles, ∃ baseVolume, row.candle.Priced size baseVolume) := by
  intro start asked
  have hVenue : ∀ a ∈ asked, a.request.provider = a.query.provider := by
    intro a hAsked
    obtain ⟨_, _, _, hAdmitted⟩ :=
      CandleService.admitted_of_asked enabledProviders maxHistoryRequests ops hAsked
    exact hAdmitted.provider.2
  constructor
  · intro a hAsked hOther client unstable result hFetch
    have hProvider : result.provider ≠ .mexc := by
      rw [(fetched_of_fetch hFetch).about.1, hVenue a hAsked]
      exact hOther
    rw [historyResponse, enrichHistoryVolumes, if_pos hProvider]
  intro a hAsked hMexc
  -- the catalog admits MEXC instruments only with a readable contract size
  obtain ⟨contractSize, size, hSize, hAsset, hReads⟩ :=
    CandleService.denominated_of_asked enabledProviders maxHistoryRequests ops hAsked hMexc
  refine ⟨contractSize, size, hSize, hAsset, hReads, fun client unstable result hFetch => ?_⟩
  have hProvider : a.request.provider = .mexc := (hVenue a hAsked).trans hMexc
  have hResult : result.provider = .mexc := (fetched_of_fetch hFetch).about.1.trans hProvider
  exact historyResponse_mexc_isOk hResult hSize hAsset hReads (fetch_inContracts hProvider hFetch)

end Runs

end MarketStreamGateway
