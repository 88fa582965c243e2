import MarketStreamGateway.Catalog
import MarketStreamGateway.History
import MarketStreamGateway.Runtime.Building

/-!
# Market Stream Gateway — the symbols of the catalog

A symbol that the catalog lists is offered to clients, who subscribe it or ask
for its history. The catalog, the sessions and the history client each have a
grammar of symbols. The catalog's is the widest: apart from KuCoin it looks at
the type and state of a contract and accepts any canonical symbol.

`SessionSymbol` and `HistorySymbol` spell out the two other grammars.

Main results:
* `catalogued_subscribes_iff` — a key the catalog validates is accepted by its
  session exactly when its symbol is a session symbol.
* `catalogued_history_iff` — a listed instrument has history requests exactly
  when its symbol is a history symbol.
-/

namespace MarketStreamGateway

open Lib

-- ---------------------------------------------------------------------------
-- Canonical symbols
-- ---------------------------------------------------------------------------

section Lookup

variable [Unicode]

/-- The catalog finds an instrument under the symbol of the key. -/
theorem Catalog.validateSubscription_listed {c : Catalog} (hListing : c.Listing)
    {key : SubscriptionKey} (hKey : key.Canonical) {instrument : Instrument}
    (h : c.validateSubscription key = .ok instrument) :
    instrument.symbol = key.symbol ∧ Listed key.provider instrument := by
  unfold validateSubscription at h
  split at h
  · cases h
  · split at h
    · cases h
    · next found hGet =>
      split at h
      · cases h
      · obtain rfl := Except.ok.inj h
        rw [c.get_canonical hKey] at hGet
        exact hListing _ _ _ hGet

end Lookup

-- ---------------------------------------------------------------------------
-- The grammar of the sessions
-- ---------------------------------------------------------------------------

/-- ASCII letters and digits, at least one of them. -/
def AsciiWord (t : Text) : Prop := t ≠ [] ∧ ∀ c ∈ t, c.isAlphanum

/-- The listed symbols a session can subscribe. -/
def SessionSymbol : Provider → Text → Prop
  | .bybit, _ | .binance, _ | .kucoin, _ => True
  | .okx, symbol => ∃ family : Text,
      symbol = family ++ "-USDT-SWAP".toList ∨ symbol = family ++ "-USDC-SWAP".toList
  | .mexc, symbol => ∃ base, AsciiWord base ∧ symbol = base ++ "_USDT".toList
  | .bingx, symbol => ∃ base quote, AsciiWord base ∧ AsciiWord quote ∧ symbol = base ++ '-' :: quote

/-- A word holds no separator. -/
theorem AsciiWord.not_mem {t : Text} (h : AsciiWord t) {c : Char} (hc : c.isAlphanum = false) :
    c ∉ t := by
  intro hMem
  rw [h.2 c hMem] at hc
  cases hc

/-- The check of the source, as a property. -/
theorem asciiWord_iff {t : Text} :
    AsciiWord t ↔ t.isEmpty = false ∧ (t.all fun c => c.isAlphanum) = true := by
  simp [AsciiWord]

theorem suffix_iff {p t : Text} : p.isSuffixOf t = true ↔ ∃ base, t = base ++ p := by
  rw [List.isSuffixOf_iff_suffix]
  exact ⟨fun ⟨base, h⟩ => ⟨base, h.symm⟩, fun ⟨base, h⟩ => ⟨base, h.symm⟩⟩

/-- The symbols an OKX session accepts. -/
theorem okx_validSymbol_iff {symbol : Text} :
    OkxSession.validSymbol symbol = true ↔ SessionSymbol .okx symbol := by
  unfold OkxSession.validSymbol
  rw [Bool.or_eq_true, suffix_iff, suffix_iff, ← exists_or]
  rfl

/-- The symbols a MEXC session accepts. -/
theorem mexc_validateSymbol_iff {symbol : Text} :
    (MexcSession.validateMexcSymbol symbol).isOk = true ↔ SessionSymbol .mexc symbol := by
  show _ ↔ ∃ base, AsciiWord base ∧ symbol = base ++ "_USDT".toList
  unfold MexcSession.validateMexcSymbol
  split
  · next hNone =>
    refine ⟨fun h => (nomatch h), ?_⟩
    rintro ⟨base, -, hSymbol⟩
    rw [Text.stripSuffix_eq_some.mpr hSymbol] at hNone
    cases hNone
  · next base hBase =>
    rw [Text.stripSuffix_eq_some] at hBase
    -- the base is determined by the symbol
    have hWord :
        (∃ other, AsciiWord other ∧ symbol = other ++ "_USDT".toList) ↔ AsciiWord base := by
      constructor
      · rintro ⟨other, hOther, hSymbol⟩
        rw [hBase] at hSymbol
        rwa [List.append_cancel_right hSymbol]
      · exact fun h => ⟨base, h, hBase⟩
    rw [hWord, asciiWord_iff]
    cases base.isEmpty <;> cases base.all fun c => c.isAlphanum <;>
      simp [Except.isOk, Except.toBool]

/-- A text with one dash splits there. -/
theorem count_dash {base quote : Text} (hBase : AsciiWord base) (hQuote : AsciiWord quote) :
    (base ++ '-' :: quote).count '-' = 1 := by
  have hFirst := List.count_eq_zero.mpr (hBase.not_mem (c := '-') (by decide))
  have hRest := List.count_eq_zero.mpr (hQuote.not_mem (c := '-') (by decide))
  rw [List.count_append, List.count_cons_self, hFirst, hRest]

/-- The symbols a BingX session accepts; canonical ones need no normalizing. -/
theorem bingx_validateSymbol_iff [Unicode] {symbol : Text}
    (hCanonical : normalizeSymbol symbol = .ok symbol) :
    (BingxSession.validateBingxSymbol symbol).isOk = true ↔ SessionSymbol .bingx symbol := by
  have hNormalized : BingxSession.normalizedSymbol symbol = .ok symbol := by
    unfold BingxSession.normalizedSymbol
    rw [hCanonical]
  show _ ↔ ∃ base quote, AsciiWord base ∧ AsciiWord quote ∧ symbol = base ++ '-' :: quote
  unfold BingxSession.validateBingxSymbol
  rw [hNormalized]
  dsimp only
  constructor
  · intro h
    split at h
    · cases h
    · split at h
      · cases h
      · next base quote hSplit =>
        obtain ⟨hSymbol, -⟩ := Text.splitOnce_eq_some.mp hSplit
        split at h
        · cases h
        · next hWords =>
          simp only [BingxSession.asciiAlphanumeric, Bool.or_eq_true, not_or, Bool.not_eq_true,
            Bool.not_eq_false'] at hWords
          obtain ⟨⟨⟨hBase, hQuote⟩, hBaseAll⟩, hQuoteAll⟩ := hWords
          exact ⟨base, quote, asciiWord_iff.mpr ⟨hBase, hBaseAll⟩,
            asciiWord_iff.mpr ⟨hQuote, hQuoteAll⟩, hSymbol⟩
  · rintro ⟨base, quote, hBase, hQuote, rfl⟩
    -- words have no dash, so the one between them is the only one
    have hDash := count_dash hBase hQuote
    rw [if_neg (by simp [hDash]), Text.splitOnce_append (hBase.not_mem (by decide))]
    dsimp only
    rw [asciiWord_iff] at hBase hQuote
    rw [if_neg (by simp [BingxSession.asciiAlphanumeric, hBase, hQuote])]
    rfl

/-- A listed symbol is in the session's grammar exactly when it is a session
symbol. -/
theorem sessionGrammar_iff [Unicode] {provider : Provider} {instrument : Instrument}
    (h : Listed provider instrument) :
    sessionGrammar provider instrument.symbol = true ↔
      SessionSymbol provider instrument.symbol := by
  cases provider with
  | bybit | binance => exact iff_of_true rfl trivial
  | okx => exact okx_validSymbol_iff
  | kucoin => exact iff_of_true (h.kucoinSuffix rfl) trivial
  | mexc => exact mexc_validateSymbol_iff
  | bingx => exact bingx_validateSymbol_iff h.canonical

-- ---------------------------------------------------------------------------
-- Subscribing a listed instrument
-- ---------------------------------------------------------------------------

section Subscribing

variable [Unicode] [JsonText] [MarketData]

/-- A fresh session of the key's endpoint subscribes the key. -/
def subscribes (key : SubscriptionKey) (epoch : Uuid) : Bool :=
  let adapter := configuredAdapter key.provider
  (adapter.subscriptionMessages (adapter.session (adapter.endpointFor key.channel) epoch)
    .subscribe [key]).1.isOk

/-- A session refuses a key outside its grammar. -/
theorem grammar_of_subscribes {key : SubscriptionKey} {epoch : Uuid}
    (h : subscribes key epoch = true) : sessionGrammar key.provider key.symbol = true := by
  have hProvider : validateSubscriptions key.provider [key] = .ok () :=
    validateSubscriptions_eq_ok fun k hk => by rw [List.mem_singleton.mp hk]
  obtain ⟨provider, market, symbol, channel⟩ := key
  -- a symbol outside the grammar is refused before any command is made
  by_contra hGrammar
  cases provider with
  | bybit | binance => exact hGrammar rfl
  | okx =>
    have hSymbol : OkxSession.validateOkxSymbol symbol = .error
        (symbol ++ " is not an OKX USDT/USDC linear perpetual symbol".toList) := if_neg hGrammar
    have hOk : (OkxSession.subscriptionMessages _ .subscribe _).1.isOk = true := h
    unfold OkxSession.subscriptionMessages at hOk
    rw [hProvider] at hOk
    simp only [OkxSession.subscriptionArgs, OkxSession.keyArgs, hSymbol] at hOk
    cases hOk
  | kucoin =>
    have hSymbol : KucoinSession.validateKucoinSymbol symbol = .error
        (symbol ++ " is not a KuCoin USDT/USDC linear perpetual symbol".toList) := if_neg hGrammar
    have hOk : (KucoinSession.subscriptionMessages _ .subscribe _).1.isOk = true := h
    unfold KucoinSession.subscriptionMessages at hOk
    rw [hProvider] at hOk
    simp only [KucoinSession.collectSymbols, hSymbol] at hOk
    split at hOk <;> cases hOk
  | mexc =>
    have hOk : (MexcSession.subscriptionMessages _ .subscribe _).1.isOk = true := h
    have hRefused : (MexcSession.validateMexcSymbol symbol).isOk = false := by
      simpa [sessionGrammar] using hGrammar
    unfold MexcSession.subscriptionMessages at hOk
    rw [hProvider] at hOk
    cases hSymbol : MexcSession.validateMexcSymbol symbol with
    | ok _ => rw [hSymbol] at hRefused; cases hRefused
    | error message =>
      simp only [MexcSession.collect, hSymbol] at hOk
      split at hOk <;> cases hOk
  | bingx =>
    have hOk : (BingxSession.subscriptionMessages _ .subscribe _).1.isOk = true := h
    have hRefused : (BingxSession.validateBingxSymbol symbol).isOk = false := by
      simpa [sessionGrammar] using hGrammar
    unfold BingxSession.subscriptionMessages at hOk
    rw [hProvider] at hOk
    cases hSymbol : BingxSession.validateBingxSymbol symbol with
    | ok _ => rw [hSymbol] at hRefused; cases hRefused
    | error error =>
      simp only [BingxSession.collect, hSymbol] at hOk
      cases hOk

/-- A session without topics subscribes every key of its grammar. -/
theorem subscribes_of_grammar {key : SubscriptionKey} (epoch : Uuid)
    (h : sessionGrammar key.provider key.symbol = true) : subscribes key epoch = true := by
  by_cases hBingx : key.provider = .bingx
  · obtain ⟨provider, market, symbol, channel⟩ := key
    obtain rfl : provider = .bingx := hBingx
    let topics := [(⟨.bingx, market, symbol, channel⟩ : SubscriptionKey)].flatMap
      (nativeTopics .bingx)
    have hThree : topics.length ≤ 3 := by
      simp only [topics, List.flatMap_cons, List.flatMap_nil, List.append_nil,
        bingx_nativeTopics, List.length_map]
      cases channel <;> decide
    -- one key never exceeds the topics of a connection
    have hRoom : (Venue.change .subscribe ∅ topics).card ≤ bingxMaxTopicsPerConnection := by
      calc (∅ ∪ topics.toFinset).card
          = topics.toFinset.card := by rw [Finset.empty_union]
        _ ≤ topics.length := List.toFinset_card_le _
        _ ≤ bingxMaxTopicsPerConnection := hThree.trans (by decide)
    have hGrammar : ∀ k ∈ [(⟨.bingx, market, symbol, channel⟩ : SubscriptionKey)],
        sessionGrammar .bingx k.symbol = true := by
      intro k hk
      rw [List.mem_singleton.mp hk]
      exact h
    exact (bingx_isOk (s := BingxSession.new epoch) rfl (by simp) hGrammar .subscribe).mpr
      fun _ => hRoom
  · refine subscriptionMessages_isOk hBingx (endpointFor_mem_endpoints _ key.channel)
      (openedFor_session _ _ _) .subscribe fun k hk => ?_
    rw [List.mem_singleton.mp hk]
    exact ⟨rfl, rfl, h⟩

/-- **Subscribing the catalog.** In every catalog that refreshes can lead to,
a key that the catalog validates is accepted by a session of its endpoint
exactly when its symbol is a session symbol. -/
theorem catalogued_subscribes_iff [RustDecimal] (enabledProviders : Finset Provider)
    (refreshes : List Refresh) (key : SubscriptionKey) (hKey : key.Canonical)
    (instrument : Instrument)
    (hValid : (run Catalog.step (Catalog.new enabledProviders) refreshes).validateSubscription key =
      .ok instrument) (epoch : Uuid) :
    subscribes key epoch = true ↔ SessionSymbol key.provider key.symbol := by
  obtain ⟨hSymbol, hListed⟩ := Catalog.validateSubscription_listed
    (Catalog.refreshed_listed enabledProviders refreshes) hKey hValid
  rw [← hSymbol, ← sessionGrammar_iff hListed, hSymbol]
  exact ⟨grammar_of_subscribes, subscribes_of_grammar epoch⟩

end Subscribing

section Sample

local instance listingUnicode : Unicode := .ascii
local instance listingDecimal : RustDecimal := .digits
local instance listingJson : JsonText := .table []
local instance listingMarket : MarketData := .silent

/-- An OKX listing of one live linear swap. -/
def okxItem (instId uly settleCcy : Text) : OkxInstrument where
  instId := instId
  instType := "SWAP".toList
  state := "live".toList
  baseCcy := []
  quoteCcy := []
  settleCcy := settleCcy
  ctType := "linear".toList
  ctVal := .string "1".toList
  ctValCcy := []
  tickSz := .string "1".toList
  lotSz := .string "1".toList
  minSz := none
  lever := none
  listTime := none
  expTime := none
  uly := uly
  instFamily := []

/-- Venues that do not answer. -/
def silentServers : CatalogServers where
  bybit _ := .error (.httpStatus .bybit 503)
  binance := .error (.httpStatus .binance 503)
  okx := .error (.httpStatus .okx 503)
  kucoin := .error (.httpStatus .kucoin 503)
  mexc := .error (.httpStatus .mexc 503)
  bingx := .error (.httpStatus .bingx 503)

/-- OKX lists a swap in USDT and one in USD. -/
def okxListing : Refresh :=
  ⟨.okx, { silentServers with
    okx := .ok (.ok ⟨"0".toList, [],
      [okxItem "BTC-USDT-SWAP".toList "BTC-USDT".toList "USDT".toList,
        okxItem "BTC-USD_UM-SWAP".toList "BTC-USD_UM".toList "USD".toList]⟩) }, 100, 200⟩

/-- A swap that the session accepts. -/
def okxSwap : SubscriptionKey := ⟨.okx, .linearPerpetual, "BTC-USDT-SWAP".toList, .ticker⟩

/-- A linear swap that it refuses. -/
def okxUsdSwap : SubscriptionKey := ⟨.okx, .linearPerpetual, "BTC-USD_UM-SWAP".toList, .ticker⟩

/-- The catalog after the listing. -/
def okxCatalog : Catalog := run Catalog.step (Catalog.new {.okx}) [okxListing]

/-- The catalog lists it. -/
theorem okxSwap_listed : ∃ instrument, okxCatalog.validateSubscription okxSwap = .ok instrument :=
  Except.isOk_iff.mp (by decide)

theorem catalogued_subscribes_iff_okxListing :
    subscribes okxSwap 7 = true ↔ SessionSymbol okxSwap.provider okxSwap.symbol := by
  have hKey : okxSwap.Canonical := by
    unfold SubscriptionKey.Canonical
    decide +kernel
  obtain ⟨instrument, hValid⟩ := okxSwap_listed
  have hIff := catalogued_subscribes_iff {.okx} [okxListing] okxSwap hKey instrument
  exact hIff hValid 7

/-- A listed swap that is not in USDT or USDC is validated by the catalog and
refused by the session. -/
theorem okx_listed_refused :
    okxUsdSwap.Canonical ∧
    (okxCatalog.validateSubscription okxUsdSwap).isOk = true ∧
    subscribes okxUsdSwap 7 = false := by
  refine ⟨?_, by decide +kernel, by decide +kernel⟩
  unfold SubscriptionKey.Canonical
  decide +kernel

end Sample

-- ---------------------------------------------------------------------------
-- The history of a listed instrument
-- ---------------------------------------------------------------------------

section Histories

variable [Unicode]

/-- The quotes the history client knows. -/
def HistoryQuote (quote : Text) : Prop := quote = "USDT".toList ∨ quote = "USDC".toList

/-- The listed symbols a history request can be made for. -/
def HistorySymbol : Provider → Text → Prop
  | .bybit, symbol => (∀ c ∈ symbol, c.isAlphanum) ∧
      ∃ base quote, HistoryQuote quote ∧ symbol = base ++ quote
  | .binance, symbol => (∀ c ∈ symbol, Unicode.isAlphanumeric c) ∧
      ∃ base quote, HistoryQuote quote ∧ symbol = base ++ quote
  | .okx, symbol => ∃ base quote, AsciiWord base ∧ HistoryQuote quote ∧
      symbol = base ++ '-' :: quote ++ "-SWAP".toList
  | .kucoin, symbol => ∀ c ∈ symbol, c.isAlphanum
  | .mexc, symbol => ∃ base quote, AsciiWord base ∧ HistoryQuote quote ∧
      symbol = base ++ '_' :: quote
  | .bingx, symbol => ∃ base quote, AsciiWord base ∧ HistoryQuote quote ∧
      symbol = base ++ '-' :: quote

/-- A range and a limit that a request may have. -/
def AdmissibleRange (startTimeMs endTimeMs limit : Nat) : Prop :=
  startTimeMs ≠ 0 ∧ History.candleIntervalMs ∣ startTimeMs ∧ History.candleIntervalMs ∣ endTimeMs ∧
  startTimeMs < endTimeMs ∧ endTimeMs - startTimeMs ≤ History.maxHistoryRangeMs ∧
  1 ≤ limit ∧ limit ≤ History.maxHistoryCandles

instance (startTimeMs endTimeMs limit : Nat) :
    Decidable (AdmissibleRange startTimeMs endTimeMs limit) :=
  inferInstanceAs (Decidable (_ ∧ _))

omit [Unicode] in
/-- Ending in a quote is being a base with a quote. -/
theorem endsWith_quote_iff {symbol : Text} :
    (History.endsWith "USDT".toList symbol || History.endsWith "USDC".toList symbol) = true ↔
      ∃ base quote, HistoryQuote quote ∧ symbol = base ++ quote := by
  unfold History.endsWith HistoryQuote
  rw [Bool.or_eq_true, suffix_iff, suffix_iff]
  constructor
  · rintro (⟨base, h⟩ | ⟨base, h⟩)
    · exact ⟨base, _, Or.inl rfl, h⟩
    · exact ⟨base, _, Or.inr rfl, h⟩
  · rintro ⟨base, quote, rfl | rfl, h⟩
    · exact Or.inl ⟨base, h⟩
    · exact Or.inr ⟨base, h⟩

omit [Unicode] in
/-- A pair is a word and a quote around the separator. -/
theorem validatePair_iff {separator : Char} (hSeparator : separator.isAlphanum = false)
    {symbol : Text} : History.validatePair separator symbol = true ↔
      ∃ base quote, AsciiWord base ∧ HistoryQuote quote ∧ symbol = base ++ separator :: quote := by
  unfold History.validatePair
  constructor
  · intro h
    split at h
    · cases h
    · next base quote hSplit =>
      obtain ⟨hSymbol, -⟩ := Text.splitOnce_eq_some.mp hSplit
      simp only [History.asciiAlphanumeric, History.isQuote, Bool.and_eq_true, Bool.or_eq_true,
        decide_eq_true_eq, Bool.not_eq_true'] at h
      exact ⟨base, quote, asciiWord_iff.mpr h.1.2, h.2, hSymbol⟩
  · rintro ⟨base, quote, hBase, hQuote, rfl⟩
    -- the base has no separator, so the first one ends it
    have hAbsent := hBase.not_mem hSeparator
    rw [Text.splitOnce_append hAbsent]
    rw [asciiWord_iff] at hBase
    unfold HistoryQuote at hQuote
    simp only [History.asciiAlphanumeric, History.isQuote, hBase, hAbsent, hQuote, Bool.and_eq_true,
      Bool.or_eq_true, decide_eq_true_eq, Bool.not_eq_true', List.contains_eq_mem,
      decide_eq_false_iff_not, not_false_eq_true, Bool.not_false, and_self]

/-- A listed symbol is in the history grammar exactly when it is a history
symbol. -/
theorem validProviderSymbol_iff {provider : Provider} {instrument : Instrument}
    (h : Listed provider instrument) :
    History.validProviderSymbol provider instrument.symbol = true ↔
      HistorySymbol provider instrument.symbol := by
  -- a canonical symbol is not empty
  have hSome : instrument.symbol.isEmpty = false := by
    have hCanonical := h.canonical
    unfold normalizeSymbol at hCanonical
    dsimp only at hCanonical
    split at hCanonical
    · cases hCanonical
    · next hShape =>
      split at hCanonical
      · cases hCanonical
      · rw [← Except.ok.inj hCanonical]
        simp only [Bool.or_eq_true, not_or, Bool.not_eq_true] at hShape
        simpa [Text.toAsciiUppercase] using hShape.1
  cases provider with
  | bybit =>
    unfold History.validProviderSymbol History.asciiAlphanumeric
    rw [Bool.and_eq_true, endsWith_quote_iff, hSome, Bool.not_false, Bool.true_and,
      List.all_eq_true]
    rfl
  | binance =>
    unfold History.validProviderSymbol History.unicodeAlphanumeric
    rw [Bool.and_eq_true, endsWith_quote_iff, hSome, Bool.not_false, Bool.true_and,
      List.all_eq_true]
    rfl
  | okx =>
    show History.validateOkxSymbol instrument.symbol = true ↔ _
    unfold History.validateOkxSymbol
    constructor
    · intro hValid
      split at hValid
      · cases hValid
      · next pair hPair =>
        obtain ⟨base, quote, hBase, hQuote, rfl⟩ := (validatePair_iff (by decide)).mp hValid
        exact ⟨base, quote, hBase, hQuote, Text.stripSuffix_eq_some.mp hPair⟩
    · rintro ⟨base, quote, hBase, hQuote, hSymbol⟩
      rw [Text.stripSuffix_eq_some.mpr hSymbol]
      exact (validatePair_iff (by decide)).mpr ⟨base, quote, hBase, hQuote, rfl⟩
  | kucoin =>
    -- KuCoin's listing has looked at the suffix already
    have hSuffix : (History.endsWith "USDTM".toList instrument.symbol ||
        History.endsWith "USDCM".toList instrument.symbol) = true := h.kucoinSuffix rfl
    unfold History.validProviderSymbol History.asciiAlphanumeric
    rw [hSuffix, hSome, Bool.and_true, Bool.not_false, Bool.true_and, List.all_eq_true]
    rfl
  | mexc => exact validatePair_iff (by decide)
  | bingx => exact validatePair_iff (by decide)

/-- With a range and a limit that are admissible, only the symbol decides. -/
theorem historyRequest_isOk_iff {provider : Provider} {symbol : Text}
    {startTimeMs endTimeMs limit : Nat} (hCanonical : normalizeSymbol symbol = .ok symbol)
    (hRange : AdmissibleRange startTimeMs endTimeMs limit) :
    (History.HistoryRequest.new provider symbol startTimeMs endTimeMs limit).isOk = true ↔
      History.validProviderSymbol provider symbol = true := by
  obtain ⟨hStart, hAligned, hEnd, hOrder, hWide, hLimit⟩ := hRange
  unfold History.HistoryRequest.new
  split
  · next error hError =>
    rw [hCanonical] at hError
    cases hError
  · next normalized hNormalized =>
    obtain rfl := Except.ok.inj (hCanonical.symm.trans hNormalized)
    rw [dif_neg (not_not.mpr rfl)]
    by_cases hVenue : History.validProviderSymbol provider symbol = true
    · -- the range passes the remaining checks
      rw [dif_neg (not_not.mpr hVenue), dif_neg (by tauto), dif_neg (by omega), dif_neg (by omega),
        dif_neg (by omega), dif_neg (not_not.mpr hLimit)]
      exact iff_of_true rfl hVenue
    · rw [dif_pos hVenue]
      exact iff_of_false (by simp [Except.isOk, Except.toBool]) hVenue

/-- **The history of the catalog.** In every catalog that refreshes can lead
to, every listed instrument is advertised with one-minute history, and for
every admissible range and limit a request for it can be made exactly when its
symbol is a history symbol. -/
theorem catalogued_history_iff [RustDecimal] (enabledProviders : Finset Provider)
    (refreshes : List Refresh) (provider : Provider) (symbol : Text) (instrument : Instrument)
    (hListed : ((run Catalog.step (Catalog.new enabledProviders) refreshes).providers
      provider).instruments.lookup symbol = some instrument)
    (startTimeMs endTimeMs limit : Nat) (hRange : AdmissibleRange startTimeMs endTimeMs limit) :
    instrument.capabilities.history1m = true ∧
    ((History.HistoryRequest.new provider instrument.symbol startTimeMs endTimeMs limit).isOk =
      true ↔ HistorySymbol provider instrument.symbol) := by
  obtain ⟨-, hChecked⟩ :=
    Catalog.refreshed_listed enabledProviders refreshes provider symbol instrument hListed
  refine ⟨?_, ?_⟩
  · rw [hChecked.capable]
    rfl
  · rw [historyRequest_isOk_iff hChecked.canonical hRange, validProviderSymbol_iff hChecked]

end Histories

section Sample

local instance historyUnicode : Unicode := .ascii
local instance historyDecimal : RustDecimal := .digits

/-- A Bybit listing of one live perpetual. -/
def bybitItem (symbol quoteCoin settleCoin : Text) : BybitInstrument where
  symbol := symbol
  contractType := "LinearPerpetual".toList
  status := "Trading".toList
  baseCoin := "BTC".toList
  quoteCoin := quoteCoin
  settleCoin := settleCoin
  launchTime := none
  deliveryTime := none
  tickSize := .string "1".toList
  lotSizeFilter := ⟨.string "1".toList, none, none⟩
  maxLeverage := none

/-- Bybit lists a perpetual in USDT and one in USDC. -/
def bybitListing : Refresh :=
  ⟨.bybit, { silentServers with
    bybit := fun _ => .ok (.ok ⟨0, [], some ⟨"linear".toList, [],
      [bybitItem "BTCUSDT".toList "USDT".toList "USDT".toList,
        bybitItem "BTCPERP".toList "USDC".toList "USDC".toList]⟩⟩) }, 100, 200⟩

/-- The catalog after one refresh. -/
def bybitCatalog : Catalog := run Catalog.step (Catalog.new {.bybit}) [bybitListing]

/-- It lists the symbol. -/
theorem bybit_listed : ∃ instrument,
    (bybitCatalog.providers .bybit).instruments.lookup "BTCUSDT".toList = some instrument :=
  Option.isSome_iff_exists.mp (by decide)

theorem catalogued_history_iff_bybitListing : ∃ instrument : Instrument,
    instrument.capabilities.history1m = true ∧
    ((History.HistoryRequest.new .bybit instrument.symbol 60000 120000 1).isOk = true ↔
      HistorySymbol .bybit instrument.symbol) := by
  obtain ⟨instrument, hListed⟩ := bybit_listed
  have hIff := catalogued_history_iff {.bybit} [bybitListing] .bybit "BTCUSDT".toList instrument
  exact ⟨instrument, hIff hListed 60000 120000 1 (by decide)⟩

/-- Bybit's perpetuals in USDC are listed with history and refused. -/
theorem bybit_perp_without_history :
    ((bybitCatalog.providers .bybit).instruments.lookup "BTCPERP".toList).any
      (fun instrument =>
        instrument.capabilities.history1m && instrument.symbol = "BTCPERP".toList) =
        true ∧
    AdmissibleRange 60000 120000 1 ∧
    (History.HistoryRequest.new .bybit "BTCPERP".toList 60000 120000 1).isOk = false := by
  refine ⟨by decide +kernel, by decide, by decide +kernel⟩

end Sample

end MarketStreamGateway
