import MarketStreamGateway.CatalogRefresh
import MarketStreamGateway.Runtime.Supervisor

/-!
# Market Stream Gateway — questions to the catalog

The read side of `catalog.rs`: listings, filters, lookups by symbol and by
instrument id, the refresh status of the providers, and the part of `/health/ready`
that reads it. The write side is the refreshes, in whatever interleaving.

Main results:
* `catalog_queries` — the answers agree with one another: one listing, in order
  and without repetition, of which the filters, the lookups and the subscription
  check are selections.
* `catalog_statuses` — a status tells how the refreshes of its provider went.
-/

namespace MarketStreamGateway

open Lib

/-! ## Queries -/

/-- Optional exact-match filters for catalog listings. -/
structure CatalogFilter where
  provider : Option Provider := none
  market : Option MarketKind := none
  symbol : Option Text := none
  baseAsset : Option Text := none
  quoteAsset : Option Text := none
  settleAsset : Option Text := none

/-- `str::eq_ignore_ascii_case`. -/
def eqIgnoreAsciiCase (t u : Text) : Bool := Text.toAsciiLowercase t = Text.toAsciiLowercase u

/-- A condition that is left open is met. -/
def matchesOptional (expected : Option Text) (actual : Text) : Bool :=
  expected.all (eqIgnoreAsciiCase · actual)

/-- The texts of a filter are compared without regard to ASCII case. -/
def CatalogFilter.matches (f : CatalogFilter) (i : Instrument) : Bool :=
  f.provider.all (i.provider = ·) && f.market.all (i.market = ·) &&
    matchesOptional f.symbol i.symbol && matchesOptional f.baseAsset i.baseAsset &&
    matchesOptional f.quoteAsset i.quoteAsset && matchesOptional f.settleAsset i.settleAsset

/-- `BTreeMap::values`: the instruments in the order of their symbols. -/
def instrumentValues (instruments : Instruments) : List Instrument :=
  (iter instruments.keys).filterMap instruments.lookup

namespace Catalog

/-- Every instrument, in the order of the providers. -/
def instruments (c : Catalog) : List Instrument :=
  Provider.all.flatMap fun provider => instrumentValues (c.providers provider).instruments

/-- The instruments that match, in the order of the listing. -/
def filter (c : Catalog) (f : CatalogFilter) : List Instrument := c.instruments.filter f.matches

/-- All instruments. -/
def list (c : Catalog) : List Instrument := c.filter {}

/-- The first instrument with an identifier. -/
def getById (c : Catalog) (instrumentId : Text) : Option Instrument :=
  c.instruments.find? (·.instrumentId = instrumentId)

/-- The status of a provider. -/
def status (c : Catalog) (provider : Provider) : ProviderCatalogStatus :=
  (c.providers provider).status

/-- The statuses of all providers, the disabled ones included. -/
def statuses (c : Catalog) : List ProviderCatalogStatus := Provider.all.map c.status

/-- The catalogs' part of the readiness of the service. -/
def ready (c : Catalog) : Bool :=
  (c.statuses.filter (·.enabled)).all (·.lastSuccessAtMs.isSome)

end Catalog

/-- The answer of `/health/ready`: the HTTP status and the status in its body. -/
def serviceReadiness {adapter : Provider → ProviderAdapter} (s : Runtime adapter)
    (supervised : List EndpointKey) (c : Catalog) : Nat × Text :=
  if s.readiness supervised && c.ready then (200, "ready".toList) else (503, "degraded".toList)

/-! ## The listing -/

/-- The place of an instrument in a listing. -/
def Instrument.place (i : Instrument) : Provider ×ₗ Text := toLex (i.provider, i.symbol)

/-- A filter without conditions leaves nothing out. -/
theorem list_eq_instruments (c : Catalog) : c.list = c.instruments := by
  have hAll : ∀ i : Instrument, CatalogFilter.matches {} i = true := fun i => rfl
  rw [Catalog.list, Catalog.filter, List.filter_eq_self]
  exact fun i _ => hAll i

/-- The values of a listing are what it finds under some symbol. -/
theorem mem_instrumentValues {instruments : Instruments} {i : Instrument} :
    i ∈ instrumentValues instruments ↔ ∃ symbol, instruments.lookup symbol = some i := by
  rw [instrumentValues, List.mem_filterMap]
  constructor
  · rintro ⟨symbol, -, hLookup⟩
    exact ⟨symbol, hLookup⟩
  · rintro ⟨symbol, hLookup⟩
    refine ⟨symbol, ?_, hLookup⟩
    rw [mem_iter, Finmap.mem_keys, ← Finmap.lookup_isSome, hLookup]
    rfl

section Listing

variable [Unicode] {provider : Provider} {instruments : Instruments}

/-- In a checked snapshot an instrument is under its own symbol. -/
theorem mem_values_listed (h : AllListed provider instruments) {i : Instrument} :
    i ∈ instrumentValues instruments ↔ instruments.lookup i.symbol = some i := by
  rw [mem_instrumentValues]
  constructor
  · rintro ⟨symbol, hLookup⟩
    obtain ⟨rfl, -⟩ := h symbol i hLookup
    exact hLookup
  · exact fun hLookup => ⟨i.symbol, hLookup⟩

omit [Unicode] in
/-- There are as many values as symbols. -/
theorem values_length (instruments : Instruments) :
    (instrumentValues instruments).length = instruments.keys.card := by
  have hSome : ∀ symbol ∈ iter instruments.keys, (instruments.lookup symbol).isSome := by
    intro symbol hKey
    rwa [mem_iter, Finmap.mem_keys, ← Finmap.lookup_isSome] at hKey
  rw [instrumentValues, ← iter_length instruments.keys]
  generalize iter instruments.keys = symbols at hSome
  induction symbols with
  | nil => rfl
  | cons symbol symbols ih =>
    obtain ⟨i, hi⟩ := Option.isSome_iff_exists.mp (hSome symbol List.mem_cons_self)
    rw [List.filterMap_cons_some (f := fun symbol => instruments.lookup symbol) hi,
      List.length_cons, List.length_cons, ih fun s hs => hSome s (List.mem_cons_of_mem _ hs)]

/-- One provider's instruments are in strict order. -/
theorem values_places (h : AllListed provider instruments) :
    (instrumentValues instruments).Pairwise fun i j => i.place < j.place := by
  have hPlaced : ∀ symbol i, instruments.lookup symbol = some i →
      i.place = toLex (provider, symbol) := by
    intro symbol i hLookup
    obtain ⟨rfl, hListed⟩ := h symbol i hLookup
    rw [Instrument.place, hListed.provider_eq]
  rw [instrumentValues, List.pairwise_filterMap]
  refine (iter_strict instruments.keys).imp fun hLess i hi j hj => ?_
  rw [hPlaced _ i hi, hPlaced _ j hj]
  exact Prod.Lex.toLex_lt_toLex.mpr (Or.inr ⟨rfl, hLess⟩)

end Listing

/-! ## Identifiers -/

/-- No provider has a colon in its name, so an identifier can be taken apart. -/
theorem display_no_colon (provider : Provider) : ':' ∉ provider.display := by
  cases provider <;> decide

/-- An identifier tells the provider and the symbol. -/
theorem instrumentId_injective {p q : Provider} {s t : Text}
    (h : instrumentId p s = instrumentId q t) : p = q ∧ s = t := by
  have hSplit : ∀ (p : Provider) (s : Text), Text.splitOnce ':' (instrumentId p s) =
      some (p.display, MarketKind.linearPerpetual.display ++ ":".toList ++ s) := by
    intro p s
    have hId : instrumentId p s =
        p.display ++ ':' :: (MarketKind.linearPerpetual.display ++ ":".toList ++ s) := by
      simp [instrumentId]
    rw [hId, Text.splitOnce_append (display_no_colon p)]
  have hEq := (hSplit p s).symm.trans ((congrArg _ h).trans (hSplit q t))
  obtain ⟨hProvider, hSymbol⟩ := Prod.mk.inj (Option.some.inj hEq)
  refine ⟨?_, List.append_cancel_left hSymbol⟩
  revert hProvider
  cases p <;> cases q <;> decide

/-- In a list keyed without repetition the first match is the only one. -/
theorem find?_eq_some_iff_of_nodup {α β : Type} [DecidableEq β] {f : α → β} {l : List α}
    (hNodup : (l.map f).Nodup) {b : β} {a : α} :
    l.find? (f · = b) = some a ↔ a ∈ l ∧ f a = b := by
  constructor
  · intro hFind
    exact ⟨List.mem_of_find?_eq_some hFind, by simpa using List.find?_some hFind⟩
  · rintro ⟨hMem, rfl⟩
    cases hFind : l.find? (f · = f a) with
    | none =>
      have hNone := List.find?_eq_none.mp hFind a hMem
      simp at hNone
    | some a' =>
      have hKey : f a' = f a := by simpa using List.find?_some hFind
      rw [List.inj_on_of_nodup_map hNodup (List.mem_of_find?_eq_some hFind) hMem hKey]

/-! ## The answers -/

section Answers

variable [Unicode] {c : Catalog}

/-- An instrument is in the catalog when it stands under its own provider and symbol. -/
theorem mem_instruments (h : c.Listing) {i : Instrument} :
    i ∈ c.instruments ↔ (c.providers i.provider).instruments.lookup i.symbol = some i := by
  rw [Catalog.instruments, List.mem_flatMap]
  constructor
  · rintro ⟨provider, -, hMem⟩
    have hLookup := (mem_values_listed (h provider)).mp hMem
    rwa [(h provider _ i hLookup).2.provider_eq]
  · exact fun hLookup =>
      ⟨i.provider, Provider.mem_all _, (mem_values_listed (h i.provider)).mpr hLookup⟩

/-- The listing ascends by provider and symbol, strictly. -/
theorem instruments_places (h : c.Listing) :
    c.instruments.Pairwise fun i j => i.place < j.place := by
  have hProviders : Provider.all.Pairwise (· < ·) := by decide
  rw [Catalog.instruments, List.pairwise_flatMap]
  refine ⟨fun provider _ => values_places (h provider), hProviders.imp fun hLess i hi j hj => ?_⟩
  have hi := (h _ _ i ((mem_values_listed (h _)).mp hi)).2.provider_eq
  have hj := (h _ _ j ((mem_values_listed (h _)).mp hj)).2.provider_eq
  rw [Instrument.place, Instrument.place, hi, hj]
  exact Prod.Lex.toLex_lt_toLex.mpr (Or.inl hLess)

/-- No two instruments of a listing have the same identifier. -/
theorem instruments_ids (h : c.Listing) : (c.instruments.map (·.instrumentId)).Nodup := by
  rw [List.Nodup, List.pairwise_map]
  refine (List.Pairwise.and_mem.mp (instruments_places h)).imp fun ⟨hi, hj, hLess⟩ hEq => ?_
  have hListed : ∀ i ∈ c.instruments, i.instrumentId = instrumentId i.provider i.symbol := by
    intro i hi
    obtain ⟨-, hListed⟩ := h i.provider _ i ((mem_instruments h).mp hi)
    exact hListed.id_eq
  rw [hListed _ hi, hListed _ hj] at hEq
  obtain ⟨hProvider, hSymbol⟩ := instrumentId_injective hEq
  rw [Instrument.place, Instrument.place, hProvider, hSymbol] at hLess
  exact lt_irrefl _ hLess

omit [Unicode] in
/-- Under a provider and a symbol there is one instrument. -/
theorem mem_instruments_of [Unicode] (h : c.Listing) {provider : Provider} {symbol : Text}
    {i : Instrument} :
    (c.providers provider).instruments.lookup symbol = some i ↔
      i ∈ c.instruments ∧ i.provider = provider ∧ i.symbol = symbol := by
  rw [mem_instruments h]
  constructor
  · intro hLookup
    obtain ⟨rfl, hListed⟩ := h provider symbol i hLookup
    exact ⟨hListed.provider_eq ▸ hLookup, hListed.provider_eq, rfl⟩
  · rintro ⟨hLookup, rfl, rfl⟩
    exact hLookup

/-- Normalizing trims, so trimming before makes no difference. -/
theorem normalizeSymbol_trim (symbol : Text) :
    normalizeSymbol (Text.trim symbol) = normalizeSymbol symbol := by
  unfold normalizeSymbol
  rw [Text.trim_idem]

/-- A text is looked up under the symbol it normalizes to. -/
theorem get_eq_some (h : c.Listing) {provider : Provider} {market : MarketKind} {symbol : Text}
    {i : Instrument} :
    c.get provider market symbol = some i ↔
      i ∈ c.instruments ∧ i.provider = provider ∧ normalizeSymbol symbol = .ok i.symbol := by
  have hUnder : ∀ normalized, normalizeSymbol symbol = .ok normalized →
      ((c.providers provider).instruments.lookup normalized = some i ↔
        i ∈ c.instruments ∧ i.provider = provider ∧ normalizeSymbol symbol = .ok i.symbol) := by
    intro normalized hNormalized
    rw [mem_instruments_of h, hNormalized, Except.ok.injEq, eq_comm (a := normalized)]
  unfold Catalog.get
  dsimp only
  cases hExact : (c.providers provider).instruments.lookup (Text.trim symbol) with
  | some j =>
    -- a listed symbol is canonical, so it is the one the text normalizes to
    obtain ⟨hSymbol, hListed⟩ := h provider _ j hExact
    have hNormalized : normalizeSymbol symbol = .ok (Text.trim symbol) := by
      rw [← normalizeSymbol_trim, ← hSymbol]
      exact hListed.canonical
    rw [← hUnder _ hNormalized, hExact]
  | none =>
    dsimp only
    rw [normalizeSymbol_trim]
    cases hNormalized : normalizeSymbol symbol with
    | ok normalized =>
      have hFound := hUnder normalized hNormalized
      rwa [hNormalized] at hFound
    | error error => simp

omit [Unicode] in
/-- Against an upper-case text, only the other one is folded. -/
theorem eqIgnoreAsciiCase_upper {t u : Text} (hu : Text.toAsciiUppercase u = u) :
    eqIgnoreAsciiCase t u ↔ Text.toAsciiUppercase t = u := by
  rw [eqIgnoreAsciiCase, decide_eq_true_eq]
  constructor
  · intro hLower
    have hUpper := congrArg Text.toAsciiUppercase hLower
    rwa [Text.toAsciiUppercase_toAsciiLowercase, Text.toAsciiUppercase_toAsciiLowercase,
      hu] at hUpper
  · rintro rfl
    rw [Text.toAsciiLowercase_toAsciiUppercase]

/-- Asking for a canonical symbol of a provider is looking it up. -/
theorem filter_symbol (h : c.Listing) {provider : Provider} {symbol : Text} {i : Instrument} :
    i ∈ c.filter { provider := some provider, symbol := some symbol } ↔
      i ∈ c.instruments ∧ i.provider = provider ∧ i.symbol = Text.toAsciiUppercase symbol := by
  rw [Catalog.filter, List.mem_filter]
  refine and_congr_right fun hMem => ?_
  have hCanonical : Text.toAsciiUppercase i.symbol = i.symbol := by
    obtain ⟨-, hListed⟩ := h i.provider _ i ((mem_instruments h).mp hMem)
    exact normalizeSymbol_upper hListed.canonical
  simp only [CatalogFilter.matches, matchesOptional, Option.all_some, Option.all_none,
    Bool.and_true, Bool.and_eq_true, decide_eq_true_eq, eqIgnoreAsciiCase_upper hCanonical]
  rw [eq_comm (a := i.symbol)]

/-- Asking for a provider lists its snapshot. -/
theorem filter_provider (h : c.Listing) (provider : Provider) :
    c.filter { provider := some provider } =
      instrumentValues (c.providers provider).instruments := by
  -- of the six parts only the provider's own survives
  have hPart : ∀ p, (instrumentValues (c.providers p).instruments).filter
      (CatalogFilter.matches { provider := some provider }) =
      if p = provider then instrumentValues (c.providers p).instruments else [] := by
    intro p
    have hProvider : ∀ i ∈ instrumentValues (c.providers p).instruments,
        CatalogFilter.matches { provider := some provider } i = decide (p = provider) := by
      intro i hi
      obtain ⟨symbol, hLookup⟩ := mem_instrumentValues.mp hi
      obtain ⟨-, hListed⟩ := h p symbol i hLookup
      simp [CatalogFilter.matches, matchesOptional, hListed.provider_eq]
    rw [List.filter_congr hProvider]
    split
    · next hSame => simp [hSame]
    · next hOther => simp [hOther]
  rw [Catalog.filter, Catalog.instruments, List.filter_flatMap]
  simp only [hPart]
  cases provider <;> simp [Provider.all]

/-- A subscription is accepted for what is listed. -/
theorem validateSubscription_eq_ok (h : c.Listing)
    (hDisabled : ∀ p ∉ c.enabledProviders, (c.providers p).instruments = ∅)
    {key : SubscriptionKey} {i : Instrument} :
    c.validateSubscription key = .ok i ↔
      i ∈ c.instruments ∧ i.provider = key.provider ∧
        normalizeSymbol key.symbol = .ok i.symbol := by
  have hGetIff : c.get key.provider key.market key.symbol = some i ↔ _ := get_eq_some h
  rw [← hGetIff]
  unfold Catalog.validateSubscription
  by_cases hEnabled : key.provider ∈ c.enabledProviders
  · rw [if_neg (not_not.mpr hEnabled)]
    cases hGet : c.get key.provider key.market key.symbol with
    | none => simp
    | some j =>
      have hMem := ((get_eq_some h).mp hGet).1
      obtain ⟨-, hListed⟩ := h j.provider _ j ((mem_instruments h).mp hMem)
      -- what is listed streams on every channel
      have hSupports : j.capabilities.supports key.channel = true := by
        rw [hListed.capable]
        cases key.channel <;> rfl
      simp [hSupports]
  · rw [if_pos hEnabled]
    refine ⟨nofun, fun hGet => ?_⟩
    obtain ⟨hMem, hProvider, -⟩ := (get_eq_some h).mp hGet
    -- a disabled provider has no instruments, though the query may name one
    have hLookup := (mem_instruments h).mp hMem
    rw [hProvider, hDisabled _ hEnabled, Finmap.lookup_empty] at hLookup
    cases hLookup

end Answers

/-! ## The statuses -/

section Statuses

variable [Unicode] [RustDecimal]

/-- The latest refresh of a provider. -/
def lastRefresh (provider : Provider) (done : List Refresh) : Option Refresh :=
  (done.filter (·.provider = provider)).getLast?

/-- The latest refresh of a provider that succeeded. -/
def lastSuccess (provider : Provider) (done : List Refresh) : Option Refresh :=
  (done.filter fun refresh =>
    refresh.provider = provider ∧ (Catalog.refreshed refresh).isOk).getLast?

/-- A status tells how the refreshes so far went. -/
structure StatusTells (enabledProviders : Finset Provider) (provider : Provider)
    (status : ProviderCatalogStatus) (done : List Refresh) : Prop where
  provider_eq : status.provider = provider
  enabled : status.enabled = decide (provider ∈ enabledProviders)
  attempt : status.lastAttemptAtMs = (lastRefresh provider done).map (·.attemptedAtMs)
  success : status.lastSuccessAtMs = (lastSuccess provider done).map (·.refreshedAtMs)
  error : status.lastError = (lastRefresh provider done).bind fun refresh =>
    match Catalog.refreshed refresh with
    | .error error => some error.display
    | .ok _ => none

omit [Unicode] [RustDecimal] in
/-- The last element with a property, of a list with one more at the end. -/
theorem getLast?_filter_concat {α : Type} (p : α → Bool) (l : List α) (a : α) :
    ((l ++ [a]).filter p).getLast? = if p a then some a else (l.filter p).getLast? := by
  rw [List.filter_append]
  cases hMatch : p a <;> simp [hMatch]

omit [Unicode] [RustDecimal] in
/-- The last refresh of a provider, after one more refresh. -/
theorem lastRefresh_concat (provider : Provider) (done : List Refresh) (refresh : Refresh) :
    lastRefresh provider (done ++ [refresh]) =
      if refresh.provider = provider then some refresh else lastRefresh provider done := by
  unfold lastRefresh
  rw [getLast?_filter_concat]
  simp only [decide_eq_true_eq]

/-- The last success of a provider, after one more refresh. -/
theorem lastSuccess_concat (provider : Provider) (done : List Refresh) (refresh : Refresh) :
    lastSuccess provider (done ++ [refresh]) =
      if refresh.provider = provider ∧ (Catalog.refreshed refresh).isOk then some refresh
      else lastSuccess provider done := by
  unfold lastSuccess
  rw [getLast?_filter_concat]
  simp only [decide_eq_true_eq]

namespace StatusTells

variable {enabledProviders : Finset Provider} {provider : Provider}

/-- A refresh of another provider. -/
theorem other {status : ProviderCatalogStatus} {done : List Refresh}
    (h : StatusTells enabledProviders provider status done) {refresh : Refresh}
    (hOther : refresh.provider ≠ provider) :
    StatusTells enabledProviders provider status (done ++ [refresh]) := by
  have hLast : lastRefresh provider (done ++ [refresh]) = lastRefresh provider done := by
    rw [lastRefresh_concat, if_neg hOther]
  have hSuccess : lastSuccess provider (done ++ [refresh]) = lastSuccess provider done := by
    rw [lastSuccess_concat, if_neg fun hBoth => hOther hBoth.1]
  refine ⟨h.provider_eq, h.enabled, ?_, ?_, ?_⟩
  · rw [hLast]
    exact h.attempt
  · rw [hSuccess]
    exact h.success
  · rw [hLast]
    exact h.error

/-- After a refresh the status of its provider tells of it; another status stays. -/
theorem step {c : Catalog} {done : List Refresh}
    (h : StatusTells enabledProviders provider (c.status provider) done) {refresh : Refresh}
    (hEnabled : refresh.provider ∈ c.enabledProviders) :
    StatusTells enabledProviders provider ((c.step refresh).status provider)
      (done ++ [refresh]) := by
  by_cases hSame : refresh.provider = provider
  · subst hSame
    have hLast : lastRefresh refresh.provider (done ++ [refresh]) = some refresh := by
      rw [lastRefresh_concat, if_pos rfl]
    unfold Catalog.status Catalog.step Catalog.refreshProvider
    rw [if_neg (not_not.mpr hEnabled)]
    dsimp only
    -- a failure keeps the listing and its time, and only its error is noted
    cases hRefreshed : Catalog.refreshed refresh with
    | error error =>
      dsimp only
      rw [Catalog.put_providers, if_pos rfl]
      refine ⟨h.provider_eq, h.enabled, ?_, ?_, ?_⟩
      · rw [hLast]
        rfl
      · rw [lastSuccess_concat, hRefreshed, if_neg fun hBoth => Bool.noConfusion hBoth.2]
        exact h.success
      · rw [hLast, Option.bind_some, hRefreshed]
    | ok instruments =>
      dsimp only
      rw [Catalog.put_providers, if_pos rfl]
      refine ⟨h.provider_eq, h.enabled, ?_, ?_, ?_⟩
      · rw [hLast]
        rfl
      · rw [lastSuccess_concat, hRefreshed, if_pos ⟨rfl, rfl⟩]
        rfl
      · rw [hLast, Option.bind_some, hRefreshed]
  · have hStatus : (c.step refresh).status provider = c.status provider :=
      congrArg ProviderSnapshot.status ((step_providers hEnabled provider).1 hSame)
    rw [hStatus]
    exact h.other hSame

end StatusTells

/-- The statuses of a catalog after refreshes of enabled providers. -/
theorem run_statusTells (enabledProviders : Finset Provider) {done : List Refresh}
    (hEnabled : ∀ refresh ∈ done, refresh.provider ∈ enabledProviders) (provider : Provider) :
    (run Catalog.step (Catalog.new enabledProviders) done).enabledProviders = enabledProviders ∧
    StatusTells enabledProviders provider
      ((run Catalog.step (Catalog.new enabledProviders) done).status provider) done := by
  induction done using List.reverseRecOn with
  | nil => exact ⟨rfl, rfl, rfl, rfl, rfl, rfl⟩
  | append_singleton done refresh ih =>
    obtain ⟨hSame, hTells⟩ := ih fun r hr => hEnabled r (List.mem_append_left _ hr)
    rw [run_append]
    refine ⟨(Refreshing.catalog_step_enabledProviders _ refresh).trans hSame, hTells.step ?_⟩
    rw [hSame]
    exact hEnabled refresh (List.mem_append_right _ (List.mem_singleton_self _))

/-- There is a last success where there is any. -/
theorem lastSuccess_isSome {provider : Provider} {done : List Refresh} :
    (lastSuccess provider done).isSome ↔
      ∃ refresh ∈ done, refresh.provider = provider ∧ (Catalog.refreshed refresh).isOk := by
  rw [lastSuccess, List.getLast?_isSome, ← List.length_pos_iff, List.length_pos_iff_exists_mem]
  simp only [List.mem_filter, decide_eq_true_eq]

/-- The catalogs are ready when each enabled provider was listed once. -/
theorem ready_iff {c : Catalog} {enabledProviders : Finset Provider} {done : List Refresh}
    (h : ∀ p, StatusTells enabledProviders p (c.status p) done) :
    c.ready ↔ ∀ p ∈ enabledProviders, ∃ refresh ∈ done, refresh.provider = p ∧
      (Catalog.refreshed refresh).isOk := by
  -- a status has the time of a success exactly if a refresh succeeded
  have hSuccess : ∀ p, (c.status p).lastSuccessAtMs.isSome ↔
      ∃ refresh ∈ done, refresh.provider = p ∧ (Catalog.refreshed refresh).isOk := by
    intro p
    rw [(h p).success, Option.isSome_map, lastSuccess_isSome]
  rw [Catalog.ready, List.all_eq_true]
  constructor
  · intro hAll p hp
    refine (hSuccess p).mp (hAll _ (List.mem_filter.mpr ⟨?_, ?_⟩))
    · exact List.mem_map_of_mem (Provider.mem_all p)
    · rw [(h p).enabled]
      exact decide_eq_true hp
  · intro hListed status hStatus
    obtain ⟨hMem, hShown⟩ := List.mem_filter.mp hStatus
    obtain ⟨p, -, rfl⟩ := List.mem_map.mp hMem
    rw [(h p).enabled] at hShown
    exact (hSuccess p).mpr (hListed p (of_decide_eq_true hShown))

end Statuses

/-! ## Every interleaving -/

section Interleavings

variable [Unicode] [RustDecimal] (enabledProviders : Finset Provider) (ops : List RefreshOp)

/-- The catalog after a run of calls has run through the refreshes they completed. -/
theorem catalog_after :
    (run Refreshing.step (.start enabledProviders) ops).catalog =
      run Catalog.step (.new enabledProviders)
        (trace Refreshing.step Refreshing.completed (.start enabledProviders) ops) :=
  run_project Refreshing.step_catalog (Refreshing.start enabledProviders) ops

/-- The catalog is fit after every run. -/
theorem catalog_listing : (run Refreshing.step (.start enabledProviders) ops).catalog.Listing := by
  rw [catalog_after]
  exact Catalog.refreshed_listed enabledProviders _

/-- A disabled provider lists nothing. -/
theorem catalog_disabled :
    let c := (run Refreshing.step (.start enabledProviders) ops).catalog
    ∀ p ∉ c.enabledProviders, (c.providers p).instruments = ∅ := by
  intro c p hp
  have hInterleaved := Refreshing.interleaved enabledProviders ops
  rw [hInterleaved.snapshots.instruments p, latestListing_eq_none]
  · rfl
  · rintro refresh hRefresh rfl
    rw [show c.enabledProviders = enabledProviders from hInterleaved.serialised.enabled_eq] at hp
    exact hp (hInterleaved.enabled refresh hRefresh)

/-- **Queries.** In every interleaving of refreshes, whatever the venues answer,
the questions to the catalog are answered from one listing: it is in strict order
of providers and symbols, no two of its instruments have the same identifier; the
lookup by identifier, the lookup by symbol, the filter by symbol and the check of
a subscription find exactly the instruments of the listing they are about. -/
theorem catalog_queries (enabledProviders : Finset Provider) (ops : List RefreshOp) :
    let c := (run Refreshing.step (.start enabledProviders) ops).catalog
    (c.list.Pairwise fun i j => i.place < j.place) ∧
    (c.list.map (·.instrumentId)).Nodup ∧
    (∀ id i, c.getById id = some i ↔ i ∈ c.list ∧ i.instrumentId = id) ∧
    (∀ provider market symbol i, c.get provider market symbol = some i ↔
      i ∈ c.list ∧ i.provider = provider ∧ normalizeSymbol symbol = .ok i.symbol) ∧
    (∀ provider symbol i,
      i ∈ c.filter { provider := some provider, symbol := some symbol } ↔
      i ∈ c.list ∧ i.provider = provider ∧ i.symbol = Text.toAsciiUppercase symbol) ∧
    ∀ key i, c.validateSubscription key = .ok i ↔
      i ∈ c.list ∧ i.provider = key.provider ∧ normalizeSymbol key.symbol = .ok i.symbol := by
  intro c
  have hListing : c.Listing := catalog_listing enabledProviders ops
  -- all queries read the same sorted list
  rw [list_eq_instruments]
  exact ⟨instruments_places hListing, instruments_ids hListing,
    fun id i => find?_eq_some_iff_of_nodup (instruments_ids hListing),
    fun provider market symbol i => get_eq_some hListing,
    fun provider symbol i => filter_symbol hListing,
    fun key i => validateSubscription_eq_ok hListing (catalog_disabled enabledProviders ops)⟩

/-- **Statuses.** In every interleaving of refreshes the status of a provider
tells how its refreshes went: when the latest was attempted and what its error
was, when the latest success was, and how many of the listed instruments are its
own. The service is ready exactly when every supervised endpoint is and every
enabled provider was listed at least once; no later refresh takes the catalogs'
part of it back. -/
theorem catalog_statuses (enabledProviders : Finset Provider) (ops : List RefreshOp) :
    let s := run Refreshing.step (.start enabledProviders) ops
    let done := trace Refreshing.step Refreshing.completed (.start enabledProviders) ops
    (∀ p, StatusTells enabledProviders p (s.catalog.status p) done ∧
      (s.catalog.status p).instrumentCount =
        (s.catalog.filter { provider := some p }).length) ∧
    (∀ {adapter : Provider → ProviderAdapter} (r : Runtime adapter) (supervised : List EndpointKey),
      serviceReadiness r supervised s.catalog = (200, "ready".toList) ↔
        r.readiness supervised ∧ ∀ p ∈ enabledProviders, ∃ refresh ∈ done,
          refresh.provider = p ∧ (Catalog.refreshed refresh).isOk) ∧
    (s.catalog.ready → ∀ later, (run Refreshing.step s later).catalog.ready) := by
  intro s done
  -- stated for every run, since readiness is about a longer one
  have hTells : ∀ ops p, StatusTells enabledProviders p
      ((run Refreshing.step (.start enabledProviders) ops).catalog.status p)
      (trace Refreshing.step Refreshing.completed (.start enabledProviders) ops) := by
    intro ops p
    rw [catalog_after]
    exact (run_statusTells enabledProviders
      (Refreshing.interleaved enabledProviders ops).enabled p).2
  have hListing : s.catalog.Listing := catalog_listing enabledProviders ops
  refine ⟨fun p => ⟨hTells ops p, ?_⟩, fun r supervised => ?_, fun hReady later => ?_⟩
  · rw [filter_provider hListing, values_length]
    exact (Refreshing.interleaved enabledProviders ops).snapshots.count p
  · rw [← ready_iff (hTells ops), ← Bool.and_eq_true]
    unfold serviceReadiness
    split
    · next hReady => exact iff_of_true rfl hReady
    · next hDegraded => exact iff_of_false (by decide) hDegraded
  · have hLater := (ready_iff (hTells ops)).mp hReady
    rw [show run Refreshing.step s later = run Refreshing.step (.start enabledProviders)
      (ops ++ later) from (run_append _ _ _ _).symm]
    refine (ready_iff (hTells (ops ++ later))).mpr fun p hp => ?_
    obtain ⟨refresh, hMem, hSuccess⟩ := hLater p hp
    rw [trace_append]
    exact ⟨refresh, List.mem_append_left _ hMem, hSuccess⟩

end Interleavings

end MarketStreamGateway
