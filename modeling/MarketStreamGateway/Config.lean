import MarketStreamGateway.SystemDemand
import MarketStreamGateway.HubRoutes
import MarketStreamGateway.Lib.Result

/-!
# Market Stream Gateway — settings

`Settings` of `config.rs` with its checks, and what `main.rs` makes of it: the
enabled providers, their adapters, the subscription ceilings and the initial
state of the gateway.

The settings that only reach code outside the model (addresses, log format,
URLs once they are checked, intervals of the refresher) are kept where `validate`
reads them.

Main results:
* `accepts_iff` — what accepted settings guarantee.
* `configured_run` — a gateway started from accepted settings never leaves them:
  demand, connections, clients and the greeting stay within what was configured
  and what the venues declare.
-/

namespace MarketStreamGateway

open Lib

/-! ## Settings -/

/-- The parts of a URL the checks look at. -/
structure Url where
  scheme : Text
  path : Text
  query : Option Text
  fragment : Option Text
  deriving DecidableEq, Repr

/-- The values of the option that selects providers. -/
inductive ProviderSelection where
  | all | none | bybit | binance | okx | kucoin | mexc | bingx
  deriving DecidableEq, Repr

/-- A value that names a provider selects it. -/
def ProviderSelection.provider : ProviderSelection → Option Provider
  | .all | .none => Option.none
  | .bybit => some .bybit
  | .binance => some .binance
  | .okx => some .okx
  | .kucoin => some .kucoin
  | .mexc => some .mexc
  | .bingx => some .bingx

/-- The settings of the command line and the environment, as they are parsed. -/
structure Settings where
  downstreamBuffer : Nat
  maxDownstreamClients : Nat
  maxClientSubscriptions : Nat
  maxProviderSubscriptions : Option Nat
  maxCommandBytes : Nat
  maxHistoryRequests : Nat
  allowedOrigins : List Text
  upstreamBackoffMinMs : Nat
  upstreamBackoffMaxMs : Nat
  stableConnectionSeconds : Nat
  shutdownGraceSeconds : Nat
  catalogRefreshSeconds : Nat
  bybitWsUrl : Url
  binanceWsUrl : Url
  okxPublicWsUrl : Url
  okxBusinessWsUrl : Url
  mexcWsUrl : Url
  bingxWsUrl : Url
  bybitRestUrl : Url
  binanceFuturesRestUrl : Url
  okxRestUrl : Url
  kucoinFuturesRestUrl : Url
  mexcFuturesRestUrl : Url
  bingxSwapRestUrl : Url
  providers : List ProviderSelection

/-- One check of `validate`. -/
def refuseIf (bad : Bool) (message : Text) : Except Text Unit :=
  if bad then .error message else .ok ()

/-- A check passes where its condition is not met. -/
theorem refuseIf_eq_ok {bad : Bool} {message : Text} :
    refuseIf bad message = .ok () ↔ bad = false := by
  unfold refuseIf
  cases bad <;> simp

namespace Settings

/-- The websocket URLs, under the names their errors call them by. -/
def websocketUrls (s : Settings) : List (Text × Url) :=
  [("Bybit websocket".toList, s.bybitWsUrl), ("Binance websocket".toList, s.binanceWsUrl),
    ("OKX public websocket".toList, s.okxPublicWsUrl),
    ("OKX business websocket".toList, s.okxBusinessWsUrl),
    ("MEXC websocket".toList, s.mexcWsUrl), ("BingX websocket".toList, s.bingxWsUrl)]

/-- The REST URLs, likewise. -/
def restUrls (s : Settings) : List (Text × Url) :=
  [("Bybit REST".toList, s.bybitRestUrl),
    ("Binance Futures REST".toList, s.binanceFuturesRestUrl), ("OKX REST".toList, s.okxRestUrl),
    ("KuCoin Futures REST".toList, s.kucoinFuturesRestUrl),
    ("MEXC Futures REST".toList, s.mexcFuturesRestUrl),
    ("BingX Swap REST".toList, s.bingxSwapRestUrl)]

/-- The check of a websocket URL. -/
def checkWebsocketUrl (url : Text × Url) : Except Text Unit :=
  refuseIf (url.2.scheme ∉ ["ws".toList, "wss".toList])
    (url.1 ++ " URL must use ws or wss".toList)

/-- The check of a REST URL, to which paths are appended. -/
def checkRestUrl (url : Text × Url) : Except Text Unit := do
  refuseIf (url.2.scheme ∉ ["http".toList, "https".toList])
    (url.1 ++ " URL must use http or https".toList)
  refuseIf (url.2.query.isSome || url.2.fragment.isSome || url.2.path.getLast? ≠ some '/')
    (url.1 ++ " URL must be a root URL ending in / without a query or fragment".toList)

/-- Validate limits that Clap cannot express as scalar parsers. -/
def validate (s : Settings) : Except Text Unit := do
  refuseIf (s.downstreamBuffer = 0) "downstream buffer must be greater than zero".toList
  refuseIf (s.maxDownstreamClients = 0) "max downstream clients must be greater than zero".toList
  refuseIf (s.maxClientSubscriptions = 0)
    "max client subscriptions must be greater than zero".toList
  refuseIf (s.maxProviderSubscriptions = some 0)
    "max provider subscriptions must be greater than zero".toList
  refuseIf (s.maxCommandBytes = 0) "max command bytes must be greater than zero".toList
  refuseIf (s.maxHistoryRequests = 0) "max history requests must be greater than zero".toList
  refuseIf (s.upstreamBackoffMinMs = 0 || s.upstreamBackoffMaxMs < s.upstreamBackoffMinMs)
    "upstream reconnect backoff range is invalid".toList
  refuseIf (s.stableConnectionSeconds = 0 || s.shutdownGraceSeconds = 0 ||
      s.catalogRefreshSeconds = 0)
    "connection stability, shutdown, and catalog refresh durations must be positive".toList
  s.websocketUrls.forM checkWebsocketUrl
  s.restUrls.forM checkRestUrl
  refuseIf s.providers.isEmpty "providers must contain at least one selection".toList
  refuseIf ((ProviderSelection.all ∈ s.providers || ProviderSelection.none ∈ s.providers) &&
      s.providers.length ≠ 1)
    "all and none provider selections cannot be combined".toList
  refuseIf (s.allowedOrigins.any List.isEmpty)
    "allowed origins must not contain an empty value".toList

/-- The value `none` is looked for first, then `all`. -/
def enabledProviders (s : Settings) : Finset Provider :=
  if ProviderSelection.none ∈ s.providers then ∅
  else if ProviderSelection.all ∈ s.providers then Provider.all.toFinset
  else (s.providers.filterMap ProviderSelection.provider).toFinset

end Settings

/-! ## Ceilings -/

/-- Tighten every ceiling to at most `ceiling`. -/
def ProviderLimits.cappedAt (l : ProviderLimits) (ceiling : Nat) : ProviderLimits where
  limits p := (l.limits p).map (min · ceiling)
  fallback := min l.fallback ceiling

/-- The enabled providers, in the order their adapters are made. -/
def configuredAdapters (enabled : Finset Provider) : List Provider :=
  Provider.all.filter (· ∈ enabled)

section Start

variable [Unicode] [JsonText] [MarketData]

/-- Each enabled provider's declared capacity, tightened by the override. -/
def providerLimits (adapters : List Provider) (overrideCeiling : Option Nat) : ProviderLimits :=
  let limits : ProviderLimits :=
    { limits := fun p =>
        if p ∈ adapters then some (configuredAdapter p).maxSubscriptions else none
      fallback := defaultMaxProviderSubscriptions }
  match overrideCeiling with
  | some ceiling => limits.cappedAt ceiling
  | none => limits

/-- The limits of the registry. -/
def Settings.limits (s : Settings) : ProviderLimits :=
  providerLimits (configuredAdapters s.enabledProviders) s.maxProviderSubscriptions

/-- The part of the settings that sessions read. -/
def Settings.apiConfig (s : Settings) : ApiConfig :=
  ⟨s.enabledProviders, s.maxCommandBytes⟩

end Start

/-! ## What the checks guarantee -/

/-- Settings a gateway is started with. -/
structure Settings.Accepted (s : Settings) : Prop where
  buffer : 0 < s.downstreamBuffer
  clients : 0 < s.maxDownstreamClients
  clientSubscriptions : 0 < s.maxClientSubscriptions
  ceiling : s.maxProviderSubscriptions ≠ some 0
  commandBytes : 0 < s.maxCommandBytes
  historyRequests : 0 < s.maxHistoryRequests
  backoff : 0 < s.upstreamBackoffMinMs ∧ s.upstreamBackoffMinMs ≤ s.upstreamBackoffMaxMs
  durations : 0 < s.stableConnectionSeconds ∧ 0 < s.shutdownGraceSeconds ∧
    0 < s.catalogRefreshSeconds
  websockets : ∀ url ∈ s.websocketUrls, url.2.scheme = "ws".toList ∨ url.2.scheme = "wss".toList
  rest : ∀ url ∈ s.restUrls, (url.2.scheme = "http".toList ∨ url.2.scheme = "https".toList) ∧
    url.2.query = none ∧ url.2.fragment = none ∧ url.2.path.getLast? = some '/'
  selected : s.providers ≠ []
  /-- `all` and `none` stand alone. -/
  exclusive : .all ∈ s.providers ∨ .none ∈ s.providers → s.providers.length = 1
  origins : [] ∉ s.allowedOrigins

/-- A list of checks passes when each of them does. -/
theorem forM_eq_ok {ε α : Type} {f : α → Except ε Unit} {l : List α} :
    l.forM f = .ok () ↔ ∀ a ∈ l, f a = .ok () := by
  induction l with
  | nil => simp [pure, Except.pure]
  | cons a l ih =>
    show (do f a; l.forM f) = .ok () ↔ _
    rw [unit_bind_eq_ok, ih, List.forall_mem_cons]

/-- The check of a websocket URL, as a property. -/
theorem checkWebsocketUrl_eq_ok {url : Text × Url} :
    Settings.checkWebsocketUrl url = .ok () ↔
      url.2.scheme = "ws".toList ∨ url.2.scheme = "wss".toList := by
  rw [Settings.checkWebsocketUrl, refuseIf_eq_ok]
  simp only [decide_eq_false_iff_not, not_not, List.mem_cons, List.not_mem_nil, or_false]

/-- The check of a REST URL, as a property. -/
theorem checkRestUrl_eq_ok {url : Text × Url} :
    Settings.checkRestUrl url = .ok () ↔
      (url.2.scheme = "http".toList ∨ url.2.scheme = "https".toList) ∧
      url.2.query = none ∧ url.2.fragment = none ∧ url.2.path.getLast? = some '/' := by
  rw [Settings.checkRestUrl, unit_bind_eq_ok, refuseIf_eq_ok, refuseIf_eq_ok]
  simp only [decide_eq_false_iff_not, not_not, List.mem_cons, List.not_mem_nil, or_false,
    Bool.or_eq_false_iff, Option.isSome_eq_false_iff, Option.isNone_iff_eq_none, and_assoc,
    ne_eq]

/-- Accepted settings are those that pass every check. -/
theorem accepts_iff (s : Settings) : s.validate = .ok () ↔ s.Accepted := by
  simp only [Settings.validate, unit_bind_eq_ok, refuseIf_eq_ok, forM_eq_ok,
    checkWebsocketUrl_eq_ok, checkRestUrl_eq_ok, decide_eq_false_iff_not, Bool.or_eq_false_iff,
    Bool.and_eq_false_iff, List.isEmpty_eq_false_iff]
  constructor
  · rintro ⟨hBuffer, hClients, hSubs, hCeiling, hBytes, hHistory, ⟨hMin, hMax⟩,
      ⟨⟨hStable, hGrace⟩, hRefresh⟩, hWs, hRest, hSome, hAlone, hOrigins⟩
    refine ⟨by omega, by omega, by omega, hCeiling, by omega, by omega, ⟨by omega, by omega⟩,
      ⟨by omega, by omega, by omega⟩, hWs, hRest, hSome, fun hSpecial => ?_, fun hEmpty => ?_⟩
    · -- a special provider stands alone in the list
      rcases hAlone with ⟨hAll, hNone⟩ | hOne
      · exact (hSpecial.elim hAll hNone).elim
      · exact not_not.mp hOne
    · exact Bool.eq_false_iff.mp hOrigins (List.any_eq_true.mpr ⟨[], hEmpty, rfl⟩)
  · intro h
    refine ⟨h.buffer.ne', h.clients.ne', h.clientSubscriptions.ne', h.ceiling,
      h.commandBytes.ne', h.historyRequests.ne', ⟨h.backoff.1.ne', not_lt.mpr h.backoff.2⟩,
      ⟨⟨h.durations.1.ne', h.durations.2.1.ne'⟩, h.durations.2.2.ne'⟩, h.websockets, h.rest,
      h.selected, ?_, ?_⟩
    · by_cases hSpecial : .all ∈ s.providers ∨ .none ∈ s.providers
      · exact Or.inr (not_not.mpr (h.exclusive hSpecial))
      · exact Or.inl (not_or.mp hSpecial)
    · rw [Bool.eq_false_iff]
      intro hAny
      obtain ⟨origin, hOrigin, hEmpty⟩ := List.any_eq_true.mp hAny
      obtain rfl := List.isEmpty_iff.mp hEmpty
      exact h.origins hOrigin

/-! ## The ceilings -/

/-- The greeting's scalar is safe for every provider with a ceiling of its own. -/
theorem minimum_le {l : ProviderLimits} {p : Provider} {limit : Nat} (h : l.limits p = some limit) :
    l.minimum ≤ l.limitFor p := by
  have hMem : limit ∈ Provider.all.filterMap l.limits :=
    List.mem_filterMap.mpr ⟨p, Provider.mem_all p, h⟩
  rw [ProviderLimits.minimum, ProviderLimits.limitFor, h, Option.getD_some]
  cases hMin : (Provider.all.filterMap l.limits).min? with
  | none =>
    rw [List.min?_eq_none_iff] at hMin
    rw [hMin] at hMem
    cases hMem
  | some least => exact (List.min?_eq_some_iff.mp hMin).2 limit hMem

/-- It is one of the ceilings. -/
theorem minimum_cases (l : ProviderLimits) :
    l.minimum = l.fallback ∨ ∃ p, l.limits p = some l.minimum := by
  rw [ProviderLimits.minimum]
  cases hMin : (Provider.all.filterMap l.limits).min? with
  | none => exact Or.inl rfl
  | some least =>
    obtain ⟨p, -, hp⟩ := List.mem_filterMap.mp (List.min?_eq_some_iff.mp hMin).1
    exact Or.inr ⟨p, hp⟩

section Ceilings

variable [Unicode] [JsonText] [MarketData]

/-- Every venue declares room for something. -/
theorem maxSubscriptions_pos (p : Provider) : 0 < (configuredAdapter p).maxSubscriptions := by
  cases p <;> exact Nat.succ_pos _

omit [Unicode] [JsonText] [MarketData] in
/-- There is an adapter for each enabled provider. -/
theorem mem_configuredAdapters {enabled : Finset Provider} {p : Provider} :
    p ∈ configuredAdapters enabled ↔ p ∈ enabled := by
  simp [configuredAdapters, Provider.mem_all]

/-- A ceiling as the override leaves it. -/
def tightened (overrideCeiling : Option Nat) (limit : Nat) : Nat :=
  match overrideCeiling with
  | some ceiling => min limit ceiling
  | none => limit

/-- Every adapter's provider has its own ceiling, the others the default; an
override tightens them all. -/
theorem providerLimits_spec (adapters : List Provider) (overrideCeiling : Option Nat) :
    (∀ p, (providerLimits adapters overrideCeiling).limits p = if p ∈ adapters
      then some (tightened overrideCeiling (configuredAdapter p).maxSubscriptions) else none) ∧
    (providerLimits adapters overrideCeiling).fallback =
      tightened overrideCeiling defaultMaxProviderSubscriptions := by
  unfold providerLimits
  cases overrideCeiling with
  | none => exact ⟨fun p => rfl, rfl⟩
  | some ceiling =>
    refine ⟨fun p => ?_, rfl⟩
    show Option.map _ (if p ∈ adapters then _ else _) = _
    split <;> rfl

omit [Unicode] [JsonText] [MarketData] in
/-- An override never raises a limit. -/
theorem tightened_le (overrideCeiling : Option Nat) (limit : Nat) :
    tightened overrideCeiling limit ≤ limit ∧
      ∀ ceiling, overrideCeiling = some ceiling → tightened overrideCeiling limit ≤ ceiling := by
  cases overrideCeiling with
  | none => exact ⟨le_rfl, nofun⟩
  | some ceiling =>
    refine ⟨Nat.min_le_left _ _, fun ceiling' hEq => ?_⟩
    obtain rfl := Option.some.inj hEq
    exact Nat.min_le_right _ _

omit [Unicode] [JsonText] [MarketData] in
/-- An override forbids nothing altogether, unless it is zero. -/
theorem tightened_pos {overrideCeiling : Option Nat} (h : overrideCeiling ≠ some 0) {limit : Nat}
    (hLimit : 0 < limit) : 0 < tightened overrideCeiling limit := by
  cases overrideCeiling with
  | none => exact hLimit
  | some ceiling =>
    refine Nat.lt_min.mpr ⟨hLimit, Nat.pos_of_ne_zero fun hZero => h ?_⟩
    rw [hZero]

/-- An enabled provider has a ceiling of its own: what it declares, or the
override if that is lower. -/
theorem limits_enabled {s : Settings} {p : Provider} (hp : p ∈ s.enabledProviders) :
    s.limits.limits p =
      some (tightened s.maxProviderSubscriptions (configuredAdapter p).maxSubscriptions) := by
  rw [Settings.limits, (providerLimits_spec _ _).1, if_pos (mem_configuredAdapters.mpr hp)]

/-- An enabled provider is never asked for more than its venue or the settings allow. -/
theorem limitFor_le {s : Settings} {p : Provider} (hp : p ∈ s.enabledProviders) :
    s.limits.limitFor p ≤ (configuredAdapter p).maxSubscriptions ∧
      ∀ ceiling, s.maxProviderSubscriptions = some ceiling → s.limits.limitFor p ≤ ceiling := by
  rw [ProviderLimits.limitFor, limits_enabled hp, Option.getD_some]
  exact tightened_le _ _

/-- Accepted settings leave room for a subscription. -/
theorem minimum_pos {s : Settings} (h : s.Accepted) : 0 < s.limits.minimum := by
  obtain ⟨hLimits, hFallback⟩ := providerLimits_spec (configuredAdapters s.enabledProviders)
    s.maxProviderSubscriptions
  rcases minimum_cases s.limits with hMin | ⟨p, hp⟩
  · rw [hMin, Settings.limits, hFallback]
    exact tightened_pos h.ceiling (by decide)
  · rw [Settings.limits, hLimits] at hp
    split at hp
    · have hPos := tightened_pos h.ceiling (maxSubscriptions_pos p)
      rwa [Option.some.inj hp] at hPos
    · cases hp

end Ceilings

/-! ## What stays within the settings -/

/-- The operation adds keys of the given providers only. -/
def RegistryOp.Within (enabled : Finset Provider) : RegistryOp → Prop
  | .add _ _ keys => ∀ key ∈ keys, key.provider ∈ enabled
  | .remove _ _ | .cleanupClient _ => True

/-- Every client set has keys of the given providers only. -/
def SubscriptionRegistry.Within (enabled : Finset Provider) (r : SubscriptionRegistry) : Prop :=
  ∀ client, ∀ key ∈ r.state.clientSet client, key.provider ∈ enabled

/-- An operation on keys of enabled providers keeps the registry to them. -/
theorem within_step {enabled : Finset Provider} {r : SubscriptionRegistry}
    (h : r.Within enabled) {op : RegistryOp} (hOp : op.Within enabled) :
    (r.step op).Within enabled := by
  intro client key hKey
  -- the call is refused by a provider, or does what it says
  by_cases hUnlimited : r.Unlimited op
  · rw [step_clientSet hUnlimited] at hKey
    split at hKey
    · cases op with
      | add order c keys =>
        simp only [RegistryOp.call, applyCall] at hKey
        split at hKey
        · exact h client key hKey
        · -- a key was there, or is one that the call may add
          rcases Finset.mem_union.mp hKey with hOld | hNew
          · exact h client key hOld
          · exact hOp key (List.mem_toFinset.mp hNew)
      | remove c keys => exact h client key (Finset.sdiff_subset hKey)
      | cleanupClient c => exact absurd hKey (Finset.notMem_empty key)
    · exact h client key hKey
  · -- a refused call leaves the registry as it is
    cases op with
    | add order c keys =>
      have hSame : (r.step (.add order c keys)) = r := by
        rcases add_cases r order c keys with
          ⟨-, _, hAdd⟩ | ⟨-, ⟨-, hAdd⟩ | ⟨_, _, _, hAdd⟩ | ⟨s, activated, -, hAdd⟩⟩
        · exact congrArg Prod.snd hAdd
        · exact congrArg Prod.snd hAdd
        · exact congrArg Prod.snd hAdd
        · refine absurd ?_ hUnlimited
          intro provider limit requested hRefused
          rw [hAdd] at hRefused
          cases hRefused
      rw [hSame] at hKey
      exact h client key hKey
    | remove c keys => exact absurd trivial hUnlimited
    | cleanupClient c => exact absurd trivial hUnlimited

/-- A registry that keeps to the settings. -/
structure Configured (enabled : Finset Provider) (maxPerClient : Nat) (limits : ProviderLimits)
    (r : SubscriptionRegistry) : Prop where
  invariant : RegistryInvariant r
  perClient : r.maxSubscriptionsPerClient = maxPerClient
  perProvider : r.providerLimits = limits
  within : r.Within enabled

namespace Configured

variable {enabled : Finset Provider} {maxPerClient : Nat} {limits : ProviderLimits}
  {r : SubscriptionRegistry}

/-- A registry starts as configured. -/
theorem start (enabled : Finset Provider) (maxPerClient : Nat) (limits : ProviderLimits) :
    Configured enabled maxPerClient limits (.withProviderLimits maxPerClient limits) :=
  ⟨registryInvariant_init maxPerClient limits, rfl, rfl,
    fun _ key hKey => absurd hKey (Finset.notMem_empty key)⟩

/-- A step within the enabled providers leaves it so. -/
theorem step (h : Configured enabled maxPerClient limits r) {op : RegistryOp}
    (hOp : op.Within enabled) : Configured enabled maxPerClient limits (r.step op) := by
  obtain ⟨hClient, hProvider⟩ := step_limits r op
  exact ⟨registryInvariant_step h.invariant op, hClient.trans h.perClient,
    hProvider.trans h.perProvider, within_step h.within hOp⟩

/-- Only enabled providers are in demand. -/
theorem desired (h : Configured enabled maxPerClient limits r) :
    ∀ key ∈ r.desired, key.provider ∈ enabled := by
  intro key hKey
  rw [h.invariant.snapshot, h.invariant.desired, Demand.mem_desired] at hKey
  obtain ⟨client, hHolds⟩ := hKey
  rw [RegistryState.mem_demand] at hHolds
  exact h.within client key hHolds

/-- No provider has more keys desired than its limit. -/
theorem card_le (h : Configured enabled maxPerClient limits r) (p : Provider) :
    (r.desired.filter fun key => key.provider = p).card ≤ limits.limitFor p := by
  have hLimit := h.invariant.providerLimit p
  rwa [h.perProvider, ← h.invariant.snapshot] at hLimit

/-- The share of an endpoint keeps to the ceiling of its provider. -/
theorem share_le (h : Configured enabled maxPerClient limits r) (a : ProviderAdapter)
    (provider : Provider) (endpoint : EndpointKind) :
    (filterDesired provider a endpoint r.desired).card ≤ limits.limitFor provider := by
  refine (Finset.card_le_card fun key hKey => ?_).trans (h.card_le provider)
  obtain ⟨hIn, hProvider, -⟩ := Finset.mem_filter.mp hKey
  exact Finset.mem_filter.mpr ⟨hIn, hProvider⟩

end Configured

/-- Every frame that greets a client tells the same. -/
def Greets (epoch : Uuid) (maxPerClient : Nat) (limits : ProviderLimits) : Frame → Prop
  | .control (.hello streamEpoch maxSubscriptions maxProviderSubscriptions) =>
    streamEpoch = epoch ∧ maxSubscriptions = maxPerClient ∧
      maxProviderSubscriptions = limits.minimum
  | .event _ | .control (.ack _ _ _) | .control (.error _ _ _) | .control (.pong _)
  | .control (.gap _ _) => True

section Greeting

variable {epoch : Uuid} {maxPerClient : Nat} {limits : ProviderLimits}

/-- Nothing a session sent or is about to send greets differently. -/
structure Session.Greeted (epoch : Uuid) (maxPerClient : Nat) (limits : ProviderLimits)
    (x : Session) : Prop where
  sent : ∀ frame ∈ x.sent, Greets epoch maxPerClient limits frame
  next : ∀ message, x.phase = .routing message ∨ x.phase = .replying message →
    Greets epoch maxPerClient limits (.control message)

/-- The message a command leads to. -/
def Handled.message : Handled → ControlMessage
  | .reply message | .route _ message => message

variable [Unicode]

/-- A refusal is no greeting. -/
theorem validatedSubscriptionKeys_greets {config : ApiConfig} {catalog : CatalogVerdict}
    {requestId : Text} {requested : List Subscription} {reply : ControlMessage}
    (h : validatedSubscriptionKeys config catalog requestId requested = .error reply) :
    Greets epoch maxPerClient limits (.control reply) := by
  unfold validatedSubscriptionKeys at h
  split at h
  · obtain rfl := Except.error.inj h
    trivial
  · split at h
    · obtain rfl := Except.error.inj h
      trivial
    · split at h
      · obtain rfl := Except.error.inj h
        trivial
      · cases h

/-- The answer to a command is no greeting. -/
theorem handleTextMessage_greets (config : ApiConfig) (catalog : CatalogVerdict)
    (order : ProviderOrder) (registry : SubscriptionRegistry) (client : ClientId) (bytes : Nat)
    (parsed : Except ErrorCode ClientCommand) :
    Greets epoch maxPerClient limits
      (.control
        (handleTextMessage config catalog order registry client bytes parsed).1.message) := by
  -- no answer to a message is a hello frame
  unfold handleTextMessage
  split
  · trivial
  · cases parsed with
    | error code => trivial
    | ok command =>
      show Greets _ _ _ (.control (applyCommand config catalog order registry client
        command).1.message)
      unfold applyCommand
      split
      · trivial
      · cases command with
        | ping requestId => trivial
        | subscribe requestId requested =>
          show Greets _ _ _ (.control (subscribe config catalog order registry client requestId
            requested).1.message)
          unfold subscribe
          split
          · next reply hReply => exact validatedSubscriptionKeys_greets hReply
          · split
            · next error _ _ => cases error <;> trivial
            · trivial
        | unsubscribe requestId requested =>
          show Greets _ _ _ (.control (unsubscribe registry client requestId requested).1.message)
          unfold unsubscribe
          split <;> trivial

/-- Whatever a client sends, its session stays greeted as configured. -/
theorem handleClientMessage_greeted {x : Session} (h : x.Greeted epoch maxPerClient limits)
    (s : Gateway) (client : ClientId) (catalog : CatalogVerdict) (order : ProviderOrder)
    (message : Option ClientMessage) :
    (s.handleClientMessage client x catalog order message).1.Greeted epoch maxPerClient limits := by
  -- a session that closes has nothing left to send
  have hClosing : Session.Greeted epoch maxPerClient limits { x with phase := .closing } :=
    ⟨h.sent, fun _ hPhase => by rcases hPhase with hPhase | hPhase <;> cases hPhase⟩
  cases message with
  | none => exact hClosing
  | some message =>
    cases message with
    | close => exact hClosing
    | ping answered =>
      cases answered with
      | true => exact h
      | false => exact hClosing
    | pong => exact h
    | binary =>
      refine ⟨h.sent, fun m hPhase => ?_⟩
      rcases hPhase with hPhase | hPhase
      · cases hPhase
      · cases hPhase
        trivial
    | text bytes parsed =>
      have hGreets : Greets epoch maxPerClient limits _ :=
        handleTextMessage_greets s.config catalog order s.subscriptions client bytes parsed
      unfold Gateway.handleClientMessage
      dsimp only
      generalize handleTextMessage s.config catalog order s.subscriptions client bytes parsed =
        handled at hGreets ⊢
      obtain ⟨reply | ⟨subscriptions, ack⟩, registry⟩ := handled
      · refine ⟨h.sent, fun m hPhase => ?_⟩
        rcases hPhase with hPhase | hPhase
        · cases hPhase
        · cases hPhase
          exact hGreets
      · refine ⟨h.sent, fun m hPhase => ?_⟩
        rcases hPhase with hPhase | hPhase
        · cases hPhase
          exact hGreets
        · cases hPhase

omit [Unicode] in
/-- A session with no message on its way. -/
theorem Session.greeted_of_sent {x : Session}
    (hSent : ∀ frame ∈ x.sent, Greets epoch maxPerClient limits frame)
    (hIdle : ∀ m, x.phase ≠ .routing m ∧ x.phase ≠ .replying m) :
    x.Greeted epoch maxPerClient limits :=
  ⟨hSent, fun m hNext => (hNext.elim (hIdle m).1 (hIdle m).2).elim⟩

omit [Unicode] in
/-- One more frame that tells the same. -/
theorem greets_concat {frames : List Frame} {frame : Frame}
    (h : ∀ f ∈ frames, Greets epoch maxPerClient limits f)
    (hFrame : Greets epoch maxPerClient limits frame) :
    ∀ f ∈ frames ++ [frame], Greets epoch maxPerClient limits f := by
  intro f hf
  rcases List.mem_append.mp hf with hOld | hNew
  · exact h f hOld
  · rw [List.mem_singleton.mp hNew]
    exact hFrame

omit [Unicode] in
/-- A delivery is no greeting. -/
theorem deliverEvent_greeted {x : Session} (h : x.Greeted epoch maxPerClient limits)
    (s : Gateway) (client : ClientId) (sent : Bool) :
    (s.deliverEvent client x sent).session.Greeted epoch maxPerClient limits := by
  have hClosing : Session.Greeted epoch maxPerClient limits { x with phase := .closing } :=
    Session.greeted_of_sent h.sent fun m => by simp
  unfold Gateway.deliverEvent
  split
  · cases sent with
    | true => exact ⟨greets_concat h.sent trivial, h.next⟩
    | false => exact hClosing
  · dsimp only
    split
    · exact h
    · exact hClosing

omit [Unicode] in
/-- The report of a lag is no greeting. -/
theorem reportLag_greeted {x : Session} (h : x.Greeted epoch maxPerClient limits) (s : Gateway)
    (client : ClientId) (sent : Bool) :
    (s.reportLag client x sent).Greeted epoch maxPerClient limits := by
  simp only [Gateway.reportLag]
  split
  · refine Session.greeted_of_sent ?_ fun m => by simp
    cases sent with
    | true => exact greets_concat h.sent trivial
    | false => exact h.sent
  · split
    · exact h
    · exact Session.greeted_of_sent h.sent fun m => by simp

/-- Every session is greeted as configured. -/
def Gateway.Greeted (epoch : Uuid) (maxPerClient : Nat) (limits : ProviderLimits) (s : Gateway) :
    Prop :=
  ∀ client x, s.sessions client = some x → x.Greeted epoch maxPerClient limits

omit [Unicode] in
/-- Replacing one session by one that is greeted. -/
theorem greeted_setSession {s : Gateway} (h : s.Greeted epoch maxPerClient limits)
    (client : ClientId) {x : Session} (hx : x.Greeted epoch maxPerClient limits) :
    (s.setSession client x).Greeted epoch maxPerClient limits := by
  intro c y hy
  rw [setSession_sessions] at hy
  split at hy
  · obtain rfl := Option.some.inj hy
    exact hx
  · exact h c y hy

/-- Every step greets a new session as configured, and no other. -/
theorem greeted_step {s : Gateway} (h : s.Greeted epoch maxPerClient limits)
    (hEpoch : s.hub.streamEpoch = epoch)
    (hClient : s.subscriptions.maxSubscriptionsPerClient = maxPerClient)
    (hLimits : s.subscriptions.providerLimits = limits) (op : GatewayOp) :
    (s.step op).Greeted epoch maxPerClient limits := by
  show (s.localStep op).Greeted epoch maxPerClient limits
  cases op with
  | connect client helloSent =>
    simp only [Gateway.localStep]
    split
    · refine greeted_setSession h client (Session.greeted_of_sent (fun frame hFrame => ?_)
        fun m => ?_)
      · cases helloSent with
        | true =>
          rw [List.mem_singleton.mp hFrame]
          -- the greeting says what hub and registry are configured with
          exact ⟨hEpoch, hClient, by rw [hLimits]⟩
        | false => cases hFrame
      · cases helloSent <;> simp
    · exact h
  | incoming client catalog order message =>
    simp only [Gateway.localStep]
    split
    · next x hx =>
      split
      · exact greeted_setSession h client
          (handleClientMessage_greeted (h client x hx) s client catalog order message)
      · exact h
    · exact h
  | updateRoutes client =>
    simp only [Gateway.localStep]
    split
    · next ack feed subscriptions sent hx =>
      have hOld := h client _ hx
      refine greeted_setSession h client ⟨hOld.sent, fun m hNext => ?_⟩
      rcases hNext with hNext | hNext
      · cases hNext
      · cases hNext
        exact hOld.next _ (Or.inl rfl)
    · exact h
  | reply client sent =>
    simp only [Gateway.localStep]
    split
    · next message feed subscriptions frames hx =>
      have hOld := h client _ hx
      refine greeted_setSession h client ?_
      cases sent with
      | true =>
        exact Session.greeted_of_sent (greets_concat hOld.sent (hOld.next message (Or.inr rfl)))
          fun m => by simp
      | false => exact Session.greeted_of_sent hOld.sent fun m => by simp
    · exact h
  | deliver client sent =>
    simp only [Gateway.localStep]
    split
    · next x hx =>
      split
      · exact greeted_setSession h client (deliverEvent_greeted (h client x hx) s client sent)
      · exact h
    · exact h
  | lag client sent =>
    simp only [Gateway.localStep]
    split
    · next x hx =>
      split
      · exact greeted_setSession h client (reportLag_greeted (h client x hx) s client sent)
      · exact h
    · exact h
  | shutdown client =>
    simp only [Gateway.localStep]
    split
    · next x hx =>
      split
      · exact greeted_setSession h client
          (Session.greeted_of_sent (h client x hx).sent fun m => by simp)
      · exact h
    · exact h
  | removeClient client | cleanupClient client | dropFeed client =>
    simp only [Gateway.localStep]
    split
    · next feed subscriptions sent hx =>
      have hOld := h client _ hx
      exact greeted_setSession h client (Session.greeted_of_sent hOld.sent fun m => by simp)
    · exact h
  | number event => exact h
  | route => exact h

end Greeting

/-! ## Queues -/

/-- Every queue has the configured capacity and keeps to it. -/
structure QueuesBounded (capacity : Nat) (h : GatewayHub) : Prop where
  invariant : HubInvariant h
  clientCapacity : h.clientCapacity = capacity
  feeds : ∀ feed, (h.feeds feed).capacity = capacity ∧
    (h.feeds feed).buffer.length ≤ (h.feeds feed).capacity

/-- The capacity of a hub is fixed. -/
theorem clientCapacity_step (h : GatewayHub) (op : HubOp) :
    (h.step op).clientCapacity = h.clientCapacity := by
  cases op with
  | register client =>
    simp only [GatewayHub.step, GatewayHub.tryRegisterClient]
    split <;> rfl
  | update client subscriptions =>
    simp only [GatewayHub.step, GatewayHub.updateClientSubscriptions]
    split <;> rfl
  | number event =>
    simp only [GatewayHub.step, GatewayHub.numberEvent]
    split
    · rfl
    · split <;> rfl
  | route =>
    simp only [GatewayHub.step]
    split <;> rfl
  | remove client => rfl
  | receive feed => rfl
  | dropReceiver feed => rfl

/-- An offer never overfills a queue. -/
theorem Feed.offer_bounded {f : Feed} (h : f.buffer.length ≤ f.capacity) (event : MarketEvent) :
    (f.offer event).capacity = f.capacity ∧
      (f.offer event).buffer.length ≤ (f.offer event).capacity := by
  unfold Feed.offer Feed.trySend
  by_cases hAlive : !f.receiverAlive
  · rw [if_pos hAlive]
    exact ⟨rfl, h⟩
  · rw [if_neg hAlive]
    by_cases hFull : f.capacity ≤ f.buffer.length
    · rw [if_pos hFull]
      exact ⟨rfl, h⟩
    · rw [if_neg hFull]
      refine ⟨rfl, ?_⟩
      show (f.buffer ++ [event]).length ≤ f.capacity
      rw [List.length_append, List.length_singleton]
      omega

/-- Taking an event out leaves the capacity. -/
theorem Feed.receive_bounded {f : Feed} (h : f.buffer.length ≤ f.capacity) :
    f.receive.capacity = f.capacity ∧ f.receive.buffer.length ≤ f.receive.capacity := by
  unfold Feed.receive
  split
  · exact ⟨rfl, h⟩
  · next event rest hBuffer =>
    refine ⟨rfl, ?_⟩
    show rest.length ≤ f.capacity
    rw [hBuffer, List.length_cons] at h
    omega

/-- Every operation keeps every queue within its capacity. -/
theorem queuesBounded_step {capacity : Nat} {h : GatewayHub} (hBound : QueuesBounded capacity h)
    (op : HubOp) : QueuesBounded capacity (h.step op) := by
  refine ⟨hubInvariant_step hBound.invariant op,
    (clientCapacity_step h op).trans hBound.clientCapacity, fun feed => ?_⟩
  obtain ⟨hCapacity, hLength⟩ := hBound.feeds feed
  -- the queue is new, takes an event, gives one, or its receiver goes
  rcases feed_step_cases hBound.invariant feed op with
    hSame | ⟨-, hNew⟩ | ⟨event, hOffer⟩ | ⟨-, hReceive⟩ | hDrop
  · rw [hSame]
    exact ⟨hCapacity, hLength⟩
  · rw [hNew]
    exact ⟨hBound.clientCapacity, Nat.zero_le _⟩
  · rw [hOffer]
    obtain ⟨hKept, hFits⟩ := Feed.offer_bounded hLength event
    exact ⟨hKept.trans hCapacity, hFits⟩
  · rw [hReceive]
    obtain ⟨hKept, hFits⟩ := Feed.receive_bounded hLength
    exact ⟨hKept.trans hCapacity, hFits⟩
  · rw [hDrop]
    exact ⟨hCapacity, Nat.zero_le _⟩

/-! ## Runs -/

section Runs

variable [Unicode] [JsonText] [RustDecimal] [Serde]

/-- The gateway as `main` starts it. -/
def Settings.system (s : Settings) (epoch : Uuid) : System :=
  .start s.apiConfig epoch s.downstreamBuffer s.maxDownstreamClients s.maxClientSubscriptions
    s.limits

/-- The operation asks for keys of enabled providers only. -/
def RuntimeOp.Within (enabled : Finset Provider) : RuntimeOp → Prop
  | .registry op => op.Within enabled
  | .task _ _ => True

/-- Sessions ask the registry for keys of enabled providers only. -/
theorem runtimeOps_within (s : System) (op : SystemOp) :
    ∀ o ∈ s.runtimeOps op, o.Within s.gateway.config.enabledProviders := by
  -- a supervisor reads the registry and never asks it for keys
  have hSide : ∀ o ∈ s.taskOps op, o.Within s.gateway.config.enabledProviders := by
    intro o ho
    obtain ⟨k, t, rfl⟩ := s.taskOps_task op o ho
    trivial
  cases op with
  | client op =>
    intro o ho
    simp only [System.runtimeOps] at ho
    split at ho
    · -- a client adds only keys of enabled providers
      obtain ⟨r, hr, rfl⟩ := List.mem_map.mp ho
      cases r with
      | add order client keys => exact fun key hKey => (registryOps_add hr key hKey).2
      | remove client keys => trivial
      | cleanupClient client => trivial
    · cases ho
  | task k op => exact hSide
  | finish k now written => exact hSide
  | receive k receivedAtMs message => exact hSide
  | number k => exact hSide
  | route => exact hSide

omit [JsonText] [RustDecimal] [Serde] in
/-- The configuration of a gateway is fixed. -/
theorem config_step (g : Gateway) (op : GatewayOp) : (g.step op).config = g.config := by
  show (g.localStep op).config = g.config
  cases op with
  | connect client helloSent | updateRoutes client | reply client sent | removeClient client
  | cleanupClient client | dropFeed client =>
    simp only [Gateway.localStep]
    split <;> rfl
  | incoming client catalog order message | deliver client sent | lag client sent
  | shutdown client =>
    simp only [Gateway.localStep]
    split
    · split <;> rfl
    · rfl
  | number event => rfl
  | route => rfl

/-- What no step of the sessions changes, and how they are greeted. -/
structure Settled (settings : Settings) (epoch : Uuid) (g : Gateway) : Prop where
  config : g.config = settings.apiConfig
  streamEpoch : g.hub.streamEpoch = epoch
  perClient : g.subscriptions.maxSubscriptionsPerClient = settings.maxClientSubscriptions
  perProvider : g.subscriptions.providerLimits = settings.limits
  greeted : g.Greeted epoch settings.maxClientSubscriptions settings.limits
  limited : Limited settings.maxDownstreamClients g.hub
  queues : QueuesBounded settings.downstreamBuffer g.hub

/-- Every step keeps the gateway within its settings. -/
theorem settled_step {settings : Settings} {epoch : Uuid} {g : Gateway}
    (h : Settled settings epoch g) (op : GatewayOp) : Settled settings epoch (g.step op) := by
  -- the registry keeps the limits it was started with
  have hLimits : (g.step op).subscriptions.maxSubscriptionsPerClient =
        settings.maxClientSubscriptions ∧
      (g.step op).subscriptions.providerLimits = settings.limits := by
    rw [subscriptions_step]
    refine run_invariant (P := fun r : SubscriptionRegistry => r.maxSubscriptionsPerClient =
      settings.maxClientSubscriptions ∧ r.providerLimits = settings.limits) (fun r o hr => ?_)
      ⟨h.perClient, h.perProvider⟩ _
    obtain ⟨hClient, hProvider⟩ := step_limits r o
    exact ⟨hClient.trans hr.1, hProvider.trans hr.2⟩
  refine ⟨(config_step g op).trans h.config, ?_, hLimits.1, hLimits.2,
    greeted_step h.greeted h.streamEpoch h.perClient h.perProvider op, ?_, ?_⟩
  · exact run_invariant (P := fun hub : GatewayHub => hub.streamEpoch = epoch)
      (fun hub o hHub => (streamEpoch_step hub o).trans hHub)
      h.streamEpoch _
  · exact run_invariant (P := Limited settings.maxDownstreamClients)
      (fun _ o hHub => limited_step hHub o) h.limited _
  · exact run_invariant (P := QueuesBounded settings.downstreamBuffer)
      (fun _ o hHub => queuesBounded_step hHub o) h.queues _

variable (settings : Settings) (epoch : Uuid) (ops : List SystemOp)

/-- The gateway is within its settings after every run. -/
theorem settled_after :
    Settled settings epoch (run System.step (settings.system epoch) ops).gateway := by
  rw [System.gateway_after]
  refine run_invariant (P := Settled settings epoch) (fun _ op h => settled_step h op) ?_ _
  refine ⟨rfl, rfl, rfl, rfl, fun client x hx => ?_, ⟨?_, rfl, Nat.zero_le _⟩, ?_, rfl,
    fun feed => ⟨rfl, Nat.zero_le _⟩⟩
  · cases hx
  · exact hubInvariant_init epoch settings.downstreamBuffer settings.maxDownstreamClients
  · exact hubInvariant_init epoch settings.downstreamBuffer settings.maxDownstreamClients

/-- The runtime operations of a configured run. -/
def configuredRun : List RuntimeOp :=
  System.runtimeRun settings.apiConfig epoch settings.downstreamBuffer
    settings.maxDownstreamClients settings.maxClientSubscriptions settings.limits ops

/-- A configured run asks for enabled providers only. -/
theorem configuredRun_within :
    ∀ o ∈ configuredRun settings epoch ops, o.Within settings.enabledProviders := by
  intro o ho
  obtain ⟨earlier, op, later, -, hOp⟩ := mem_trace.mp ho
  have hWithin := runtimeOps_within _ op o hOp
  have hConfig := (settled_after settings epoch earlier).config
  rw [Settings.system] at hConfig
  rwa [hConfig] at hWithin

/-- The registry keeps to the settings at every point of a run. -/
theorem configured_registry {run' : List RuntimeOp}
    (hRun : ∀ o ∈ run', o.Within settings.enabledProviders) :
    Configured settings.enabledProviders settings.maxClientSubscriptions settings.limits
      (run Runtime.step (Runtime.spawn (.withProviderLimits settings.maxClientSubscriptions
        settings.limits)) run' : Runtime configuredAdapter).registry := by
  refine run_invariant_of_allSteps
    (C := fun _ (o : RuntimeOp) => o.Within settings.enabledProviders)
    (P := fun s : Runtime configuredAdapter => Configured settings.enabledProviders
      settings.maxClientSubscriptions settings.limits s.registry) (fun s o hOp h => ?_)
    (.start _ _ _) (allSteps_of_mem hRun _)
  cases o with
  | registry o => exact h.step hOp
  | task k o => exact h

/-- So does every snapshot a supervisor may have seen. -/
theorem configured_snapshot {snapshot : Finset SubscriptionKey}
    (h : snapshot ∈ snapshots (Runtime.spawn (.withProviderLimits settings.maxClientSubscriptions
      settings.limits)) (configuredRun settings epoch ops)) :
    ∃ r, snapshot = r.desired ∧ Configured settings.enabledProviders
      settings.maxClientSubscriptions settings.limits r := by
  obtain ⟨earlier, o, later, hSplit, hMem⟩ := mem_trace.mp h
  refine ⟨_, List.mem_singleton.mp hMem, configured_registry settings fun o' ho' => ?_⟩
  refine configuredRun_within settings epoch ops o' ?_
  rw [hSplit]
  exact List.mem_append_left _ ho'

/-- **A configured gateway keeps to its settings.** In every run of a gateway
started from settings that pass the checks: only enabled providers are in
demand, none beyond what its venue declares or the operator allows, and no open
connection is for more than that; no client holds more keys than a client may,
no more clients are registered than may be, and no queue holds more than its
capacity; and every greeting tells the stream epoch, the limit of a client and
a positive limit that is safe for each enabled provider. -/
theorem configured_run (hValid : settings.validate = .ok ()) :
    let s := run System.step (settings.system epoch) ops
    (∀ key ∈ s.gateway.subscriptions.desired, key.provider ∈ settings.enabledProviders ∧
      (s.gateway.subscriptions.desired.filter fun k => k.provider = key.provider).card ≤
        (configuredAdapter key.provider).maxSubscriptions ∧
      ∀ ceiling, settings.maxProviderSubscriptions = some ceiling →
        (s.gateway.subscriptions.desired.filter fun k => k.provider = key.provider).card ≤
          ceiling) ∧
    (∀ k c, (s.tasks k).phase = .looping c →
      (∀ key ∈ c.desired, key.provider = k.1 ∧ k.1 ∈ settings.enabledProviders) ∧
      c.desired.card ≤ settings.limits.limitFor k.1) ∧
    (∀ client, (s.gateway.registered client).card ≤ settings.maxClientSubscriptions) ∧
    s.gateway.hub.routes.clients.keys.card ≤ settings.maxDownstreamClients ∧
    (∀ feed, (s.gateway.hub.feeds feed).buffer.length ≤ settings.downstreamBuffer) ∧
    ∀ client x streamEpoch maxSubscriptions maxProviderSubscriptions,
      s.gateway.sessions client = some x →
      .control (.hello streamEpoch maxSubscriptions maxProviderSubscriptions) ∈ x.sent →
      streamEpoch = epoch ∧ maxSubscriptions = settings.maxClientSubscriptions ∧
      0 < maxProviderSubscriptions ∧
      ∀ p ∈ settings.enabledProviders, maxProviderSubscriptions ≤ settings.limits.limitFor p := by
  intro s
  have hAccepted := (accepts_iff settings).mp hValid
  have hSettled := settled_after settings epoch ops
  -- the registry of the system is that of the runtime it contains
  have hConfigured : Configured settings.enabledProviders settings.maxClientSubscriptions
      settings.limits s.gateway.subscriptions := by
    have hRegistry := configured_registry settings (configuredRun_within settings epoch ops)
    have hRun : s.runtime = run Runtime.step (Runtime.spawn (.withProviderLimits
        settings.maxClientSubscriptions settings.limits)) (configuredRun settings epoch ops) :=
      System.runtime_after _ ops
    rwa [← hRun] at hRegistry
  refine ⟨fun key hKey => ?_, fun k c hLoop => ?_, fun client => ?_, hSettled.limited.bounded,
    fun feed => ?_, fun client x streamEpoch maxSubscriptions maxProvider hx hSent => ?_⟩
  · have hEnabled := hConfigured.desired key hKey
    obtain ⟨hDeclared, hOverride⟩ := limitFor_le hEnabled
    have hCard := hConfigured.card_le key.provider
    exact ⟨hEnabled, hCard.trans hDeclared,
      fun ceiling hSome => hCard.trans (hOverride ceiling hSome)⟩
  · obtain ⟨-, hLive⟩ := System.supervisors_after settings.apiConfig epoch
      settings.downstreamBuffer settings.maxDownstreamClients settings.maxClientSubscriptions
      settings.limits ops
    have hAligned : PhaseAligned _ (s.tasks k).phase := hLive.aligned.tasks k
    rw [hLoop] at hAligned
    -- the connection serves its share of a snapshot that was published at some time
    obtain ⟨⟨snapshot, hSnapshot, hShare⟩, -⟩ := hAligned
    obtain ⟨r, rfl, hr⟩ := configured_snapshot settings epoch ops hSnapshot
    rw [hShare]
    refine ⟨fun key hKey => ?_, hr.share_le _ _ _⟩
    obtain ⟨hIn, hProvider, -⟩ := Finset.mem_filter.mp hKey
    exact ⟨hProvider, hProvider ▸ hr.desired key hIn⟩
  · have hCard := hConfigured.invariant.clientLimit client
    rwa [hConfigured.perClient] at hCard
  · obtain ⟨hCapacity, hLength⟩ := hSettled.queues.feeds feed
    rwa [hCapacity] at hLength
  · obtain ⟨rfl, rfl, rfl⟩ := (hSettled.greeted client x hx).sent _ hSent
    exact ⟨rfl, rfl, minimum_pos hAccepted, fun p hp => minimum_le (limits_enabled hp)⟩

end Runs

/-! ## The defaults -/

/-- A URL without query and fragment. -/
def Url.plain (scheme path : Text) : Url := ⟨scheme, path, none, none⟩

/-- The settings of a gateway started without arguments. -/
def defaultSettings : Settings where
  downstreamBuffer := 4096
  maxDownstreamClients := 64
  maxClientSubscriptions := 512
  maxProviderSubscriptions := none
  maxCommandBytes := 65536
  maxHistoryRequests := 8
  allowedOrigins := []
  upstreamBackoffMinMs := 500
  upstreamBackoffMaxMs := 30000
  stableConnectionSeconds := 60
  shutdownGraceSeconds := 10
  catalogRefreshSeconds := 21600
  bybitWsUrl := .plain "wss".toList "/v5/public/linear".toList
  binanceWsUrl := .plain "wss".toList "/market/ws".toList
  okxPublicWsUrl := .plain "wss".toList "/ws/v5/public".toList
  okxBusinessWsUrl := .plain "wss".toList "/ws/v5/business".toList
  mexcWsUrl := .plain "wss".toList "/edge".toList
  bingxWsUrl := .plain "wss".toList "/swap-market".toList
  bybitRestUrl := .plain "https".toList "/".toList
  binanceFuturesRestUrl := .plain "https".toList "/".toList
  okxRestUrl := .plain "https".toList "/".toList
  kucoinFuturesRestUrl := .plain "https".toList "/".toList
  mexcFuturesRestUrl := .plain "https".toList "/".toList
  bingxSwapRestUrl := .plain "https".toList "/".toList
  providers := [.all]

/-- Every default passes its own check. -/
theorem defaultSettings_valid : defaultSettings.validate = .ok () := by
  decide

section Sample

local instance defaultUnicode : Unicode := .ascii
local instance defaultJson : JsonText := .table []
local instance defaultDecimal : RustDecimal := .digits
local instance defaultSerde : Serde := .mute

/-- The greeting of the first client of a gateway with default settings. -/
theorem configured_run_defaults :
    let s := run System.step (defaultSettings.system 7) [.client (.connect 1 true)]
    defaultSettings.validate = .ok () ∧
    ∃ x, s.gateway.sessions 1 = some x ∧ .control (.hello 7 512 100) ∈ x.sent ∧
      ∀ p ∈ defaultSettings.enabledProviders, 100 ≤ defaultSettings.limits.limitFor p := by
  intro s
  have hSession : s.gateway.sessions 1 =
      some ⟨.selecting, 0, ∅, [.control (.hello 7 512 100)]⟩ := rfl
  refine ⟨defaultSettings_valid, _, hSession, List.mem_singleton_self _, ?_⟩
  obtain ⟨-, -, -, -, -, hGreeting⟩ :=
    configured_run defaultSettings 7 [.client (.connect 1 true)] defaultSettings_valid
  exact (hGreeting 1 _ 7 512 100 hSession (List.mem_singleton_self _)).2.2.2

end Sample

end MarketStreamGateway
