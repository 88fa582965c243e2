import Mathlib.Algebra.BigOperators.Group.Finset.Piecewise
import Mathlib.Algebra.Group.Action.Defs
import MarketStreamGateway.Providers.Venue
import MarketStreamGateway.Runtime.Connection

/-!
# Market Stream Gateway — when commands can be built

The registry admits keys, a session turns them into commands and may refuse:
because a symbol does not fit the session's grammar, or because the session is
full. The first five sessions refuse by grammar only. BingX counts topics: a
ticker key is three of them and a candle key one, while the registry's ceiling
counts keys.

`builds` follows a connection through a sequence of shares and asks whether
the commands of every change can be built.

Main results:
* `subscriptionMessages_isOk` — outside BingX a diff is built as soon as its
  symbols are in the grammar.
* `builds_iff` — a sequence of snapshots is built exactly when no snapshot has
  more than 200 topics, if the provider is BingX, and always otherwise.
* `bingx_builds_fails` — 67 tickers stay below the ceiling and are refused.
-/

namespace MarketStreamGateway

open Lib Venue

-- ---------------------------------------------------------------------------
-- The grammar of a session
-- ---------------------------------------------------------------------------

/-- The symbols a session accepts: what its own validator says. Bybit and
Binance have none. -/
def sessionGrammar [Unicode] : Provider → Text → Bool
  | .bybit, _ | .binance, _ => true
  | .okx, symbol => OkxSession.validSymbol symbol
  | .kucoin, symbol => KucoinSession.validSymbol symbol
  | .mexc, symbol => (MexcSession.validateMexcSymbol symbol).isOk
  | .bingx, symbol => (BingxSession.validateBingxSymbol symbol).isOk

/-- Keys of the provider validate. -/
theorem validateSubscriptions_eq_ok {provider : Provider} {keys : List SubscriptionKey}
    (h : ∀ key ∈ keys, key.provider = provider) : validateSubscriptions provider keys = .ok () := by
  have hNone : keys.find? (fun key => key.provider ≠ provider) = none := by
    rw [List.find?_eq_none]
    intro key hKey
    simp [h key hKey]
  unfold validateSubscriptions
  rw [hNone]

/-- What is not an error is a value. -/
theorem Except.isOk_iff {ε α : Type} {x : Except ε α} : x.isOk = true ↔ ∃ a, x = .ok a := by
  cases x with
  | error e => simp [Except.isOk, Except.toBool]
  | ok a => simp [Except.isOk, Except.toBool]

section Sessions

variable {action : SubscriptionAction} {keys : List SubscriptionKey}

/-- OKX's arguments can be collected from valid symbols whose channels are on
the endpoint. -/
theorem OkxSession.subscriptionArgs_isOk {endpoint : EndpointKind}
    (hSymbols : ∀ key ∈ keys, validSymbol key.symbol)
    (hChannels : ∀ key ∈ keys, (channels endpoint key.channel).isSome)
    (args : List OkxSubscriptionArg) :
    ∃ result, subscriptionArgs endpoint args keys = .ok result := by
  induction keys generalizing args with
  | nil => exact ⟨args, rfl⟩
  | cons key keys ih =>
    -- the symbol and the channels are all that is checked
    have hSymbol : validateOkxSymbol key.symbol = .ok () := by
      unfold validateOkxSymbol
      rw [if_pos (hSymbols key List.mem_cons_self)]
    obtain ⟨names, hNames⟩ := Option.isSome_iff_exists.mp (hChannels key List.mem_cons_self)
    obtain ⟨result, hResult⟩ := ih (fun k hk => hSymbols k (List.mem_cons_of_mem _ hk))
      (fun k hk => hChannels k (List.mem_cons_of_mem _ hk))
      (pushAll args (names.map fun name => ⟨name, key.symbol⟩))
    refine ⟨result, ?_⟩
    simp only [subscriptionArgs, keyArgs, hSymbol, hNames]
    exact hResult

theorem KucoinSession.collectSymbols_isOk (hSymbols : ∀ key ∈ keys, validSymbol key.symbol)
    (symbols : Symbols) : ∃ result, collectSymbols symbols keys = .ok result := by
  induction keys generalizing symbols with
  | nil => exact ⟨symbols, rfl⟩
  | cons key keys ih =>
    have hSymbol : validateKucoinSymbol key.symbol = .ok () := by
      unfold validateKucoinSymbol
      rw [if_pos (hSymbols key List.mem_cons_self)]
    obtain ⟨result, hResult⟩ := ih (fun k hk => hSymbols k (List.mem_cons_of_mem _ hk))
      (symbols.push key)
    refine ⟨result, ?_⟩
    simp only [collectSymbols, hSymbol]
    exact hResult

theorem MexcSession.collect_isOk (hSymbols : ∀ key ∈ keys, (validateMexcSymbol key.symbol).isOk)
    (collected : List NativeSubscription) (tickers : Tickers) :
    ∃ result tickers', collect action collected tickers keys = (.ok result, tickers') := by
  induction keys generalizing collected tickers with
  | nil => exact ⟨collected, tickers, rfl⟩
  | cons key keys ih =>
    obtain ⟨_, hSymbol⟩ := Except.isOk_iff.mp (hSymbols key List.mem_cons_self)
    obtain ⟨result, tickers', hResult⟩ := ih (fun k hk => hSymbols k (List.mem_cons_of_mem _ hk))
      (pushAll collected (natives key)) (forgetTickers action [key] tickers)
    refine ⟨result, tickers', ?_⟩
    simp only [collect, hSymbol]
    exact hResult

theorem BingxSession.collect_isOk [Unicode]
    (hSymbols : ∀ key ∈ keys, (validateBingxSymbol key.symbol).isOk)
    (requested : List Text) (tickers : Tickers) :
    ∃ result tickers', collect action requested tickers keys = (.ok result, tickers') := by
  induction keys generalizing requested tickers with
  | nil => exact ⟨requested, tickers, rfl⟩
  | cons key keys ih =>
    obtain ⟨_, hSymbol⟩ := Except.isOk_iff.mp (hSymbols key List.mem_cons_self)
    obtain ⟨result, tickers', hResult⟩ := ih (fun k hk => hSymbols k (List.mem_cons_of_mem _ hk))
      (pushAll requested (keyTopics key)) (forgetTickers action [key] tickers)
    refine ⟨result, tickers', ?_⟩
    simp only [collect, hSymbol]
    exact hResult

/-- The session keeps the endpoint it was opened for. -/
theorem OkxSession.subscriptionMessages_endpoint (s : OkxSession) :
    (s.subscriptionMessages action keys).2.endpoint = s.endpoint := by
  unfold subscriptionMessages
  split
  · rfl
  · split
    · rfl
    · exact issue_field (f := OkxSession.endpoint) (fun _ _ => rfl) _ _

/-- Building commands does not move a KuCoin session to another endpoint. -/
theorem KucoinSession.subscriptionMessages_endpoint (s : KucoinSession) :
    (s.subscriptionMessages action keys).2.endpoint = s.endpoint := by
  unfold subscriptionMessages
  split
  · rfl
  · split
    · rfl
    · split
      · rfl
      · exact issue_field (f := KucoinSession.endpoint) (fun _ _ => rfl) _ _

theorem MexcSession.subscriptionMessages_endpoint (s : MexcSession) :
    (s.subscriptionMessages action keys).2.endpoint = s.endpoint := by
  unfold subscriptionMessages
  split
  · rfl
  · split
    · rfl
    · split
      · rfl
      · exact issue_field (f := MexcSession.endpoint) (fun _ _ => rfl) _ _

end Sessions

-- ---------------------------------------------------------------------------
-- One diff
-- ---------------------------------------------------------------------------

section Diffs

variable [Unicode] [JsonText] [MarketData]

/-- The session was opened for the endpoint. -/
def OpenedFor : (provider : Provider) → EndpointKind → (configuredAdapter provider).Session → Prop
  | .okx, endpoint, s => OkxSession.endpoint s = endpoint
  | .kucoin, endpoint, s => KucoinSession.endpoint s = endpoint
  | .mexc, endpoint, s => MexcSession.endpoint s = endpoint
  | .bybit, _, _ | .binance, _, _ | .bingx, _, _ => True

/-- Keys that belong to an endpoint of a provider, with symbols the session
accepts. -/
def Admitted (provider : Provider) (endpoint : EndpointKind) (keys : List SubscriptionKey) : Prop :=
  ∀ key ∈ keys, key.provider = provider ∧
    (configuredAdapter provider).endpointFor key.channel = endpoint ∧
    sessionGrammar provider key.symbol

/-- A new session is opened for its endpoint. -/
theorem openedFor_session (provider : Provider) (endpoint : EndpointKind) (epoch : Uuid) :
    OpenedFor provider endpoint ((configuredAdapter provider).session endpoint epoch) := by
  cases provider <;> trivial

/-- Building commands keeps a session opened for its endpoint. -/
theorem openedFor_subscriptionMessages {provider : Provider} {endpoint : EndpointKind}
    {s : (configuredAdapter provider).Session} (h : OpenedFor provider endpoint s)
    (action : SubscriptionAction) (keys : List SubscriptionKey) :
    OpenedFor provider endpoint
      ((configuredAdapter provider).subscriptionMessages s action keys).2 := by
  cases provider with
  | okx => exact (OkxSession.subscriptionMessages_endpoint s).trans h
  | kucoin => exact (KucoinSession.subscriptionMessages_endpoint s).trans h
  | mexc => exact (MexcSession.subscriptionMessages_endpoint s).trans h
  | bybit | binance | bingx => trivial

/-- **Grammar is enough.** Outside BingX, a diff of admitted keys is built,
whatever was built before. -/
theorem subscriptionMessages_isOk {provider : Provider} (hBingx : provider ≠ .bingx)
    {endpoint : EndpointKind} (hEndpoint : endpoint ∈ (configuredAdapter provider).endpoints)
    {s : (configuredAdapter provider).Session} (hOpened : OpenedFor provider endpoint s)
    (action : SubscriptionAction) {keys : List SubscriptionKey}
    (hKeys : Admitted provider endpoint keys) :
    ((configuredAdapter provider).subscriptionMessages s action keys).1.isOk = true := by
  have hProvider := validateSubscriptions_eq_ok fun key hKey => (hKeys key hKey).1
  cases provider with
  | bybit =>
    show (BybitSession.subscriptionMessages s action keys).1.isOk = true
    unfold BybitSession.subscriptionMessages
    rw [hProvider]
    rfl
  | binance =>
    show (BinanceSession.subscriptionMessages s action keys).1.isOk = true
    unfold BinanceSession.subscriptionMessages
    rw [hProvider]
    rfl
  | okx =>
    -- a key of an endpoint is on a channel of this endpoint
    have hChannels : ∀ key ∈ keys, (OkxSession.channels (OkxSession.endpoint s)
        key.channel).isSome := by
      intro key hKey
      have hServed := (hKeys key hKey).2.1
      rw [show OkxSession.endpoint s = endpoint from hOpened, ← hServed]
      cases key.channel <;> rfl
    obtain ⟨args, hArgs⟩ := OkxSession.subscriptionArgs_isOk
      (fun key hKey => (hKeys key hKey).2.2) hChannels []
    show (OkxSession.subscriptionMessages s action keys).1.isOk = true
    unfold OkxSession.subscriptionMessages
    rw [hProvider]
    simp only [hArgs]
    rfl
  | kucoin =>
    have hPrimary : KucoinSession.endpoint s = .primary :=
      Eq.trans hOpened (List.mem_singleton.mp hEndpoint)
    obtain ⟨symbols, hSymbols⟩ := KucoinSession.collectSymbols_isOk
      (fun key hKey => (hKeys key hKey).2.2) ⟨[], []⟩
    show (KucoinSession.subscriptionMessages s action keys).1.isOk = true
    unfold KucoinSession.subscriptionMessages
    rw [hProvider]
    simp only [hPrimary, ne_eq, not_true, if_false, hSymbols]
    rfl
  | mexc =>
    have hPrimary : MexcSession.endpoint s = .primary :=
      Eq.trans hOpened (List.mem_singleton.mp hEndpoint)
    obtain ⟨natives, tickers, hCollect⟩ := @MexcSession.collect_isOk action keys
      (fun key hKey => (hKeys key hKey).2.2) [] (MexcSession.tickers s)
    show (MexcSession.subscriptionMessages s action keys).1.isOk = true
    unfold MexcSession.subscriptionMessages
    rw [hProvider]
    simp only [hPrimary, ne_eq, not_true, if_false, hCollect]
    rfl
  | bingx => exact absurd rfl hBingx

end Diffs

-- ---------------------------------------------------------------------------
-- The BingX budget
-- ---------------------------------------------------------------------------

section Bingx

variable [Unicode] {keys : List SubscriptionKey} {served : Finset Topic}

omit [Unicode] in
/-- The limit is on the topics active afterwards. -/
theorem BingxSession.changeTopics_isOk (active : Finset Text) {requested : List Text}
    (hNodup : requested.Nodup) :
    (changeTopics active requested .subscribe).isOk = true ↔
      (active ∪ requested.toFinset).card ≤ bingxMaxTopicsPerConnection := by
  -- only the topics that are not active yet are added
  have hNew : active ∪ requested.toFinset =
      active ∪ (requested.filter (· ∉ active)).toFinset := by
    ext t
    by_cases ht : t ∈ active <;> simp [ht]
  have hDisjoint : Disjoint active (requested.filter (· ∉ active)).toFinset := by
    rw [Finset.disjoint_right]
    intro t ht
    simpa using (List.mem_filter.mp (List.mem_toFinset.mp ht)).2
  have hCard : (active ∪ requested.toFinset).card =
      active.card + (requested.filter (· ∉ active)).length := by
    rw [hNew, Finset.card_union_of_disjoint hDisjoint,
      List.toFinset_card_of_nodup (hNodup.filter _)]
  rw [hCard, changeTopics]
  split
  · next hOver =>
    simp only [Except.isOk, Except.toBool, Bool.false_eq_true, false_iff]
    omega
  · next hFits =>
    simp only [Except.isOk, Except.toBool, true_iff]
    omega

/-- A BingX diff of admitted keys is built exactly when the venue's limit is kept. -/
theorem bingx_isOk {s : BingxSession} (hActive : s.activeTopics.image ([·]) = served)
    (hProvider : ∀ key ∈ keys, key.provider = .bingx)
    (hSymbols : ∀ key ∈ keys, sessionGrammar .bingx key.symbol) (action : SubscriptionAction) :
    (s.subscriptionMessages action keys).1.isOk = true ↔
      (action = .subscribe → (change .subscribe served
        (keys.flatMap (nativeTopics .bingx))).card ≤ bingxMaxTopicsPerConnection) := by
  obtain ⟨requested, tickers, hCollect⟩ :=
    @BingxSession.collect_isOk action keys _ hSymbols [] s.tickers
  have hRequested := BingxSession.collect_eq hCollect
  have hNodup : requested.Nodup := by
    rw [hRequested]
    exact pushAll_nodup List.nodup_nil _
  -- the topics as the venue counts them
  have hTopics : (s.activeTopics ∪ requested.toFinset).image ([·]) =
      change .subscribe served (keys.flatMap (nativeTopics .bingx)) := by
    have hMem : ∀ t, t ∈ requested.map ([·]) ↔ t ∈ keys.flatMap (nativeTopics .bingx) := by
      intro t
      rw [hRequested]
      exact mem_map_collected
    rw [Finset.image_union, hActive, change]
    congr 1
    ext t
    rw [List.mem_toFinset, ← hMem t]
    simp
  have hCard : (s.activeTopics ∪ requested.toFinset).card =
      (change .subscribe served (keys.flatMap (nativeTopics .bingx))).card := by
    rw [← hTopics, Finset.card_image_of_injective _ List.singleton_injective]
  have hOk : (s.subscriptionMessages action keys).1.isOk =
      (BingxSession.changeTopics s.activeTopics requested action).isOk := by
    unfold BingxSession.subscriptionMessages
    rw [validateSubscriptions_eq_ok hProvider]
    simp only [hCollect]
    cases BingxSession.changeTopics s.activeTopics requested action <;> rfl
  rw [hOk]
  cases action with
  | subscribe =>
    rw [BingxSession.changeTopics_isOk _ hNodup, hCard]
    exact ⟨fun h _ => h, fun h => h rfl⟩
  | unsubscribe => simp [BingxSession.changeTopics, Except.isOk, Except.toBool]

/-- The BingX grammar is a grammar of canonical symbols. -/
theorem BingxSession.canonical_of_grammar {key : SubscriptionKey}
    (h : sessionGrammar .bingx key.symbol) : key.Canonical := by
  obtain ⟨_, hOk⟩ := Except.isOk_iff.mp h
  unfold validateBingxSymbol at hOk
  split at hOk
  · simp at hOk
  · next normalized hNormalized =>
    split at hOk
    · simp at hOk
    · next hSame =>
      rw [not_or, not_not] at hSame
      unfold normalizedSymbol at hNormalized
      split at hNormalized
      · next hSymbol =>
        obtain rfl := Except.ok.inj hNormalized
        rw [SubscriptionKey.Canonical, hSymbol, hSame.1]
      · simp at hNormalized

/-- A ticker is three topics, a candle one. -/
def topicCount (share : Finset SubscriptionKey) : Nat :=
  3 * (share.filter fun key => key.channel = .ticker).card +
    (share.filter fun key => key.channel = .candle1m).card

/-- A share of BingX keys takes as many topics as its keys ask for. -/
theorem card_topicsOf_bingx {share : Finset SubscriptionKey}
    (hShare : ∀ key ∈ share, key.provider = .bingx ∧ key.Canonical) :
    (topicsOf .bingx share).card = topicCount share := by
  -- a ticker has three topics, a candle one
  have hKey : ∀ key : SubscriptionKey, (nativeTopics .bingx key).toFinset.card =
      if key.channel = .ticker then 3 else 1 := by
    intro key
    have hNodup : (nativeTopics .bingx key).Nodup := by
      rw [bingx_nativeTopics]
      refine List.Nodup.map (fun x y hxy => ?_) ?_
      · exact List.append_cancel_left (List.head_eq_of_cons_eq hxy)
      · cases key.channel <;> decide
    rw [List.toFinset_card_of_nodup hNodup, bingx_nativeTopics, List.length_map]
    cases key.channel <;> rfl
  have hSplit : (share.filter fun key => ¬ key.channel = .ticker) =
      share.filter fun key => key.channel = .candle1m := by
    refine Finset.filter_congr fun key _ => ?_
    cases key.channel <;> simp
  rw [topicsOf, card_expand (nativeTopics_separates .bingx) hShare, Finset.sum_congr rfl
    fun key _ => hKey key, Finset.sum_ite, Finset.sum_const, Finset.sum_const, hSplit, topicCount]
  rw [smul_eq_mul, smul_eq_mul]
  omega

end Bingx

-- ---------------------------------------------------------------------------
-- A sequence of shares
-- ---------------------------------------------------------------------------

section Building

/-- The building half of `queue_subscription_diff`: the session after it, if
the commands could be built. -/
def buildDiff (a : ProviderAdapter) (s : a.Session) (action : SubscriptionAction)
    (keys : List SubscriptionKey) : Option a.Session :=
  if keys.isEmpty then some s
  else match a.subscriptionMessages s action keys with
    | (.ok _, s) => some s
    | (.error _, _) => none

/-- All unsubscribes first, then all subscribes. -/
def buildChanges (a : ProviderAdapter) (s : a.Session) (prev next : Finset SubscriptionKey) :
    Option a.Session :=
  (buildDiff a s .unsubscribe (iter (prev \ next))).bind fun s =>
    buildDiff a s .subscribe (iter (next \ prev))

/-- The commands of every change can be built, one share after the other. -/
def builds (a : ProviderAdapter) (s : a.Session) (prev : Finset SubscriptionKey) :
    List (Finset SubscriptionKey) → Bool
  | [] => true
  | next :: rest => match buildChanges a s prev next with
    | some s => builds a s next rest
    | none => false

/-- A diff is built if its commands are. -/
theorem buildDiff_of_ok {a : ProviderAdapter} {s s' : a.Session} {action : SubscriptionAction}
    {keys : List SubscriptionKey} {messages : List OutboundCommand} (hSome : keys ≠ [])
    (h : a.subscriptionMessages s action keys = (.ok messages, s')) :
    buildDiff a s action keys = some s' := by
  have hEmpty : keys.isEmpty = false := by simpa using hSome
  simp [buildDiff, hEmpty, h]

/-- A diff is not built if its commands are refused. -/
theorem buildDiff_of_error {a : ProviderAdapter} {s s' : a.Session} {action : SubscriptionAction}
    {keys : List SubscriptionKey} {error : AdapterError} (hSome : keys ≠ [])
    (h : a.subscriptionMessages s action keys = (.error error, s')) :
    buildDiff a s action keys = none := by
  have hEmpty : keys.isEmpty = false := by simpa using hSome
  simp [buildDiff, hEmpty, h]

variable [Unicode] [JsonText] [MarketData] {provider : Provider} {endpoint : EndpointKind}

/-- The keys of a share are admitted. -/
def ShareAdmitted (provider : Provider) (endpoint : EndpointKind)
    (share : Finset SubscriptionKey) : Prop :=
  Admitted provider endpoint (iter share)

/-- What is taken from an admitted share is admitted. -/
theorem ShareAdmitted.sdiff {prev : Finset SubscriptionKey}
    (h : ShareAdmitted provider endpoint prev) (next : Finset SubscriptionKey) :
    Admitted provider endpoint (iter (prev \ next)) := by
  intro key hKey
  rw [mem_iter, Finset.mem_sdiff] at hKey
  exact h key (mem_iter.mpr hKey.1)

/-- The keys of an admitted BingX share are canonical. -/
theorem ShareAdmitted.bingx {share : Finset SubscriptionKey}
    (h : ShareAdmitted .bingx endpoint share) :
    ∀ key ∈ share, key.provider = .bingx ∧ key.Canonical := by
  intro key hKey
  have hAdmitted := h key (mem_iter.mpr hKey)
  exact ⟨hAdmitted.1, BingxSession.canonical_of_grammar hAdmitted.2.2⟩

/-- Outside BingX the commands for admitted keys are always built. -/
theorem buildDiff_admitted (hBingx : provider ≠ .bingx)
    (hEndpoint : endpoint ∈ (configuredAdapter provider).endpoints)
    {s : (configuredAdapter provider).Session} (hOpened : OpenedFor provider endpoint s)
    (action : SubscriptionAction) {keys : List SubscriptionKey}
    (hKeys : Admitted provider endpoint keys) :
    ∃ s', buildDiff (configuredAdapter provider) s action keys = some s' ∧
      OpenedFor provider endpoint s' := by
  have hOk := subscriptionMessages_isOk hBingx hEndpoint hOpened action hKeys
  have hKept := openedFor_subscriptionMessages hOpened action keys
  by_cases hEmpty : keys = []
  · exact ⟨s, by simp [buildDiff, hEmpty], hOpened⟩
  · rcases hBuilt : (configuredAdapter provider).subscriptionMessages s action keys with
      ⟨error | messages, s'⟩
    · rw [hBuilt] at hOk
      simp [Except.isOk, Except.toBool] at hOk
    · rw [hBuilt] at hKept
      exact ⟨s', buildDiff_of_ok hEmpty hBuilt, hKept⟩

/-- Outside BingX every sequence of admitted shares is built. -/
theorem builds_admitted (hBingx : provider ≠ .bingx)
    (hEndpoint : endpoint ∈ (configuredAdapter provider).endpoints)
    {s : (configuredAdapter provider).Session} (hOpened : OpenedFor provider endpoint s)
    {prev : Finset SubscriptionKey} (hPrev : ShareAdmitted provider endpoint prev)
    {shares : List (Finset SubscriptionKey)}
    (hShares : ∀ share ∈ shares, ShareAdmitted provider endpoint share) :
    builds (configuredAdapter provider) s prev shares = true := by
  induction shares generalizing s prev with
  | nil => rfl
  | cons next rest ih =>
    have hNext := hShares next List.mem_cons_self
    -- first what goes, then what comes, on the session that is left
    obtain ⟨s₁, hRemove, hOpened₁⟩ :=
      buildDiff_admitted hBingx hEndpoint hOpened .unsubscribe (hPrev.sdiff next)
    obtain ⟨s₂, hAdd, hOpened₂⟩ :=
      buildDiff_admitted hBingx hEndpoint hOpened₁ .subscribe (hNext.sdiff prev)
    have hChanges : buildChanges (configuredAdapter provider) s prev next = some s₂ := by
      unfold buildChanges
      rw [hRemove, Option.bind_some, hAdd]
    rw [builds, hChanges]
    exact ih hOpened₂ hNext fun share hShare => hShares share (List.mem_cons_of_mem _ hShare)

/-- What BingX makes of one diff of a share. -/
theorem bingx_buildDiff {s : (configuredAdapter .bingx).Session} {served : Finset Topic}
    (hActive : Remembers .bingx s served) (action : SubscriptionAction)
    {keys : Finset SubscriptionKey} (hKeys : Admitted .bingx endpoint (iter keys)) :
    let after := change action served ((iter keys).flatMap (nativeTopics .bingx))
    (buildDiff (configuredAdapter .bingx) s action (iter keys) = none ∧
      action = .subscribe ∧ bingxMaxTopicsPerConnection < after.card) ∨
    ∃ s', buildDiff (configuredAdapter .bingx) s action (iter keys) = some s' ∧
      Remembers .bingx s' after ∧
      (keys = ∅ ∨ action = .unsubscribe ∨ after.card ≤ bingxMaxTopicsPerConnection) := by
  intro after
  have hIsOk :
      ((configuredAdapter .bingx).subscriptionMessages s action (iter keys)).1.isOk = true ↔ _ :=
    bingx_isOk hActive (fun key hKey => (hKeys key hKey).1)
      (fun key hKey => (hKeys key hKey).2.2) action
  by_cases hEmpty : keys = ∅
  · have hNil : iter keys = [] := iter_eq_nil.mpr hEmpty
    -- without keys no command is built
    have hSame : after = served := by
      show change action served ((iter keys).flatMap (nativeTopics .bingx)) = served
      rw [hNil]
      cases action <;> simp [change]
    refine Or.inr ⟨s, ?_, hSame ▸ hActive, Or.inl hEmpty⟩
    rw [hNil]
    rfl
  · have hSome : iter keys ≠ [] := fun hNil => hEmpty (iter_eq_nil.mp hNil)
    rcases hBuilt : (configuredAdapter .bingx).subscriptionMessages s action (iter keys) with
      ⟨error | messages, s'⟩
    · rw [hBuilt] at hIsOk
      have hNot := (not_congr hIsOk).mp (by simp [Except.isOk, Except.toBool])
      rw [Classical.not_imp, not_le] at hNot
      obtain ⟨rfl, hOver⟩ := hNot
      exact Or.inl ⟨buildDiff_of_error hSome hBuilt, rfl, hOver⟩
    · rw [hBuilt] at hIsOk
      have hFits := hIsOk.mp rfl
      refine Or.inr ⟨s', buildDiff_of_ok hSome hBuilt, (bingx_venue hActive hBuilt).2, Or.inr ?_⟩
      cases action with
      | subscribe => exact Or.inr (hFits rfl)
      | unsubscribe => exact Or.inl rfl

/-- **One change on BingX.** From a share within the limit, the change to the
next share is built exactly when that one is within the limit too. -/
theorem bingx_buildChanges {s : (configuredAdapter .bingx).Session}
    {prev next : Finset SubscriptionKey} (hActive : Remembers .bingx s (topicsOf .bingx prev))
    (hPrev : ShareAdmitted .bingx endpoint prev) (hNext : ShareAdmitted .bingx endpoint next)
    (hLimit : (topicsOf .bingx prev).card ≤ bingxMaxTopicsPerConnection) :
    (buildChanges (configuredAdapter .bingx) s prev next = none ∧
      bingxMaxTopicsPerConnection < (topicsOf .bingx next).card) ∨
    ∃ s', buildChanges (configuredAdapter .bingx) s prev next = some s' ∧
      Remembers .bingx s' (topicsOf .bingx next) ∧
      (topicsOf .bingx next).card ≤ bingxMaxTopicsPerConnection := by
  -- the removals are always built
  rcases bingx_buildDiff hActive .unsubscribe (hPrev.sdiff next) with
    ⟨-, hAction, -⟩ | ⟨s₁, hRemove, hActive₁, -⟩
  · simp at hAction
  rw [change_unsubscribe_iter] at hActive₁
  have hTopics : topicsOf .bingx prev \ topicsOf .bingx (prev \ next) ∪
      topicsOf .bingx (next \ prev) = topicsOf .bingx next :=
    expand_change (nativeTopics_separates .bingx) hPrev.bingx
  have hAdd := bingx_buildDiff hActive₁ .subscribe (hNext.sdiff prev)
  simp only [change_subscribe_iter, hTopics] at hAdd
  have hChanges : buildChanges (configuredAdapter .bingx) s prev next =
      buildDiff (configuredAdapter .bingx) s₁ .subscribe (iter (next \ prev)) := by
    unfold buildChanges
    rw [hRemove, Option.bind_some]
  rw [hChanges]
  rcases hAdd with ⟨hNone, -, hOver⟩ | ⟨s₂, hSome, hActive₂, hFits⟩
  · exact Or.inl ⟨hNone, hOver⟩
  · refine Or.inr ⟨s₂, hSome, hActive₂, ?_⟩
    rcases hFits with hNothing | hAction | hFits
    · -- nothing was added: the next share is part of the previous one
      have hSubset : next ⊆ prev := Finset.sdiff_eq_empty_iff_subset.mp hNothing
      have hTopicsSubset : topicsOf .bingx next ⊆ topicsOf .bingx prev :=
        Finset.biUnion_subset_biUnion_of_subset_left _ hSubset
      exact (Finset.card_le_card hTopicsSubset).trans hLimit
    · simp at hAction
    · exact hFits

/-- A sequence of BingX shares is built exactly when each is within the limit. -/
theorem bingx_builds_iff {s : (configuredAdapter .bingx).Session} {prev : Finset SubscriptionKey}
    (hActive : Remembers .bingx s (topicsOf .bingx prev))
    (hPrev : ShareAdmitted .bingx endpoint prev)
    (hLimit : (topicsOf .bingx prev).card ≤ bingxMaxTopicsPerConnection)
    {shares : List (Finset SubscriptionKey)}
    (hShares : ∀ share ∈ shares, ShareAdmitted .bingx endpoint share) :
    builds (configuredAdapter .bingx) s prev shares = true ↔
      ∀ share ∈ shares, topicCount share ≤ bingxMaxTopicsPerConnection := by
  induction shares generalizing s prev with
  | nil => simp [builds]
  | cons next rest ih =>
    have hNext := hShares next List.mem_cons_self
    have hCount := card_topicsOf_bingx hNext.bingx
    rw [List.forall_mem_cons, ← hCount, builds]
    rcases bingx_buildChanges hActive hPrev hNext hLimit with
      ⟨hNone, hOver⟩ | ⟨s', hSome, hActive', hLimit'⟩
    · -- the share is over the limit, and the rest is not looked at
      rw [hNone]
      simp only [Bool.false_eq_true, false_iff, not_and]
      intro hFits
      omega
    · rw [hSome]
      have hRest := ih hActive' hNext hLimit'
        fun share hShare => hShares share (List.mem_cons_of_mem _ hShare)
      exact hRest.trans ⟨fun h => ⟨hLimit', h⟩, fun h => h.2⟩

/-- **Building.** For every provider, endpoint and sequence of snapshots with
symbols in the provider's grammar, the commands of every change of the
endpoint's share can be built, from a fresh session on, exactly when the
provider is not BingX or no share needs more than 200 topics. -/
theorem builds_iff (provider : Provider) (endpoint : EndpointKind)
    (hEndpoint : endpoint ∈ (configuredAdapter provider).endpoints) (epoch : Uuid)
    (snapshots : List (Finset SubscriptionKey))
    (hGrammar : ∀ snapshot ∈ snapshots, ∀ key ∈ snapshot, key.provider = provider →
      sessionGrammar provider key.symbol = true) :
    builds (configuredAdapter provider) ((configuredAdapter provider).session endpoint epoch) ∅
        (snapshots.map (filterDesired provider (configuredAdapter provider) endpoint)) = true ↔
      provider ≠ .bingx ∨ ∀ snapshot ∈ snapshots,
        topicCount (filterDesired provider (configuredAdapter provider) endpoint snapshot) ≤
          bingxMaxTopicsPerConnection := by
  -- the shares hold only the provider's keys, and those the endpoint serves
  have hShares : ∀ share ∈ snapshots.map
      (filterDesired provider (configuredAdapter provider) endpoint),
      ShareAdmitted provider endpoint share := by
    intro share hShare key hKey
    obtain ⟨snapshot, hSnapshot, rfl⟩ := List.mem_map.mp hShare
    obtain ⟨hIn, hProvider, hServed⟩ := Finset.mem_filter.mp (mem_iter.mp hKey)
    exact ⟨hProvider, hServed, hGrammar snapshot hSnapshot key hIn hProvider⟩
  have hEmpty : ShareAdmitted provider endpoint ∅ := by
    intro key hKey
    simp at hKey
  by_cases hBingx : provider = .bingx
  · subst hBingx
    have hActive : Remembers .bingx ((configuredAdapter .bingx).session endpoint epoch)
        (topicsOf .bingx ∅) := remembers_session .bingx endpoint epoch
    rw [bingx_builds_iff hActive hEmpty (by simp [topicsOf]) hShares]
    simp
  · have hOpened := openedFor_session provider endpoint epoch
    simp [hBingx, builds_admitted hBingx hEndpoint hOpened hEmpty hShares]

end Building

section Sample

local instance buildingUnicode : Unicode := .ascii
local instance buildingJson : JsonText := .table []
local instance buildingMarket : MarketData := .silent

/-- The tickers `C0-USDT`, `C1-USDT`, … -/
def bingxTicker (n : Nat) : SubscriptionKey :=
  ⟨.bingx, .linearPerpetual, 'C' :: Text.ofNat n ++ "-USDT".toList, .ticker⟩

/-- The first few ticker keys of BingX. -/
def bingxTickers (n : Nat) : Finset SubscriptionKey := ((List.range n).map bingxTicker).toFinset

/-- Two tickers of BingX are built, and then three. -/
theorem builds_iff_bingxTickers :
    builds (configuredAdapter .bingx) ((configuredAdapter .bingx).session .primary 7) ∅
      ([bingxTickers 2, bingxTickers 3].map
        (filterDesired .bingx (configuredAdapter .bingx) .primary)) = true := by
  have hGrammar : ∀ snapshot ∈ [bingxTickers 2, bingxTickers 3], ∀ key ∈ snapshot,
      key.provider = .bingx → sessionGrammar .bingx key.symbol = true := by
    decide +kernel
  have hLimit : ∀ snapshot ∈ [bingxTickers 2, bingxTickers 3],
      topicCount (filterDesired .bingx (configuredAdapter .bingx) .primary snapshot) ≤
        bingxMaxTopicsPerConnection := by
    decide +kernel
  exact (builds_iff .bingx .primary (List.mem_singleton_self _) 7 _ hGrammar).mpr (Or.inr hLimit)

/-- Ticker keys of BingX all belong to its primary endpoint. -/
theorem filterDesired_bingxTickers (n : Nat) :
    filterDesired .bingx (configuredAdapter .bingx) .primary (bingxTickers n) = bingxTickers n := by
  refine Finset.filter_true_of_mem fun key hKey => ?_
  obtain ⟨i, -, rfl⟩ := List.mem_map.mp (List.mem_toFinset.mp hKey)
  exact ⟨rfl, rfl⟩

/-- A BingX ticker takes three topics. -/
theorem topicCount_bingxTickers (n : Nat) :
    topicCount (bingxTickers n) = 3 * (bingxTickers n).card := by
  have hTickers : ∀ key ∈ bingxTickers n, key.channel = .ticker := by
    intro key hKey
    obtain ⟨i, -, rfl⟩ := List.mem_map.mp (List.mem_toFinset.mp hKey)
    rfl
  have hCandles : (bingxTickers n).filter (fun key => key.channel = .candle1m) = ∅ := by
    refine Finset.filter_false_of_mem fun key hKey => ?_
    simp [hTickers key hKey]
  rw [topicCount, Finset.filter_true_of_mem hTickers, hCandles, Finset.card_empty, Nat.add_zero]

/-- 67 tickers are 67 keys for the registry, far below the ceiling of 200, and
201 topics for the session: a fresh connection cannot build its commands. -/
theorem bingx_builds_fails :
    (bingxTickers 67).card ≤ (configuredAdapter .bingx).maxSubscriptions ∧
    (∀ key ∈ bingxTickers 67, sessionGrammar .bingx key.symbol = true) ∧
    builds (configuredAdapter .bingx) ((configuredAdapter .bingx).session .primary 7) ∅
      [filterDesired .bingx (configuredAdapter .bingx) .primary (bingxTickers 67)] = false := by
  -- the symbols differ, so the keys do
  have hNodup : ((List.range 67).map bingxTicker).Nodup := by
    refine List.Nodup.of_map SubscriptionKey.symbol ?_
    decide +kernel
  have hCard : (bingxTickers 67).card = 67 := by
    rw [bingxTickers, List.toFinset_card_of_nodup hNodup, List.length_map, List.length_range]
  have hSymbols : ∀ n ∈ List.range 67, sessionGrammar .bingx (bingxTicker n).symbol = true := by
    decide +kernel
  have hGrammar : ∀ key ∈ bingxTickers 67, sessionGrammar .bingx key.symbol = true := by
    intro key hKey
    obtain ⟨n, hn, rfl⟩ := List.mem_map.mp (List.mem_toFinset.mp hKey)
    exact hSymbols n hn
  have hCeiling : (bingxTickers 67).card ≤ bingxMaxTopicsPerConnection := by
    rw [hCard]
    decide
  refine ⟨hCeiling, hGrammar, ?_⟩
  rw [filterDesired_bingxTickers]
  have hShares : ∀ share ∈ [bingxTickers 67], ShareAdmitted .bingx .primary share := by
    intro share hShare key hKey
    rw [List.mem_singleton.mp hShare, mem_iter] at hKey
    have hGrammarKey := hGrammar key hKey
    obtain ⟨n, -, rfl⟩ := List.mem_map.mp (List.mem_toFinset.mp hKey)
    exact ⟨rfl, rfl, hGrammarKey⟩
  have hActive : Remembers .bingx ((configuredAdapter .bingx).session .primary 7)
      (topicsOf .bingx ∅) := remembers_session .bingx .primary 7
  rw [← Bool.not_eq_true, bingx_builds_iff hActive (fun key hKey => by simp at hKey)
    (by simp [topicsOf]) hShares]
  intro hFits
  -- three topics a key, and two hundred at most
  have hAtMost := hFits _ (List.mem_singleton_self _)
  rw [topicCount_bingxTickers, hCard] at hAtMost
  exact absurd hAtMost (by decide)

end Sample

end MarketStreamGateway
