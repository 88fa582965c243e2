import MarketStreamGateway.Agreement
import MarketStreamGateway.RegistryReports
import MarketStreamGateway.Catalog

/-!
# Market Stream Gateway — what a command does

A subscribe or unsubscribe command is decoded, expanded to keys, checked
against the configuration and the catalog, carried out by the registry, copied
to the session and to the client's route in the hub, and answered. Sessions and
publishers run between these steps.

`requestedKeys` is what a request is for, by itself; `AcceptsSubscribe` and
`AcceptsUnsubscribe` are the conditions on the state before the command.
`Settled` says what is left of a command after its last step.

Main results:
* `expandSubscriptions_eq_ok` — the expansion of a request.
* `requestedKeys_congr` — order, repetition, letter case and white space do not
  matter.
* `commands_all_or_nothing` — in every reachable state and under every
  interleaving a command is carried out as a whole or not at all.
-/

namespace MarketStreamGateway

open Lib

/-! ## Symbols -/

section Symbols

variable [Unicode]

/-- What a symbol is compared by: no surrounding white space, no lower case. -/
def foldSymbol (symbol : Text) : Text := Text.toAsciiUppercase (Text.trim symbol)

omit [Unicode] in
/-- Folding a folded symbol changes nothing. -/
theorem foldSymbol_idem (symbol : Text) : foldSymbol (foldSymbol symbol) = foldSymbol symbol := by
  rw [foldSymbol, foldSymbol, Text.trim_toAsciiUppercase, Text.trim_idem,
    Text.toAsciiUppercase_idem]

/-- Whether a character may stand in a symbol does not depend on its case. -/
theorem symbolCharacter_toUpper (c : Char) : symbolCharacter c.toUpper = symbolCharacter c := by
  by_cases hc : c.toNat < 128
  · have hUpper : c.toUpper.toNat < 128 :=
      Text.forall_ascii (P := fun c => c.toUpper.toNat < 128) (by decide) hc
    have hAscii := Text.forall_ascii (P := fun c =>
      (c.toUpper.isAlphanum || c.toUpper = '-' || c.toUpper = '_' || c.toUpper = '.') =
        (c.isAlphanum || c = '-' || c = '_' || c = '.')) (by decide) hc
    rw [symbolCharacter, Unicode.onAscii _ hUpper, symbolCharacter, Unicode.onAscii _ hc]
    exact hAscii
  · rw [Text.toUpper_of_not_ascii hc]

/-- A symbol is accepted for what it is folded to. -/
theorem normalizeSymbol_eq_ok {symbol n : Text} :
    normalizeSymbol symbol = .ok n ↔
      n = foldSymbol symbol ∧ n ≠ [] ∧ Text.byteLen n ≤ 64 ∧ n.all symbolCharacter := by
  -- the checks look at the trimmed symbol; folding its case changes none of them
  have hAll : (foldSymbol symbol).all symbolCharacter = (Text.trim symbol).all symbolCharacter := by
    rw [foldSymbol, Text.toAsciiUppercase, List.all_map]
    exact congrArg (Text.trim symbol).all (funext symbolCharacter_toUpper)
  have hNil : foldSymbol symbol = [] ↔ Text.trim symbol = [] := List.map_eq_nil_iff
  have hLen : Text.byteLen (foldSymbol symbol) = Text.byteLen (Text.trim symbol) :=
    Text.byteLen_toAsciiUppercase _
  simp only [normalizeSymbol]
  split
  · next hBad =>
    refine ⟨(fun hOk => by cases hOk), ?_⟩
    rintro ⟨rfl, hSome, hShort, -⟩
    rw [Ne, hNil] at hSome
    rw [hLen] at hShort
    simp only [Bool.or_eq_true, List.isEmpty_iff, decide_eq_true_eq] at hBad
    rcases hBad with hEmpty | hLong
    · exact absurd hEmpty hSome
    · omega
  · next hGood =>
    simp only [Bool.or_eq_true, List.isEmpty_iff, decide_eq_true_eq, not_or, not_lt] at hGood
    split
    · next hBad =>
      refine ⟨(fun hOk => by cases hOk), ?_⟩
      rintro ⟨rfl, -, -, hChars⟩
      rw [hAll] at hChars
      simp [hChars] at hBad
    · next hChars =>
      rw [Bool.not_eq_true', Bool.not_eq_false] at hChars
      constructor
      · intro hOk
        obtain rfl : foldSymbol symbol = n := Except.ok.inj hOk
        refine ⟨rfl, fun hEmpty => hGood.1 (hNil.mp hEmpty), ?_, ?_⟩
        · rw [hLen]
          exact hGood.2
        · rw [hAll]
          exact hChars
      · rintro ⟨rfl, -⟩
        rfl

end Symbols

/-! ## Requests -/

section Requests

variable [Unicode]

/-- The keys a request is for: one for every channel of every entry whose symbol
is accepted. -/
def requestedKeys (requested : List Subscription) : Finset SubscriptionKey :=
  (requested.flatMap fun entry =>
    match normalizeSymbol entry.symbol with
    | .ok symbol => entry.channels.map fun channel =>
        ⟨entry.provider, entry.market, symbol, channel⟩
    | .error _ => []).toFinset

/-- The list is not empty, and every entry has a channel and an accepted symbol. -/
def WellFormed (requested : List Subscription) : Prop :=
  requested ≠ [] ∧ ∀ entry ∈ requested, entry.channels ≠ [] ∧
    ∃ symbol, normalizeSymbol entry.symbol = .ok symbol

/-- A key is requested by an entry with its symbol and its channel. -/
theorem mem_requestedKeys {requested : List Subscription} {key : SubscriptionKey} :
    key ∈ requestedKeys requested ↔ ∃ entry ∈ requested, key.provider = entry.provider ∧
      key.market = entry.market ∧ normalizeSymbol entry.symbol = .ok key.symbol ∧
      key.channel ∈ entry.channels := by
  rw [requestedKeys, List.mem_toFinset, List.mem_flatMap]
  -- entry by entry; one whose symbol is refused has no keys
  refine exists_congr fun entry => and_congr_right fun _ => ?_
  cases hSymbol : normalizeSymbol entry.symbol with
  | error error => simp
  | ok symbol =>
    obtain ⟨provider, market, name, channel⟩ := key
    rw [List.mem_map]
    constructor
    · rintro ⟨_, hChannel, hKey⟩
      cases hKey
      exact ⟨rfl, rfl, rfl, hChannel⟩
    · rintro ⟨rfl, rfl, hName, hChannel⟩
      obtain rfl := Except.ok.inj hName
      exact ⟨channel, hChannel, rfl⟩

/-- The requested keys are canonical. -/
theorem requestedKeys_canonical {requested : List Subscription} {key : SubscriptionKey}
    (h : key ∈ requestedKeys requested) : key.Canonical := by
  obtain ⟨entry, -, -, -, hSymbol, -⟩ := mem_requestedKeys.mp h
  obtain ⟨hFold, hRest⟩ := normalizeSymbol_eq_ok.mp hSymbol
  refine normalizeSymbol_eq_ok.mpr ⟨?_, hRest⟩
  rw [hFold, foldSymbol_idem]

/-- An entry expands exactly when it has channels and an accepted symbol. -/
theorem intoKeys_eq_ok {entry : Subscription} {keys : List SubscriptionKey} :
    entry.intoKeys = .ok keys ↔ entry.channels ≠ [] ∧ ∃ symbol,
      normalizeSymbol entry.symbol = .ok symbol ∧
      keys = (iter entry.channels.toFinset).map fun channel =>
        ⟨entry.provider, entry.market, symbol, channel⟩ := by
  unfold Subscription.intoKeys
  split
  · -- an entry without channels is refused
    next hNone =>
    rw [List.isEmpty_iff] at hNone
    exact ⟨nofun, fun h => absurd hNone h.1⟩
  · next hSome =>
    rw [List.isEmpty_iff] at hSome
    cases hSymbol : normalizeSymbol entry.symbol with
    | error error => exact ⟨nofun, fun h => nomatch h.2⟩
    | ok symbol =>
      constructor
      · intro h
        exact ⟨hSome, symbol, rfl, (Except.ok.inj h).symm⟩
      · rintro ⟨-, symbol', hEq, rfl⟩
        obtain rfl := Except.ok.inj hEq
        rfl

/-- The conversion of one entry inside `expandSubscriptions`. -/
theorem expandEntry_eq_ok {entry : Subscription} {keys : List SubscriptionKey} :
    (match entry.intoKeys with
      | .ok keys => .ok keys
      | .error error => .error error.display : Except Text (List SubscriptionKey)) = .ok keys ↔
      entry.intoKeys = .ok keys := by
  cases entry.intoKeys with
  | error error => exact ⟨nofun, nofun⟩
  | ok expanded => rw [Except.ok.injEq, Except.ok.injEq]

/-- A request that expands is well formed, and expands to the keys it requests. -/
theorem wellFormed_of_expand {requested : List Subscription} {keys : List SubscriptionKey}
    (h : expandSubscriptions requested = .ok keys) :
    WellFormed requested ∧ keys = iter (requestedKeys requested) := by
  unfold expandSubscriptions at h
  split at h
  · cases h
  next hSome =>
  rw [List.isEmpty_iff] at hSome
  obtain ⟨expanded, hExpanded, h⟩ := bind_eq_ok.mp h
  obtain rfl := Except.ok.inj h
  have hEntries := map_of_mapM_eq_ok hExpanded
  -- the expansion stops at the first entry that is refused, so none was
  have hEntry : ∀ entry ∈ requested, ∃ keys ∈ expanded, entry.intoKeys = .ok keys := by
    intro entry hEntry
    obtain ⟨keys, hKeys, hEq⟩ := List.mem_map.mp (hEntries ▸ List.mem_map_of_mem hEntry)
    exact ⟨keys, hKeys, expandEntry_eq_ok.mp hEq.symm⟩
  refine ⟨⟨hSome, fun entry hMem => ?_⟩, congrArg iter ?_⟩
  · obtain ⟨keys, -, hKeys⟩ := hEntry entry hMem
    obtain ⟨hChannels, symbol, hSymbol, -⟩ := intoKeys_eq_ok.mp hKeys
    exact ⟨hChannels, symbol, hSymbol⟩
  · ext key
    rw [List.mem_toFinset, List.mem_flatten, mem_requestedKeys]
    constructor
    · rintro ⟨keys, hKeys, hKey⟩
      obtain ⟨entry, hMem, hEq⟩ := mem_of_mapM_eq_ok hExpanded hKeys
      obtain ⟨-, symbol, hSymbol, rfl⟩ := intoKeys_eq_ok.mp (expandEntry_eq_ok.mp hEq)
      obtain ⟨channel, hChannel, rfl⟩ := List.mem_map.mp hKey
      exact ⟨entry, hMem, rfl, rfl, hSymbol, List.mem_toFinset.mp (mem_iter.mp hChannel)⟩
    · rintro ⟨entry, hMem, hProvider, hMarket, hSymbol, hChannel⟩
      obtain ⟨keys, hKeys, hInto⟩ := hEntry entry hMem
      refine ⟨keys, hKeys, ?_⟩
      obtain ⟨-, symbol, hSymbol', rfl⟩ := intoKeys_eq_ok.mp hInto
      obtain rfl := Except.ok.inj (hSymbol.symm.trans hSymbol')
      refine List.mem_map.mpr ⟨key.channel, mem_iter.mpr (List.mem_toFinset.mpr hChannel), ?_⟩
      rw [← hProvider, ← hMarket]

/-- **Expansion.** A well-formed request is expanded to its keys in ascending
order, any other one is refused. -/
theorem expandSubscriptions_eq_ok {requested : List Subscription} {keys : List SubscriptionKey} :
    expandSubscriptions requested = .ok keys ↔
      WellFormed requested ∧ keys = iter (requestedKeys requested) := by
  refine ⟨wellFormed_of_expand, ?_⟩
  rintro ⟨hGood, rfl⟩
  -- it succeeds; the other direction says with what
  have hSome : ∃ keys, expandSubscriptions requested = .ok keys := by
    unfold expandSubscriptions
    rw [if_neg (by simpa using hGood.1)]
    obtain ⟨expanded, hExpanded⟩ := exists_mapM_eq_ok fun entry hEntry => by
      obtain ⟨hChannels, symbol, hSymbol⟩ := hGood.2 entry hEntry
      exact ⟨_, expandEntry_eq_ok.mpr (intoKeys_eq_ok.mpr ⟨hChannels, symbol, hSymbol, rfl⟩)⟩
    exact ⟨_, bind_eq_ok.mpr ⟨expanded, hExpanded, rfl⟩⟩
  obtain ⟨keys, hKeys⟩ := hSome
  rw [hKeys, (wellFormed_of_expand hKeys).2]

/-- Two entries that ask for the same: they differ in the letter case and the
surroundings of the symbol, and in the order and repetition of the channels. -/
def Subscription.Matches (a b : Subscription) : Prop :=
  a.provider = b.provider ∧ a.market = b.market ∧ foldSymbol a.symbol = foldSymbol b.symbol ∧
    ∀ channel, channel ∈ a.channels ↔ channel ∈ b.channels

/-- Two requests with the same entries, in whatever order and however often. -/
def SameRequest (requested requested' : List Subscription) : Prop :=
  (∀ a ∈ requested, ∃ b ∈ requested', a.Matches b) ∧
    ∀ b ∈ requested', ∃ a ∈ requested, b.Matches a

omit [Unicode] in
/-- It does not matter which of two spellings comes first. -/
theorem SameRequest.symm {requested requested' : List Subscription}
    (h : SameRequest requested requested') : SameRequest requested' requested := ⟨h.2, h.1⟩

/-- Symbols that fold alike normalize alike. -/
theorem normalizeSymbol_congr {symbol symbol' n : Text}
    (h : foldSymbol symbol = foldSymbol symbol') :
    normalizeSymbol symbol = .ok n ↔ normalizeSymbol symbol' = .ok n := by
  rw [normalizeSymbol_eq_ok, normalizeSymbol_eq_ok, h]

/-- Spelling makes no request well formed or ill formed. -/
theorem SameRequest.wellFormed {requested requested' : List Subscription}
    (h : SameRequest requested requested') (hGood : WellFormed requested) :
    WellFormed requested' := by
  refine ⟨?_, fun b hb => ?_⟩
  · rintro rfl
    obtain ⟨a, ha⟩ := List.exists_mem_of_ne_nil _ hGood.1
    obtain ⟨b, hb, -⟩ := h.1 a ha
    cases hb
  · obtain ⟨a, ha, -, -, hFold, hChannels⟩ := h.2 b hb
    obtain ⟨hSome, symbol, hSymbol⟩ := hGood.2 a ha
    refine ⟨?_, symbol, (normalizeSymbol_congr hFold).mpr hSymbol⟩
    obtain ⟨channel, hChannel⟩ := List.exists_mem_of_ne_nil _ hSome
    exact List.ne_nil_of_mem ((hChannels channel).mpr hChannel)

/-- Spelling adds no key. -/
theorem SameRequest.subset {requested requested' : List Subscription}
    (h : SameRequest requested requested') :
    requestedKeys requested ⊆ requestedKeys requested' := by
  intro key hKey
  obtain ⟨a, ha, hProvider, hMarket, hSymbol, hChannel⟩ := mem_requestedKeys.mp hKey
  obtain ⟨b, hb, hProvider', hMarket', hFold, hChannels⟩ := h.1 a ha
  exact mem_requestedKeys.mpr ⟨b, hb, hProvider.trans hProvider', hMarket.trans hMarket',
    (normalizeSymbol_congr hFold).mp hSymbol, (hChannels _).mp hChannel⟩

/-- **Requests.** Order, repetition, letter case and surrounding white space do
not matter. -/
theorem requestedKeys_congr {requested requested' : List Subscription}
    (h : SameRequest requested requested') :
    (WellFormed requested ↔ WellFormed requested') ∧
      requestedKeys requested = requestedKeys requested' :=
  ⟨⟨h.wellFormed, h.symm.wellFormed⟩, h.subset.antisymm h.symm.subset⟩

end Requests

/-! ## Acceptance -/

section Acceptance

variable [Unicode]

/-- The catalog as the sessions consult it. -/
def catalogVerdict (c : Catalog) : CatalogVerdict := fun key =>
  match c.validateSubscription key with
  | .ok _ => .ok ()
  | .error error => .error error.display

/-- The provider is enabled, and the catalog has the instrument with the
channel. -/
def Available (config : ApiConfig) (c : Catalog) (key : SubscriptionKey) : Prop :=
  key.provider ∈ config.enabledProviders ∧ key.provider ∈ c.enabledProviders ∧
    ∃ instrument, (c.providers key.provider).instruments.lookup key.symbol = some instrument ∧
      instrument.capabilities.supports key.channel = true

/-- The catalog lets a key pass exactly when it lists the instrument with that channel. -/
theorem catalogVerdict_eq_ok {c : Catalog} {key : SubscriptionKey} (hKey : key.Canonical) :
    catalogVerdict c key = .ok () ↔ key.provider ∈ c.enabledProviders ∧
      ∃ instrument, (c.providers key.provider).instruments.lookup key.symbol = some instrument ∧
        instrument.capabilities.supports key.channel = true := by
  unfold catalogVerdict Catalog.validateSubscription
  rw [c.get_canonical hKey]
  by_cases hEnabled : key.provider ∈ c.enabledProviders
  · rw [if_neg (not_not.mpr hEnabled)]
    cases hLookup : (c.providers key.provider).instruments.lookup key.symbol with
    | none => simp
    | some instrument =>
      cases hSupports : instrument.capabilities.supports key.channel with
      | false => simp [hSupports]
      | true => simp [hEnabled, hSupports]
  · rw [if_pos hEnabled]
    simp [hEnabled]

/-- The checks of a subscribe command before the registry. -/
theorem validatedSubscriptionKeys_cases (config : ApiConfig) (c : Catalog) (requestId : Text)
    (requested : List Subscription) :
    (WellFormed requested ∧ (∀ key ∈ requestedKeys requested, Available config c key) ∧
      validatedSubscriptionKeys config (catalogVerdict c) requestId requested =
        .ok (iter (requestedKeys requested))) ∨
    (¬ (WellFormed requested ∧ ∀ key ∈ requestedKeys requested, Available config c key) ∧
      ∃ code message, validatedSubscriptionKeys config (catalogVerdict c) requestId requested =
        .error (.error (some requestId) code message)) := by
  unfold validatedSubscriptionKeys
  cases hExpand : expandSubscriptions requested with
  | error message =>
    refine .inr ⟨fun h => ?_, _, _, rfl⟩
    rw [expandSubscriptions_eq_ok.mpr ⟨h.1, rfl⟩] at hExpand
    cases hExpand
  | ok keys =>
    obtain ⟨hGood, rfl⟩ := expandSubscriptions_eq_ok.mp hExpand
    dsimp only
    split
    · -- a provider that is switched off
      next key hFind =>
      have hOff : key.provider ∉ config.enabledProviders := by simpa using List.find?_some hFind
      have hKey : key ∈ requestedKeys requested := mem_iter.mp (List.mem_of_find?_eq_some hFind)
      exact .inr ⟨fun h => hOff (h.2 key hKey).1, _, _, rfl⟩
    · next hFind =>
      split
      · next message hFind =>
        -- a key that the catalog refuses
        obtain ⟨key, hMem, hVerdict⟩ := List.exists_of_findSome?_eq_some hFind
        have hKey : key ∈ requestedKeys requested := mem_iter.mp hMem
        refine .inr ⟨fun h => ?_, _, _, rfl⟩
        have hOk := (catalogVerdict_eq_ok (requestedKeys_canonical hKey)).mpr (h.2 key hKey).2
        rw [hOk] at hVerdict
        cases hVerdict
      · next hVerdicts =>
        refine .inl ⟨hGood, fun key hKey => ?_, rfl⟩
        -- no key was found at fault
        have hOn := List.find?_eq_none.mp hFind key (mem_iter.mpr hKey)
        have hVerdict := List.findSome?_eq_none_iff.mp hVerdicts key (mem_iter.mpr hKey)
        refine ⟨by simpa using hOn, (catalogVerdict_eq_ok (requestedKeys_canonical hKey)).mp ?_⟩
        cases hCatalog : catalogVerdict c key with
        | error message =>
          rw [hCatalog] at hVerdict
          cases hVerdict
        | ok verdict => rfl

/-- A request id is neither empty nor too long. -/
def ValidId (requestId : Text) : Prop :=
  requestId ≠ [] ∧ Text.byteLen requestId ≤ maxRequestIdBytes

omit [Unicode] in
/-- The check of the source, as a property. -/
theorem validId_iff {requestId : Text} :
    ¬ (requestId.isEmpty || Text.byteLen requestId > maxRequestIdBytes) = true ↔
      ValidId requestId := by
  simp only [Bool.or_eq_true, List.isEmpty_iff, decide_eq_true_eq, not_or, not_lt]
  rfl

/-- When a subscribe command is carried out. -/
structure AcceptsSubscribe (config : ApiConfig) (c : Catalog) (registry : SubscriptionRegistry)
    (client : ClientId) (requestId : Text) (requested : List Subscription) : Prop where
  id : ValidId requestId
  wellFormed : WellFormed requested
  available : ∀ key ∈ requestedKeys requested, Available config c key
  clientLimit : (registry.state.clientSet client ∪ requestedKeys requested).card ≤
    registry.maxSubscriptionsPerClient
  providerLimit : ∀ p,
    ((registry.state.desired ∪ requestedKeys requested).filter fun key => key.provider = p).card ≤
      registry.providerLimits.limitFor p

/-- When an unsubscribe command is carried out. -/
structure AcceptsUnsubscribe (requestId : Text) (requested : List Subscription) : Prop where
  id : ValidId requestId
  wellFormed : WellFormed requested

variable {registry : SubscriptionRegistry} {config : ApiConfig} {c : Catalog} {client : ClientId}
  {requestId : Text} {requested : List Subscription} {order : ProviderOrder}

/-- What `apply_command` hands on: the new set with the acknowledgement, or an
error with the registry as it was. -/
inductive Applied (registry : SubscriptionRegistry) (client : ClientId) (requestId : Text)
    (target : Finset SubscriptionKey) (ack : ControlMessage) (accepts : Prop) :
    Handled × SubscriptionRegistry → Prop
  | done {registry' : SubscriptionRegistry} (hAccepts : accepts)
    (hTarget : registry'.state.clientSet client = target)
    (hOthers : ∀ c, c ≠ client → registry'.state.clientSet c = registry.state.clientSet c) :
    Applied registry client requestId target ack accepts (.route target ack, registry')
  | refused (hRefuses : ¬ accepts) (code : ErrorCode) (message : Text) :
    Applied registry client requestId target ack accepts
      (.reply (.error (some requestId) code message), registry)

/-- A subscription is carried out in full exactly when every check passes. -/
theorem subscribe_applied (h : RegistryInvariant registry) :
    Applied registry client requestId (registry.state.clientSet client ∪ requestedKeys requested)
      (.ack requestId "subscribe".toList (iter (requestedKeys requested)))
      (AcceptsSubscribe config c registry client requestId requested)
      (applyCommand config (catalogVerdict c) order registry client
        (.subscribe requestId requested)) := by
  unfold applyCommand
  split
  · next hId => exact .refused (fun hAccepts => validId_iff.mpr hAccepts.id hId) _ _
  next hId =>
  show Applied _ _ _ _ _ _ (subscribe config (catalogVerdict c) order registry client requestId
    requested)
  unfold subscribe
  -- the keys are checked before the registry is called
  rcases validatedSubscriptionKeys_cases config c requestId requested with
    ⟨hGood, hAvailable, hKeys⟩ | ⟨hBad, code, message, hKeys⟩
  · rw [hKeys]
    dsimp only
    obtain ⟨hClient, hProvider, hUnchanged⟩ :=
      add_refused_iff h order client (iter (requestedKeys requested))
    simp only [demandOf, iter_toFinset] at hClient hProvider
    cases hAdd : (registry.add order client (iter (requestedKeys requested))).1 with
    | error error =>
      have hPair : registry.add order client (iter (requestedKeys requested)) =
          (.error error, registry) := Prod.ext hAdd (hUnchanged error hAdd)
      rw [hPair]
      cases error with
      | clientLimitExceeded limit total =>
        have hOver := hClient.mp ⟨limit, total, hAdd⟩
        exact .refused (fun hAccepts => absurd hAccepts.clientLimit (Nat.not_le.mpr hOver)) _ _
      | providerLimitExceeded p limit total =>
        obtain ⟨-, q, hOver⟩ := hProvider.mp ⟨p, limit, total, hAdd⟩
        exact .refused
          (fun hAccepts => absurd (hAccepts.providerLimit q) (Nat.not_le.mpr hOver)) _ _
    | ok change =>
      obtain ⟨hReports, hSet⟩ := add_reports h order client (iter (requestedKeys requested)) hAdd
      rw [iter_toFinset] at hSet
      -- the registry accepted them, so no limit was in the way
      have hWithin : (registry.state.clientSet client ∪ requestedKeys requested).card ≤
          registry.maxSubscriptionsPerClient := by
        by_contra hOver
        obtain ⟨limit, total, hError⟩ := hClient.mpr (Nat.not_le.mp hOver)
        rw [hAdd] at hError
        cases hError
      have hProviders : ∀ p, ((registry.state.desired ∪ requestedKeys requested).filter
          fun key => key.provider = p).card ≤ registry.providerLimits.limitFor p := by
        intro p
        by_contra hOver
        obtain ⟨p, limit, total, hError⟩ := hProvider.mpr ⟨hWithin, p, Nat.not_le.mp hOver⟩
        rw [hAdd] at hError
        cases hError
      have hPair : registry.add order client (iter (requestedKeys requested)) =
          (.ok change, (registry.add order client (iter (requestedKeys requested))).2) :=
        Prod.ext hAdd rfl
      rw [hPair]
      dsimp only
      rw [hReports.clientSubscriptions, hSet]
      -- the acknowledgement lists the keys asked for, held before or not
      exact .done ⟨validId_iff.mp hId, hGood, hAvailable, hWithin, hProviders⟩ hSet hReports.others
  · rw [hKeys]
    exact .refused (fun hAccepts => hBad ⟨hAccepts.wellFormed, hAccepts.available⟩) code message

/-- An unsubscription is carried out whenever it is well formed, whether or not
the keys are held. -/
theorem unsubscribe_applied :
    Applied registry client requestId (registry.state.clientSet client \ requestedKeys requested)
      (.ack requestId "unsubscribe".toList (iter (requestedKeys requested)))
      (AcceptsUnsubscribe requestId requested)
      (applyCommand config (catalogVerdict c) order registry client
        (.unsubscribe requestId requested)) := by
  unfold applyCommand
  split
  · next hId => exact .refused (fun hAccepts => validId_iff.mpr hAccepts.id hId) _ _
  next hId =>
  show Applied _ _ _ _ _ _ (unsubscribe registry client requestId requested)
  unfold unsubscribe
  cases hExpand : expandSubscriptions requested with
  | error message =>
    refine .refused (fun hAccepts => ?_) _ _
    rw [expandSubscriptions_eq_ok.mpr ⟨hAccepts.wellFormed, rfl⟩] at hExpand
    cases hExpand
  | ok keys =>
    obtain ⟨hGood, rfl⟩ := expandSubscriptions_eq_ok.mp hExpand
    have hSet := remove_clientSet registry client (iter (requestedKeys requested))
    have hClient := (hSet client).trans (if_pos rfl)
    rw [iter_toFinset] at hClient
    dsimp only
    rw [remove_reported, hClient]
    refine .done ⟨validId_iff.mp hId, hGood⟩ hClient fun other hOther => ?_
    -- the sets of the other clients stay
    rw [hSet, if_neg fun hEq => hOther hEq.symm]

end Acceptance

/-! ## Commands in the gateway -/

/-- What is left of a command once it is answered, in the states `s` before it,
`s₁` after the registry has answered, `t₁` and `s₂` around the update of the
hub, `t₂` and `s₃` around the reply. -/
structure CommandSettles (s s₁ t₁ s₂ t₂ s₃ : Gateway) (client : ClientId) (x : Session)
    (requestId : Text) (target : Finset SubscriptionKey) (ack : ControlMessage) (accepts : Prop) :
    Prop where
  accepted : accepts →
    s₁.registered client = target ∧ (∀ c, c ≠ client → s₁.registered c = s.registered c) ∧
    s₁.hub = s.hub ∧ s₂.hub.routes.handle client = some x.feed ∧
    s₂.hub.routes.subscribed client = target ∧ s₃.registered client = target ∧
    s₃.sessions client = some { x with
      subscriptions := target, sent := x.sent ++ [.control ack] }
  refused : ¬ accepts →
    s₁.subscriptions = s.subscriptions ∧ s₁.hub = s.hub ∧ s₂ = t₁ ∧
    s₃.subscriptions = t₂.subscriptions ∧ s₃.hub = t₂.hub ∧
    ∃ code message, s₃.sessions client = some { x with
      sent := x.sent ++ [.control (.error (some requestId) code message)] }

/-- The operations of other clients and of publishers. -/
def Bystanders (client : ClientId) (ops : List GatewayOp) : Prop :=
  ∀ op ∈ ops, op.actor ≠ some client

section Gateway

variable [Unicode] {s : Gateway} {client : ClientId} {x : Session}

/-- The command that `op` takes in settles, with other operations between its
steps. -/
def Gateway.Settles (s : Gateway) (client : ClientId) (x : Session) (op : GatewayOp)
    (between afterwards : List GatewayOp) (requestId : Text) (target : Finset SubscriptionKey)
    (ack : ControlMessage) (accepts : Prop) : Prop :=
  let s₁ := s.step op
  let t₁ := run Gateway.step s₁ between
  let s₂ := t₁.step (.updateRoutes client)
  let t₂ := run Gateway.step s₂ afterwards
  let s₃ := t₂.step (.reply client true)
  CommandSettles s s₁ t₁ s₂ t₂ s₃ client x requestId target ack accepts

/-- Other clients and publishers leave the session and the registered set. -/
theorem bystanders_run (h : Agreement s) {ops : List GatewayOp} (hOps : Bystanders client ops) :
    Agreement (run Gateway.step s ops) ∧
    (run Gateway.step s ops).sessions client = s.sessions client ∧
    (run Gateway.step s ops).registered client = s.registered client := by
  induction ops generalizing s with
  | nil => exact ⟨h, rfl, rfl⟩
  | cons op ops ih =>
    have hOther : op.actor ≠ some client := hOps op List.mem_cons_self
    obtain ⟨hAgree, hSession, hSet⟩ := ih (agreement_step h op) fun op' hOp' =>
      hOps op' (List.mem_cons_of_mem _ hOp')
    refine ⟨hAgree, ?_, ?_⟩
    · exact hSession.trans (sessions_step hOther)
    · exact hSet.trans ((registry_step h.registry op).2 client hOther)

/-- The step in which the registry answers a decoded command. -/
theorem step_command (hSession : s.sessions client = some x) (hPhase : x.phase = .selecting)
    {c : Catalog} {order : ProviderOrder} {bytes : Nat} (hBytes : bytes ≤ s.config.maxCommandBytes)
    (command : ClientCommand) :
    s.step (.incoming client (catalogVerdict c) order (some (.text bytes (.ok command)))) =
      match applyCommand s.config (catalogVerdict c) order s.subscriptions client command with
      | (.reply message, registry) =>
        { s.setSession client { x with phase := .replying message } with subscriptions := registry }
      | (.route subscriptions ack, registry) =>
        { s.setSession client { x with phase := .routing ack, subscriptions } with
          subscriptions := registry } := by
  -- a message within the bound goes to the command it parses to
  have hText : handleTextMessage s.config (catalogVerdict c) order s.subscriptions client bytes
      (.ok command) =
      applyCommand s.config (catalogVerdict c) order s.subscriptions client command := by
    rw [handleTextMessage, if_neg (Nat.not_lt.mpr hBytes)]
  simp only [Gateway.step, Gateway.localStep, Gateway.hubOps, hSession, if_pos hPhase,
    Gateway.handleClientMessage, hText]
  rcases applyCommand s.config (catalogVerdict c) order s.subscriptions client command with
    ⟨message | ⟨subscriptions, ack⟩, registry⟩
  · rfl
  · rfl

/-- Sending the answer ends the command. -/
theorem step_reply {message : ControlMessage} {feed : FeedId}
    {subscriptions : Finset SubscriptionKey} {sent : List Frame}
    (hx : s.sessions client = some ⟨.replying message, feed, subscriptions, sent⟩) :
    s.step (.reply client true) = s.setSession client
      ⟨.selecting, feed, subscriptions, sent ++ [.control message]⟩ := by
  simp only [Gateway.step, Gateway.localStep, Gateway.hubOps, hx, if_true]
  rfl

/-- **One command.** Whatever runs between its steps, a command whose first step
changes the registry or leaves it settles accordingly. -/
theorem command_settles (h : Agreement s) (hSession : s.sessions client = some x)
    (hPhase : x.phase = .selecting) {c : Catalog} {order : ProviderOrder} {bytes : Nat}
    (hBytes : bytes ≤ s.config.maxCommandBytes) {command : ClientCommand} {requestId : Text}
    {target : Finset SubscriptionKey} {ack : ControlMessage} {accepts : Prop}
    (hApplied : Applied s.subscriptions client requestId target ack accepts
      (applyCommand s.config (catalogVerdict c) order s.subscriptions client command))
    {between afterwards : List GatewayOp} (hBetween : Bystanders client between)
    (hAfterwards : Bystanders client afterwards) :
    s.Settles client x
      (.incoming client (catalogVerdict c) order (some (.text bytes (.ok command))))
      between afterwards requestId target ack accepts := by
  unfold Gateway.Settles
  intro s₁ t₁ s₂ t₂ s₃
  have h₁ : s₁ = s.step (.incoming client (catalogVerdict c) order
    (some (.text bytes (.ok command)))) := rfl
  have h₂ : s₂ = t₁.step (.updateRoutes client) := rfl
  have h₃ : s₃ = t₂.step (.reply client true) := rfl
  have hAgree₁ : Agreement s₁ := h₁ ▸ agreement_step h _
  obtain ⟨hAgreeT₁, hSessionT₁, hSetT₁⟩ : Agreement t₁ ∧ t₁.sessions client = s₁.sessions client ∧
    t₁.registered client = s₁.registered client := bystanders_run hAgree₁ hBetween
  have hAgree₂ : Agreement s₂ := h₂ ▸ agreement_step hAgreeT₁ _
  obtain ⟨-, hSessionT₂, hSetT₂⟩ : Agreement t₂ ∧ t₂.sessions client = s₂.sessions client ∧
    t₂.registered client = s₂.registered client := bystanders_run hAgree₂ hAfterwards
  clear_value s₃ t₂ s₂ t₁ s₁
  rw [step_command hSession hPhase hBytes] at h₁
  generalize applyCommand s.config (catalogVerdict c) order s.subscriptions client command =
    result at hApplied h₁
  obtain ⟨phase, feed, subscriptions, sent⟩ := x
  obtain rfl : phase = .selecting := hPhase
  cases hApplied with
  | done hAccepts hTarget hOthers =>
    refine ⟨fun _ => ?_, fun hNot => absurd hAccepts hNot⟩
    dsimp only at h₁
    have hSession₁ : s₁.sessions client = some ⟨.routing ack, feed, target, sent⟩ := by
      rw [h₁]
      dsimp only
      rw [setSession_sessions, if_pos rfl]
    have hSet₁ : s₁.registered client = target := by
      rw [h₁]
      exact hTarget
    rw [hSession₁] at hSessionT₁
    have hClient := hAgreeT₁.clients client
    rw [hSessionT₁] at hClient
    obtain ⟨hHandle, -⟩ := hClient.routed trivial
    rw [step_updateRoutes hSessionT₁] at h₂
    obtain ⟨-, hRoute, hSub⟩ := routeInvariant_update hAgreeT₁.session.hub.routes client target
    have hSession₂ : s₂.sessions client = some ⟨.replying ack, feed, target, sent⟩ := by
      rw [h₂]
      dsimp only
      rw [setSession_sessions, if_pos rfl]
    rw [hSession₂] at hSessionT₂
    rw [step_reply hSessionT₂] at h₃
    have hSet₂ : s₂.registered client = target := by
      rw [h₂]
      exact hSetT₁.trans hSet₁
    refine ⟨hSet₁, fun other hOther => ?_, ?_, ?_, ?_, ?_, ?_⟩
    · rw [h₁]
      exact hOthers other hOther
    · rw [h₁]
      rfl
    · rw [h₂]
      dsimp only
      rw [hRoute]
      exact hHandle
    · rw [h₂]
      dsimp only at hHandle ⊢
      rw [hSub, if_pos ⟨rfl, by rw [hHandle]; rfl⟩]
    · rw [h₃]
      exact hSetT₂.trans hSet₂
    · rw [h₃, setSession_sessions, if_pos rfl]
  | refused hRefuses code message =>
    refine ⟨fun hAccepts => absurd hAccepts hRefuses, fun _ => ?_⟩
    dsimp only at h₁
    have hSession₁ : s₁.sessions client =
        some ⟨.replying (.error (some requestId) code message), feed, subscriptions, sent⟩ := by
      rw [h₁]
      dsimp only
      rw [setSession_sessions, if_pos rfl]
    rw [hSession₁] at hSessionT₁
    -- there is nothing to route
    rw [step_idle (by simp [Gateway.localStep, hSessionT₁])
      (by simp [Gateway.hubOps, hSessionT₁])] at h₂
    rw [h₂, hSessionT₁] at hSessionT₂
    rw [step_reply hSessionT₂] at h₃
    refine ⟨?_, ?_, h₂, ?_, ?_, code, message, ?_⟩
    · rw [h₁]
    · rw [h₁]
      rfl
    · rw [h₃]
      rfl
    · rw [h₃]
      rfl
    · rw [h₃, setSession_sessions, if_pos rfl]

/-- **All or nothing.** In every reachable state of the gateway, for every client
at its select loop and every decoded command, with any operations of others
between the steps of the command: a subscribe command that meets
`AcceptsSubscribe` is acknowledged with the requested keys and adds them to the
client's set in the registry, the session and the hub; any other one is
answered with an error and changes none of the three. Likewise an unsubscribe
command takes the requested keys away. The keys are listed in ascending order,
and how the request is written down does not matter. -/
theorem commands_all_or_nothing (config : ApiConfig) (epoch : Uuid)
    (capacity maxClients maxPerClient : Nat) (limits : ProviderLimits) (ops : List GatewayOp)
    (s : Gateway)
    (hRun : s = run Gateway.step (.start config epoch capacity maxClients maxPerClient limits) ops)
    (client : ClientId) (x : Session) (hSession : s.sessions client = some x)
    (hPhase : x.phase = .selecting) (c : Catalog) (order : ProviderOrder) (bytes : Nat)
    (hBytes : bytes ≤ s.config.maxCommandBytes) (between afterwards : List GatewayOp)
    (hBetween : Bystanders client between) (hAfterwards : Bystanders client afterwards)
    (requestId : Text) (requested : List Subscription) :
    s.registered client = x.subscriptions ∧
    s.Settles client x (.incoming client (catalogVerdict c) order
        (some (.text bytes (.ok (.subscribe requestId requested)))))
      between afterwards requestId (x.subscriptions ∪ requestedKeys requested)
      (.ack requestId "subscribe".toList (iter (requestedKeys requested)))
      (AcceptsSubscribe s.config c s.subscriptions client requestId requested) ∧
    s.Settles client x (.incoming client (catalogVerdict c) order
        (some (.text bytes (.ok (.unsubscribe requestId requested)))))
      between afterwards requestId (x.subscriptions \ requestedKeys requested)
      (.ack requestId "unsubscribe".toList (iter (requestedKeys requested)))
      (AcceptsUnsubscribe requestId requested) ∧
    (iter (requestedKeys requested)).Pairwise (· < ·) ∧
    ∀ requested', SameRequest requested requested' →
      (WellFormed requested ↔ WellFormed requested') ∧
        requestedKeys requested = requestedKeys requested' := by
  -- while the session selects, the registry holds what the session says
  have h : Agreement s := by
    rw [hRun]
    exact run_invariant (P := Agreement) (fun _ op hAgree => agreement_step hAgree op)
      (agreement_start config epoch capacity maxClients maxPerClient limits) ops
  have hClient := h.clients client
  rw [hSession] at hClient
  have hHeld : s.registered client = x.subscriptions := hClient.held (by rw [hPhase]; trivial)
  refine ⟨hHeld, ?_, ?_, iter_strict _, fun requested' => requestedKeys_congr⟩
  · rw [← hHeld]
    exact command_settles h hSession hPhase hBytes (subscribe_applied h.registry) hBetween
      hAfterwards
  · rw [← hHeld]
    exact command_settles h hSession hPhase hBytes unsubscribe_applied hBetween hAfterwards

end Gateway

section Sample

local instance commandUnicode : Unicode := .ascii

/-- An instrument for the sample. -/
def btcInstrument : Instrument where
  instrumentId := "bybit:linear_perpetual:BTCUSDT".toList
  symbol := "BTCUSDT".toList
  provider := .bybit
  market := .linearPerpetual
  baseAsset := "BTC".toList
  quoteAsset := "USDT".toList
  settleAsset := "USDT".toList
  status := .live
  venueStatus := "Trading".toList
  tickSize := ⟨"0.1".toList⟩
  quantityStep := ⟨"0.001".toList⟩
  minOrderQuantity := none
  minNotional := none
  contractSize := none
  contractSizeAsset := none
  maxLeverage := none
  listingTimeMs := none
  expiryTimeMs := none
  capabilities := capabilities .bybit

/-- A catalog that lists it. -/
def btcCatalog : Catalog where
  enabledProviders := {.bybit}
  providers p := ⟨(∅ : Instruments).insert "BTCUSDT".toList btcInstrument,
    ⟨p, true, 1, none, none, none⟩⟩

/-- A gateway with one client. -/
def connectedGateway : Gateway := run Gateway.step sampleGateway [.connect 1 true]

/-- A session that has said hello. -/
def connectedSession : Session := ⟨.selecting, 0, ∅, [.control (.hello 7 4 100)]⟩

/-- The ticker twice, in lower case and with white space around the symbol. -/
def btcRequest : List Subscription :=
  [⟨.bybit, .linearPerpetual, " btcusdt".toList, [.ticker, .ticker]⟩]

/-- The key that the sample subscribes. -/
def btcKey : SubscriptionKey := ⟨.bybit, .linearPerpetual, "BTCUSDT".toList, .ticker⟩

/-- The request asks for this key, in a spelling of its own. -/
theorem requestedKeys_btcRequest : requestedKeys btcRequest = {btcKey} := by
  decide

/-- Every check passes. -/
theorem acceptsSubscribe_btcRequest :
    AcceptsSubscribe connectedGateway.config btcCatalog connectedGateway.subscriptions 1
      "r1".toList btcRequest := by
  refine ⟨⟨by decide, by decide⟩, ⟨by decide, fun entry hEntry => ?_⟩, fun key hKey => ?_, ?_,
    fun p => ?_⟩
  · obtain rfl := List.mem_singleton.mp hEntry
    exact ⟨by decide, "BTCUSDT".toList, by decide⟩
  · rw [requestedKeys_btcRequest, Finset.mem_singleton] at hKey
    subst hKey
    exact ⟨by decide, by decide, btcInstrument, Finmap.lookup_insert _, rfl⟩
  · decide
  · cases p <;> decide

/-- A subscribe command; a publisher runs before the hub is updated. -/
def btcOps : List GatewayOp :=
  [.incoming 1 (catalogVerdict btcCatalog) .declared
      (some (.text 120 (.ok (.subscribe "r1".toList btcRequest)))),
    .number (sampleEvent "BTCUSDT".toList 1), .route, .updateRoutes 1, .reply 1 true]

theorem commands_all_or_nothing_btcOps :
    (run Gateway.step connectedGateway btcOps).registered 1 = {btcKey} ∧
    (run Gateway.step connectedGateway btcOps).sessions 1 = some { connectedSession with
      subscriptions := {btcKey}
      sent := connectedSession.sent ++
        [.control (.ack "r1".toList "subscribe".toList [btcKey])] } := by
  have hOthers : Bystanders 1 [.number (sampleEvent "BTCUSDT".toList 1), .route] := by
    simp [Bystanders, GatewayOp.actor]
  have hSettles := (commands_all_or_nothing ⟨{.bybit}, 65536⟩ 7 1 10 4 (.uniform 100)
    [.connect 1 true] connectedGateway rfl 1 connectedSession (by rfl) rfl btcCatalog .declared 120
    (by decide) _ [] hOthers (by simp [Bystanders]) "r1".toList btcRequest).2.1
  obtain ⟨-, -, -, -, -, hSet, hSession⟩ := hSettles.accepted acceptsSubscribe_btcRequest
  rw [requestedKeys_btcRequest] at hSet hSession
  exact ⟨hSet, hSession⟩

end Sample

end MarketStreamGateway
