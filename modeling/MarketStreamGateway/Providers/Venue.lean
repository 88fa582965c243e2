import MarketStreamGateway.Providers.Bybit
import MarketStreamGateway.Providers.Binance
import MarketStreamGateway.Providers.Okx
import MarketStreamGateway.Providers.Kucoin
import MarketStreamGateway.Providers.Mexc
import MarketStreamGateway.Providers.Bingx
import MarketStreamGateway.Lib.Expansion

/-!
# Market Stream Gateway — the six adapters and what a venue is asked for

`configured_adapters` has one adapter for each provider, and a key is served on
one endpoint of its adapter.

A venue serves a set of native topics. It reads the topics of a command from
the document it was sent; a subscribe command adds them, an unsubscribe command
removes them. A topic is the list of the texts that name it: a stream name, or
a channel with a symbol. A KuCoin topic names a channel and several symbols
joined by commas, which count one by one.

`nativeTopics` is the expansion of a key, from the venues' side. Main results:

* `nativeTopics_separates` — distinct canonical keys share no topic.
* `subscriptionMessages_venue` — the commands a session builds for a diff
  change the venue's topics by the expansions of the keys of the diff.
-/

namespace MarketStreamGateway

open Lib

section

variable [Unicode] [JsonText] [MarketData]

/-- The adapters of `configured_adapters`, by provider. -/
def configuredAdapter : Provider → ProviderAdapter
  | .bybit => bybitAdapter
  | .binance => binanceAdapter
  | .okx => okxAdapter
  | .kucoin => kucoinAdapter
  | .mexc => mexcAdapter
  | .bingx => bingxAdapter

/-- Every channel has one of the endpoints that are opened. -/
theorem endpointFor_mem_endpoints (provider : Provider) (channel : Channel) :
    (configuredAdapter provider).endpointFor channel ∈ (configuredAdapter provider).endpoints := by
  cases provider <;> cases channel <;>
    first
    | exact List.mem_singleton_self _
    | simp [configuredAdapter, okxAdapter]

end

/-- The texts that name a native topic. -/
abbrev Topic := List Text

namespace Venue

/-! ## Reading commands -/

/-- The direction a verb stands for, at a venue with these two verbs. -/
def actionOf (subscribe unsubscribe : Text) (word : Value) : Option SubscriptionAction :=
  match word.asStr with
  | none => none
  | some word =>
    if word = subscribe then some .subscribe
    else if word = unsubscribe then some .unsubscribe
    else none

/-- The strings of an array. -/
def strings (list : Value) : List Text := (list.asArray.getD []).filterMap Value.asStr

/-- An OKX topic is named by a channel and an instrument. -/
def okxTopic (arg : Value) : Option Topic :=
  match (arg.get "channel".toList).bind Value.asStr, (arg.get "instId".toList).bind Value.asStr with
  | some channel, some instId => some [channel, instId]
  | _, _ => none

/-- The topics that one topic string of KuCoin stands for. -/
def kucoinTopics (topic : Text) : List Topic :=
  match Text.splitOnce ':' topic with
  | none => []
  | some (channel, symbols) => (Text.split ',' symbols).map fun symbol => [channel, symbol]

/-- What a MEXC method asks for, and on which channel. -/
def mexcMethod (method : Text) : Option (SubscriptionAction × Text) :=
  match Text.stripPrefix "sub.".toList method, Text.stripPrefix "unsub.".toList method with
  | some channel, _ => some (.subscribe, channel)
  | none, some channel => some (.unsubscribe, channel)
  | none, none => none

/-- The action and the topics of a command. -/
def read : Provider → Value → Option (SubscriptionAction × List Topic)
  | .bybit, document => do
    let action ← actionOf "subscribe".toList "unsubscribe".toList (← document.get "op".toList)
    some (action, (strings (← document.get "args".toList)).map ([·]))
  | .binance, document => do
    let action ← actionOf "SUBSCRIBE".toList "UNSUBSCRIBE".toList (← document.get "method".toList)
    some (action, (strings (← document.get "params".toList)).map ([·]))
  | .okx, document => do
    let action ← actionOf "subscribe".toList "unsubscribe".toList (← document.get "op".toList)
    some (action, ((← (← document.get "args".toList).asArray).filterMap okxTopic))
  | .kucoin, document => do
    let action ← actionOf "subscribe".toList "unsubscribe".toList (← document.get "type".toList)
    some (action, kucoinTopics (← (← document.get "topic".toList).asStr))
  | .mexc, document => do
    let (action, channel) ← mexcMethod (← (← document.get "method".toList).asStr)
    let symbol ← (← (← document.get "param".toList).get "symbol".toList).asStr
    some (action, [[channel, symbol]])
  | .bingx, document => do
    let action ← actionOf "sub".toList "unsub".toList (← document.get "reqType".toList)
    some (action, [[← (← document.get "dataType".toList).asStr]])

/-- The topics served after an action. -/
def change (action : SubscriptionAction) (topics : Finset Topic) (changed : List Topic) :
    Finset Topic :=
  match action with
  | .subscribe => topics ∪ changed.toFinset
  | .unsubscribe => topics \ changed.toFinset

/-- A command arrives. One that cannot be read changes nothing. -/
def receive (provider : Provider) (topics : Finset Topic) (document : Value) : Finset Topic :=
  match read provider document with
  | some (action, changed) => change action topics changed
  | none => topics

/-- The topics served after a list of commands, in the order they arrive. -/
def receiveAll (provider : Provider) (topics : Finset Topic) (documents : List Value) :
    Finset Topic :=
  documents.foldl (receive provider) topics

end Venue

/-! ## The topics of a key -/

/-- The native topics a provider serves a key with. -/
def nativeTopics : Provider → SubscriptionKey → List Topic
  | .bybit, key => [[BybitSession.topic key]]
  | .binance, key => (BinanceSession.channelStreams key).map ([·])
  | .okx, key => match key.channel with
    | .ticker => [["tickers".toList, key.symbol], ["mark-price".toList, key.symbol],
        ["funding-rate".toList, key.symbol]]
    | .candle1m => [["candle1m".toList, key.symbol]]
  | .kucoin, key => match key.channel with
    | .ticker => [["/contractMarket/tickerV2".toList, key.symbol],
        ["/contractMarket/execution".toList, key.symbol],
        ["/contract/instrument".toList, key.symbol]]
    | .candle1m => [["/contractMarket/limitCandle".toList, key.symbol ++ "_1min".toList]]
  | .mexc, key => (MexcSession.natives key).map fun native => [native.method, native.symbol]
  | .bingx, key => (BingxSession.keyTopics key).map ([·])

/-- The topics of a set of keys. -/
def topicsOf (provider : Provider) (keys : Finset SubscriptionKey) : Finset Topic :=
  expand (fun key => (nativeTopics provider key).toFinset) keys

/-- A set of keys, subscribed in ascending order, adds its topics. -/
theorem change_subscribe_iter (provider : Provider) (served : Finset Topic)
    (keys : Finset SubscriptionKey) :
    Venue.change .subscribe served ((iter keys).flatMap (nativeTopics provider)) =
      served ∪ topicsOf provider keys := by
  ext t
  simp [Venue.change, topicsOf]

/-- A set of keys, unsubscribed in ascending order, removes its topics. -/
theorem change_unsubscribe_iter (provider : Provider) (served : Finset Topic)
    (keys : Finset SubscriptionKey) :
    Venue.change .unsubscribe served ((iter keys).flatMap (nativeTopics provider)) =
      served \ topicsOf provider keys := by
  ext t
  simp [Venue.change, topicsOf]

/-! ## Distinct keys have distinct topics -/

/-- Where no suffix ends in another, a text tells what stands before its suffix. -/
theorem suffix_unique {suffixes : List Text}
    (hApart : ∀ x ∈ suffixes, ∀ y ∈ suffixes, x <:+ y → x = y) {x y s s' : Text}
    (hx : x ∈ suffixes) (hy : y ∈ suffixes) (hEq : s ++ x = s' ++ y) : s = s' ∧ x = y := by
  have hSame : x = y := by
    rcases List.suffix_or_suffix_of_suffix (hEq ▸ List.suffix_append s x)
      (List.suffix_append s' y) with hSuffix | hSuffix
    · exact hApart x hx y hy hSuffix
    · exact (hApart y hy x hx hSuffix).symm
  subst hSame
  exact ⟨List.append_cancel_right hEq, rfl⟩

/-- What stands after the symbol in a Binance stream. -/
def binanceSuffixes : Channel → List Text
  | .ticker => ["@ticker".toList, "@markPrice@1s".toList]
  | .candle1m => ["@kline_1m".toList]

/-- What stands after the symbol in a BingX topic. -/
def bingxSuffixes : Channel → List Text
  | .ticker => ["@ticker".toList, "@markPrice".toList, "@bookTicker".toList]
  | .candle1m => ["@kline_1m".toList]

/-- Binance topics are lower-case symbols with a suffix. -/
theorem binance_nativeTopics (key : SubscriptionKey) :
    nativeTopics .binance key =
      (binanceSuffixes key.channel).map fun x => [Text.toAsciiLowercase key.symbol ++ x] := by
  rcases key with ⟨p, m, s, _ | _⟩ <;> rfl

/-- BingX topics are symbols with a suffix. -/
theorem bingx_nativeTopics (key : SubscriptionKey) :
    nativeTopics .bingx key = (bingxSuffixes key.channel).map fun x => [key.symbol ++ x] := by
  rcases key with ⟨p, m, s, _ | _⟩ <;> rfl

/-- No suffix is the end of another, so a topic tells symbol and channel apart. -/
theorem binanceSuffixes_apart (c c' : Channel) :
    ∀ x ∈ binanceSuffixes c, ∀ y ∈ binanceSuffixes c', x <:+ y → x = y ∧ c = c' := by
  cases c <;> cases c' <;> decide

/-- The same of BingX. -/
theorem bingxSuffixes_apart (c c' : Channel) :
    ∀ x ∈ bingxSuffixes c, ∀ y ∈ bingxSuffixes c', x <:+ y → x = y ∧ c = c' := by
  cases c <;> cases c' <;> decide

/-- Topics that end in a suffix of their channel tell the rest and the channel. -/
theorem suffix_topics_unique {suffixes : Channel → List Text}
    (hApart : ∀ c c', ∀ x ∈ suffixes c, ∀ y ∈ suffixes c', x <:+ y → x = y ∧ c = c')
    {c c' : Channel} {s s' : Text} {t : Topic} (ht : t ∈ (suffixes c).map fun x => [s ++ x])
    (ht' : t ∈ (suffixes c').map fun x => [s' ++ x]) : s = s' ∧ c = c' := by
  obtain ⟨x, hx, rfl⟩ := List.mem_map.mp ht
  obtain ⟨y, hy, hEq⟩ := List.mem_map.mp ht'
  have hEq : s' ++ y = s ++ x := List.head_eq_of_cons_eq hEq
  have hAll : ∀ {z}, z ∈ suffixes c ++ suffixes c' → ∃ d, z ∈ suffixes d := by
    intro z hz
    rcases List.mem_append.mp hz with h | h <;> exact ⟨_, h⟩
  obtain ⟨hSame, rfl⟩ := suffix_unique
    (fun z hz w hw hSuffix => by
      obtain ⟨d, hz⟩ := hAll hz
      obtain ⟨d', hw⟩ := hAll hw
      exact (hApart d d' z hz w hw hSuffix).1)
    (List.mem_append_right _ hy) (List.mem_append_left _ hx) hEq
  exact ⟨hSame.symm, (hApart c c' y hx y hy List.suffix_rfl).2⟩

section Separation

variable {k k' : SubscriptionKey} {t : Topic}

/-- A topic tells the symbol and the channel of a key. Binance tells the symbol
up to case. -/
theorem nativeTopics_spelled (provider : Provider) (ht : t ∈ nativeTopics provider k)
    (ht' : t ∈ nativeTopics provider k') :
    k.channel = k'.channel ∧ Text.toAsciiLowercase k.symbol = Text.toAsciiLowercase k'.symbol ∧
      (provider ≠ .binance → k.symbol = k'.symbol) := by
  have hExact : k.symbol = k'.symbol ∧ k.channel = k'.channel →
      k.channel = k'.channel ∧ Text.toAsciiLowercase k.symbol = Text.toAsciiLowercase k'.symbol ∧
        (provider ≠ .binance → k.symbol = k'.symbol) :=
    fun ⟨hSymbol, hChannel⟩ => ⟨hChannel, congrArg _ hSymbol, fun _ => hSymbol⟩
  cases provider with
  | binance =>
    rw [binance_nativeTopics] at ht ht'
    obtain ⟨hLower, hChannel⟩ := suffix_topics_unique binanceSuffixes_apart ht ht'
    exact ⟨hChannel, hLower, fun h => absurd rfl h⟩
  | bingx =>
    rw [bingx_nativeTopics] at ht ht'
    exact hExact (suffix_topics_unique bingxSuffixes_apart ht ht')
  | bybit | okx | kucoin | mexc =>
    -- the channel stands apart from the symbol
    refine hExact ?_
    clear hExact
    rcases k with ⟨p, m, s, _ | _⟩ <;> rcases k' with ⟨p', m', s', _ | _⟩ <;>
      simp [nativeTopics, BybitSession.topic, MexcSession.natives] at ht ht' ⊢ <;>
      rcases ht with rfl | rfl | rfl <;> simp at ht' <;> exact ht'

/-- A topic tells the symbol and the channel of a canonical key. -/
theorem nativeTopics_unique [Unicode] (provider : Provider) (hk : k.Canonical)
    (hk' : k'.Canonical) (ht : t ∈ nativeTopics provider k) (ht' : t ∈ nativeTopics provider k') :
    k.symbol = k'.symbol ∧ k.channel = k'.channel := by
  obtain ⟨hChannel, hLower, -⟩ := nativeTopics_spelled provider ht ht'
  exact ⟨Text.toAsciiLowercase_injOn hk.upper hk'.upper hLower, hChannel⟩

variable [Unicode]

/-- Distinct canonical keys of a provider share no topic. -/
theorem nativeTopics_separates (provider : Provider) :
    Separates (fun key => (nativeTopics provider key).toFinset)
      fun key => key.provider = provider ∧ key.Canonical := by
  rintro ⟨p, ⟨⟩, s, c⟩ ⟨p', ⟨⟩, s', c'⟩ ⟨hp, hk⟩ ⟨hp', hk'⟩ hNe
  rw [Finset.disjoint_left]
  intro t ht ht'
  obtain ⟨hSymbol, hChannel⟩ := nativeTopics_unique provider hk hk' (List.mem_toFinset.mp ht)
    (List.mem_toFinset.mp ht')
  have hProvider : p = p' := Eq.trans hp (Eq.symm hp')
  exact hNe (by simp_all)

end Separation

/-! ## Reading what the sessions write -/

namespace Venue

@[simp] theorem mem_change {action : SubscriptionAction} {topics : Finset Topic}
    {changed : List Topic} {t : Topic} :
    t ∈ change action topics changed ↔
      match action with
      | .subscribe => t ∈ topics ∨ t ∈ changed
      | .unsubscribe => t ∈ topics ∧ t ∉ changed := by
  cases action <;> simp [change]

/-- Only the set of topics counts, not their order or repetition. -/
theorem change_congr {action : SubscriptionAction} (topics : Finset Topic)
    {changed changed' : List Topic} (h : ∀ t, t ∈ changed ↔ t ∈ changed') :
    change action topics changed = change action topics changed' := by
  ext t
  cases action <;> simp [h]

/-- Two changes in the same direction are one. -/
theorem change_append (action : SubscriptionAction) (topics : Finset Topic)
    (changed changed' : List Topic) :
    change action (change action topics changed) changed' =
      change action topics (changed ++ changed') := by
  ext t
  cases action <;> simp [or_assoc, and_assoc]

/-- Commands sent later are received later. -/
theorem receiveAll_append (provider : Provider) (topics : Finset Topic)
    (documents documents' : List Value) :
    receiveAll provider topics (documents ++ documents') =
      receiveAll provider (receiveAll provider topics documents) documents' :=
  List.foldl_append

/-- A session that issues one readable command for every item. -/
theorem receiveAll_issue {σ β : Type} {provider : Provider} {action : SubscriptionAction}
    {request : σ → β → OutboundCommand × σ} {topics : β → List Topic}
    (hRead : ∀ s b, read provider (request s b).1.document = some (action, topics b)) (s : σ)
    (served : Finset Topic) (l : List β) :
    receiveAll provider served ((issue request s l).1.map (·.document)) =
      change action served (l.flatMap topics) := by
  induction l generalizing s served with
  | nil => cases action <;> simp [receiveAll, change]
  | cons b l ih =>
    have hHead : receive provider served (request s b).1.document =
        change action served (topics b) := by rw [receive, hRead]
    rw [issue_cons, List.map_cons, receiveAll, List.foldl_cons, ← receiveAll, hHead, ih,
      change_append, List.flatMap_cons]

/-- The strings of an array of strings. -/
theorem strings_map (texts : List Text) : strings (.array (texts.map .string)) = texts := by
  simp [strings, Value.asArray, List.filterMap_map, Function.comp_def, Value.asStr]

/-- Each venue reads from a command what its session put there: the action, and
the topics of the batch. -/
theorem bybit_read (action : SubscriptionAction) (s : BybitSession) (topics : List Text) :
    read .bybit (BybitSession.command action s topics).1.document =
      some (action, topics.map ([·])) := by
  cases action <;>
    exact congrArg (fun l : List Text => some (_, l.map ([·]))) (strings_map topics)

theorem binance_read (action : SubscriptionAction) (s : BinanceSession) (batch : List Text) :
    read .binance (BinanceSession.command action s batch).1.document =
      some (action, batch.map ([·])) := by
  cases action <;>
    exact congrArg (fun l : List Text => some (_, l.map ([·]))) (strings_map batch)

/-- An OKX batch is a list of arguments, each a channel with an instrument. -/
theorem okx_read (action : SubscriptionAction) (s : OkxSession) (chunk : List OkxSubscriptionArg) :
    read .okx (OkxSession.command action s chunk).1.document =
      some (action, chunk.map fun arg => [arg.channel, arg.instId]) := by
  have hArgs : (chunk.map OkxSession.argDocument).filterMap okxTopic =
      chunk.map fun arg => [arg.channel, arg.instId] := by
    have hArg : okxTopic ∘ OkxSession.argDocument =
        some ∘ fun arg => [arg.channel, arg.instId] := rfl
    rw [List.filterMap_map, hArg, List.filterMap_eq_map]
  cases action <;> exact congrArg (fun l : List Topic => some (_, l)) hArgs

/-- One topic string of a KuCoin command may stand for many topics. -/
theorem kucoin_read (action : SubscriptionAction) (s : KucoinSession) (topic : Text) :
    read .kucoin (KucoinSession.command action s topic).1.document =
      some (action, kucoinTopics topic) := by
  cases action <;> rfl

/-- A MEXC command has the action and the channel in its method. -/
theorem mexc_read (action : SubscriptionAction) (s : MexcSession) (native : NativeSubscription) :
    read .mexc (MexcSession.command action s native).1.document =
      some (action, [[native.method, native.symbol]]) := by
  obtain ⟨method, symbol, interval⟩ := native
  cases action <;> cases interval <;> rfl

theorem bingx_read (action : SubscriptionAction) (s : BingxSession) (topic : Text) :
    read .bingx (BingxSession.command action s topic).1.document = some (action, [[topic]]) := by
  cases action <;> rfl

end Venue

/-! ## Diffs -/

/-- The batches make up the topics. -/
theorem BybitSession.batches_flatten (topics : List Text) : (batches topics).flatten = topics := by
  have hFold : ∀ b : Batches, (topics.foldl Batches.push b).done.flatten ++
      (topics.foldl Batches.push b).batch = b.done.flatten ++ b.batch ++ topics := by
    induction topics with
    | nil => simp
    | cons topic topics ih =>
      intro b
      rw [List.foldl_cons, ih, Batches.push]
      split <;> simp
  have hAll := hFold ⟨[], [], 0⟩
  simp only [List.flatten_nil, List.nil_append] at hAll
  rw [batches]
  split
  · next hEmpty =>
    rw [List.isEmpty_iff] at hEmpty
    rwa [hEmpty, List.append_nil] at hAll
  · rw [List.flatten_append, List.flatten_singleton, hAll]

/-- What a session remembers of the venue's topics: BingX keeps them all. -/
def Remembers [Unicode] [JsonText] [MarketData] :
    (provider : Provider) → (configuredAdapter provider).Session → Finset Topic → Prop
  | .bingx, s, served => (BingxSession.activeTopics s).image ([·]) = served
  | .bybit, _, _ | .binance, _, _ | .okx, _, _ | .kucoin, _, _ | .mexc, _, _ => True

section Diffs

open Venue

variable {action : SubscriptionAction} {keys : List SubscriptionKey}
  {messages : List OutboundCommand} {served : Finset Topic}

/-- The commands of a diff change what Bybit serves by the expansions of its
keys. Batching and repetition make no difference. -/
theorem bybit_venue {s s' : BybitSession}
    (h : s.subscriptionMessages action keys = (.ok messages, s')) :
    receiveAll .bybit served (messages.map (·.document)) =
      change action served (keys.flatMap (nativeTopics .bybit)) := by
  obtain ⟨rfl, -⟩ := Prod.mk.inj (BybitSession.subscriptionMessages_ok h)
  rw [receiveAll_issue (bybit_read action)]
  refine change_congr served fun t => ?_
  rw [← List.map_flatMap, List.flatMap_id', BybitSession.batches_flatten]
  exact mem_map_collected

/-- The same of Binance. -/
theorem binance_venue {s s' : BinanceSession}
    (h : s.subscriptionMessages action keys = (.ok messages, s')) :
    receiveAll .binance served (messages.map (·.document)) =
      change action served (keys.flatMap (nativeTopics .binance)) := by
  obtain ⟨rfl, -⟩ := Prod.mk.inj (BinanceSession.subscriptionMessages_ok h)
  rw [receiveAll_issue (binance_read action)]
  refine change_congr served fun t => ?_
  rw [← List.map_flatMap, List.flatMap_id', chunks_flatten (by decide)]
  exact mem_map_collected

/-- The topic an argument names. -/
def OkxSubscriptionArg.topic (arg : OkxSubscriptionArg) : Topic := [arg.channel, arg.instId]

/-- The arguments of a key name its topics. -/
theorem OkxSession.keyArgs_topics {endpoint : EndpointKind} {key : SubscriptionKey}
    {args : List OkxSubscriptionArg} (h : keyArgs endpoint key = .ok args) :
    args.map OkxSubscriptionArg.topic = nativeTopics .okx key := by
  rw [keyArgs] at h
  split at h
  · simp at h
  · split at h
    · simp at h
    · next hChannels =>
      obtain rfl := Except.ok.inj h
      rcases key with ⟨p, m, s, _ | _⟩ <;> cases endpoint <;> simp [channels] at hChannels <;>
        subst hChannels <;> rfl

/-- Distinct arguments name distinct topics. -/
theorem OkxSubscriptionArg.topic_injective : Function.Injective OkxSubscriptionArg.topic := by
  rintro ⟨channel, instId⟩ ⟨channel', instId'⟩ h
  simp only [topic, List.cons.injEq, and_true] at h
  rw [h.1, h.2]

/-- Collecting goes through all keys. -/
theorem OkxSession.subscriptionArgs_topics {endpoint : EndpointKind}
    {args result : List OkxSubscriptionArg}
    (h : subscriptionArgs endpoint args keys = .ok result) :
    result.map OkxSubscriptionArg.topic =
      pushAll (args.map OkxSubscriptionArg.topic) (keys.flatMap (nativeTopics .okx)) := by
  induction keys generalizing args with
  | nil =>
    obtain rfl := Except.ok.inj h
    rfl
  | cons key keys ih =>
    rw [subscriptionArgs] at h
    split at h
    · simp at h
    · next new hNew =>
      rw [ih h, List.flatMap_cons, pushAll_append, ← keyArgs_topics hNew,
        map_pushAll fun _ _ _ _ hEq => OkxSubscriptionArg.topic_injective hEq]

/-- The same of OKX, on either endpoint. -/
theorem okx_venue {s s' : OkxSession}
    (h : s.subscriptionMessages action keys = (.ok messages, s')) :
    receiveAll .okx served (messages.map (·.document)) =
      change action served (keys.flatMap (nativeTopics .okx)) := by
  obtain ⟨args, hArgs, hIssue⟩ := OkxSession.subscriptionMessages_ok h
  obtain ⟨rfl, -⟩ := Prod.mk.inj hIssue
  rw [receiveAll_issue (okx_read action)]
  refine change_congr served fun t => ?_
  rw [← List.map_flatMap, List.flatMap_id', chunks_flatten (by decide)]
  change t ∈ args.map OkxSubscriptionArg.topic ↔ _
  rw [OkxSession.subscriptionArgs_topics hArgs, mem_pushAll]
  simp

/-- Collecting goes through all keys. -/
theorem MexcSession.collect_eq {collected result : List NativeSubscription}
    {tickers tickers' : Tickers}
    (h : collect action collected tickers keys = (.ok result, tickers')) :
    result = pushAll collected (keys.flatMap natives) := by
  induction keys generalizing collected tickers with
  | nil =>
    obtain ⟨hResult, -⟩ := Prod.mk.inj h
    exact (Except.ok.inj hResult).symm
  | cons key keys ih =>
    rw [collect] at h
    split at h
    · simp at h
    · rw [ih h, List.flatMap_cons, pushAll_append]

/-- The same of MEXC. -/
theorem mexc_venue {s s' : MexcSession}
    (h : s.subscriptionMessages action keys = (.ok messages, s')) :
    receiveAll .mexc served (messages.map (·.document)) =
      change action served (keys.flatMap (nativeTopics .mexc)) := by
  obtain ⟨collected, tickers, hCollect, hIssue⟩ := MexcSession.subscriptionMessages_ok h
  obtain ⟨rfl, -⟩ := Prod.mk.inj hIssue
  rw [receiveAll_issue (mexc_read action), MexcSession.collect_eq hCollect]
  refine change_congr served fun t => ?_
  rw [← List.map_eq_flatMap]
  exact mem_map_collected

/-- The symbols of the keys of a channel, in order. -/
def symbolsOf (channel : Channel) (keys : List SubscriptionKey) : List Text :=
  (keys.filter (·.channel = channel)).map SubscriptionKey.symbol

/-- The symbols of a channel are those of its keys. -/
theorem mem_symbolsOf {channel : Channel} {symbol : Text} :
    symbol ∈ symbolsOf channel keys ↔
      ∃ key ∈ keys, key.channel = channel ∧ key.symbol = symbol := by
  simp [symbolsOf, and_assoc]

/-- Collecting goes through all keys. -/
theorem KucoinSession.collectSymbols_eq {symbols result : Symbols}
    (h : collectSymbols symbols keys = .ok result) :
    result.ticker = pushAll symbols.ticker (symbolsOf .ticker keys) ∧
      result.candle = pushAll symbols.candle (symbolsOf .candle1m keys) := by
  induction keys generalizing symbols with
  | nil =>
    obtain rfl := Except.ok.inj h
    exact ⟨rfl, rfl⟩
  | cons key keys ih =>
    rw [collectSymbols] at h
    split at h
    · simp at h
    · obtain ⟨hTicker, hCandle⟩ := ih h
      rw [hTicker, hCandle, Symbols.push]
      cases hChannel : key.channel <;> simp [symbolsOf, hChannel, pushAll]

/-- The symbols of a topic, one by one. -/
theorem Venue.kucoinTopics_join {front channel : Text} {pieces : List Text}
    (hFront : front = channel ++ [':']) (hChannel : ':' ∉ channel) (hSome : pieces ≠ [])
    (hPieces : ∀ piece ∈ pieces, ',' ∉ piece) :
    kucoinTopics (front ++ Text.join ',' pieces) = pieces.map fun piece => [channel, piece] := by
  rw [hFront, List.append_assoc, List.singleton_append, kucoinTopics,
    Text.splitOnce_append hChannel]
  simp only [Text.split_join hSome hPieces]

/-- A topic without a comma stands for one symbol. -/
theorem Venue.kucoinTopics_single {front channel symbol : Text} (hFront : front = channel ++ [':'])
    (hChannel : ':' ∉ channel) (hSymbol : ',' ∉ symbol) :
    kucoinTopics (front ++ symbol) = [[channel, symbol]] :=
  kucoinTopics_join hFront hChannel (List.cons_ne_nil symbol []) (by simpa using hSymbol)

/-- The channels of a ticker. -/
def kucoinTickerChannels : List Text :=
  ["/contractMarket/tickerV2".toList, "/contractMarket/execution".toList,
    "/contract/instrument".toList]

/-- The three ticker topics of a symbol, by channel. -/
theorem KucoinSession.tickerTopics_eq (symbol : Text) :
    tickerTopics symbol = kucoinTickerChannels.map fun channel => channel ++ [':'] ++ symbol := by
  have hTicker : "/contractMarket/tickerV2:".toList =
      "/contractMarket/tickerV2".toList ++ [':'] := by simp
  have hExecution : "/contractMarket/execution:".toList =
      "/contractMarket/execution".toList ++ [':'] := by simp
  have hInstrument : "/contract/instrument:".toList =
      "/contract/instrument".toList ++ [':'] := by simp
  rw [tickerTopics, hTicker, hExecution, hInstrument]
  rfl

/-- A ticker topic names one channel and one symbol. -/
theorem KucoinSession.tickerTopic_read {symbol channel : Text} (hSymbol : ',' ∉ symbol)
    (hChannel : channel ∈ kucoinTickerChannels) :
    kucoinTopics (channel ++ [':'] ++ symbol) = [[channel, symbol]] := by
  have hColon : ∀ channel ∈ kucoinTickerChannels, ':' ∉ channel := by simp [kucoinTickerChannels]
  exact kucoinTopics_single rfl (hColon channel hChannel) hSymbol

/-- Read back, they are three topics of the one symbol. -/
theorem KucoinSession.tickerTopics_read {symbol : Text} (hSymbol : ',' ∉ symbol) :
    (tickerTopics symbol).flatMap kucoinTopics =
      kucoinTickerChannels.map fun channel => [channel, symbol] := by
  rw [tickerTopics_eq, List.flatMap_map, List.map_eq_flatMap]
  exact List.flatMap_congr fun channel hChannel => tickerTopic_read hSymbol hChannel

/-- Read back, a shared candle topic is one topic for each symbol. -/
theorem KucoinSession.candleTopic_read {symbols : List Text} (hSome : symbols ≠ [])
    (hSymbols : ∀ symbol ∈ symbols, ',' ∉ symbol) :
    kucoinTopics (candleTopic symbols) = symbols.map fun symbol =>
      ["/contractMarket/limitCandle".toList, symbol ++ "_1min".toList] := by
  have hCandle : "/contractMarket/limitCandle:".toList =
      "/contractMarket/limitCandle".toList ++ [':'] := by simp
  have hPieces : ∀ piece ∈ symbols.map (fun symbol => symbol ++ "_1min".toList), ',' ∉ piece := by
    intro piece hPiece
    obtain ⟨symbol, hSymbol, rfl⟩ := List.mem_map.mp hPiece
    rw [List.mem_append, not_or]
    exact ⟨hSymbols symbol hSymbol, by simp⟩
  have hNonempty : symbols.map (fun symbol => symbol ++ "_1min".toList) ≠ [] :=
    fun hNil => hSome (List.map_eq_nil_iff.mp hNil)
  unfold candleTopic
  rw [kucoinTopics_join hCandle (by simp) hNonempty hPieces, List.map_map]
  rfl

/-- The candle topics, symbol by symbol. -/
theorem KucoinSession.candleTopics_read {symbols : List Text}
    (hSymbols : ∀ symbol ∈ symbols, ',' ∉ symbol) :
    ((chunks kucoinTopicsPerCommand symbols).map candleTopic).flatMap kucoinTopics =
      symbols.map fun symbol =>
        ["/contractMarket/limitCandle".toList, symbol ++ "_1min".toList] := by
  have hRuns : ∀ run ∈ chunks kucoinTopicsPerCommand symbols,
      kucoinTopics (candleTopic run) = run.map fun symbol =>
        ["/contractMarket/limitCandle".toList, symbol ++ "_1min".toList] := by
    intro run hRun
    obtain ⟨hSome, hSubset⟩ := mem_chunks (by decide) hRun
    exact candleTopic_read hSome fun symbol hSymbol => hSymbols symbol (hSubset hSymbol)
  rw [List.flatMap_map, List.flatMap_congr hRuns, ← List.map_flatMap, List.flatMap_id',
    chunks_flatten (by decide)]

/-- A canonical symbol has no comma, so joining by commas loses nothing. -/
theorem SubscriptionKey.Canonical.no_comma [Unicode] {key : SubscriptionKey} (h : key.Canonical) :
    ',' ∉ key.symbol := by
  refine h.not_mem (fun d hd => ?_) (by simp [symbolCharacter, Unicode.onAscii])
  by_cases hAscii : d.toNat < 128
  · revert hd
    exact Text.forall_ascii (P := fun d => d.toUpper = ',' → d = ',') (by decide) hAscii
  · rwa [Text.toUpper_of_not_ascii hAscii] at hd

/-- The native topics of a ticker, by its symbol. -/
def kucoinTickerTopics (symbol : Text) : List Topic :=
  kucoinTickerChannels.map fun channel => [channel, symbol]

/-- The native topic of a candle, by its symbol. -/
def kucoinCandleTopic (symbol : Text) : Topic :=
  ["/contractMarket/limitCandle".toList, symbol ++ "_1min".toList]

/-- The ticker topics of a list of keys, by symbol. -/
theorem kucoin_flatMap_ticker (keys : List SubscriptionKey) :
    (keys.filter (·.channel = .ticker)).flatMap (nativeTopics .kucoin) =
      (symbolsOf .ticker keys).flatMap kucoinTickerTopics := by
  rw [symbolsOf, List.flatMap_map]
  refine List.flatMap_congr fun key hKey => ?_
  rw [List.mem_filter, decide_eq_true_eq] at hKey
  rw [nativeTopics, hKey.2]
  rfl

/-- The candle topics of a list of keys, by symbol. -/
theorem kucoin_flatMap_candle (keys : List SubscriptionKey) :
    (keys.filter (·.channel = .candle1m)).flatMap (nativeTopics .kucoin) =
      (symbolsOf .candle1m keys).map kucoinCandleTopic := by
  rw [symbolsOf, List.map_map, List.map_eq_flatMap]
  refine List.flatMap_congr fun key hKey => ?_
  rw [List.mem_filter, decide_eq_true_eq] at hKey
  rw [nativeTopics, hKey.2]
  rfl

/-- The topics built for the collected symbols are those of the keys, tickers
first. -/
theorem KucoinSession.buildTopics_read [Unicode] {symbols : Symbols}
    (hCanonical : ∀ key ∈ keys, key.Canonical)
    (h : collectSymbols ⟨[], []⟩ keys = .ok symbols) :
    (buildTopics symbols).flatMap kucoinTopics =
      pushAll [] ((keys.filter (·.channel = .ticker) ++
        keys.filter (·.channel = .candle1m)).flatMap (nativeTopics .kucoin)) := by
  obtain ⟨hTicker, hCandle⟩ := collectSymbols_eq h
  -- symbols are joined by commas, which no canonical symbol has
  have hComma : ∀ channel, ∀ symbol ∈ symbolsOf channel keys, ',' ∉ symbol := by
    intro channel symbol hSymbol
    obtain ⟨key, hKey, -, rfl⟩ := mem_symbolsOf.mp hSymbol
    exact (hCanonical key hKey).no_comma
  have hTickers : (symbols.ticker.flatMap tickerTopics).flatMap kucoinTopics =
      pushAll [] ((symbolsOf .ticker keys).flatMap kucoinTickerTopics) := by
    have hRead : ∀ symbol ∈ symbols.ticker,
        (tickerTopics symbol).flatMap kucoinTopics = kucoinTickerTopics symbol := by
      intro symbol hSymbol
      rw [hTicker, mem_pushAll] at hSymbol
      exact tickerTopics_read (hComma _ symbol (hSymbol.resolve_left List.not_mem_nil))
    rw [List.flatMap_assoc, List.flatMap_congr hRead, hTicker]
    refine flatMap_pushAll (fun symbol => by simp [kucoinTickerTopics, kucoinTickerChannels]) ?_
    intro a _ b _ t hta htb
    obtain ⟨channel, -, rfl⟩ := List.mem_map.mp hta
    obtain ⟨channel', -, hEq⟩ := List.mem_map.mp htb
    simp only [List.cons.injEq, and_true] at hEq
    exact hEq.2.symm
  have hCandles : ((chunks kucoinTopicsPerCommand symbols.candle).map candleTopic).flatMap
      kucoinTopics = pushAll [] ((symbolsOf .candle1m keys).map kucoinCandleTopic) := by
    rw [candleTopics_read fun symbol hSymbol => ?_, hCandle]
    · refine map_pushAll fun a _ b _ hEq => ?_
      simpa [kucoinCandleTopic] using hEq
    · rw [hCandle, mem_pushAll] at hSymbol
      exact hComma _ symbol (hSymbol.resolve_left List.not_mem_nil)
  -- no candle topic is a ticker topic
  have hApart : ∀ t ∈ (symbolsOf .candle1m keys).map kucoinCandleTopic,
      t ∉ pushAll [] ((symbolsOf .ticker keys).flatMap kucoinTickerTopics) := by
    intro t ht htTicker
    obtain ⟨symbol, -, rfl⟩ := List.mem_map.mp ht
    simp [kucoinCandleTopic, kucoinTickerTopics, kucoinTickerChannels] at htTicker
  have hSplit := append_pushAll hApart []
  rw [List.append_nil] at hSplit
  rw [buildTopics, List.flatMap_append, hTickers, hCandles, List.flatMap_append,
    kucoin_flatMap_ticker, kucoin_flatMap_candle, pushAll_append, hSplit]

/-- Grouping the keys by channel keeps them all. -/
theorem mem_flatMap_grouped {f : SubscriptionKey → List Topic} {t : Topic} :
    t ∈ (keys.filter (·.channel = .ticker) ++ keys.filter (·.channel = .candle1m)).flatMap f ↔
      t ∈ keys.flatMap f := by
  simp only [List.mem_flatMap, List.mem_append, List.mem_filter, decide_eq_true_eq]
  constructor
  · rintro ⟨key, ⟨hKey, -⟩ | ⟨hKey, -⟩, ht⟩ <;> exact ⟨key, hKey, ht⟩
  · rintro ⟨key, hKey, ht⟩
    cases hChannel : key.channel with
    | ticker => exact ⟨key, Or.inl ⟨hKey, hChannel⟩, ht⟩
    | candle1m => exact ⟨key, Or.inr ⟨hKey, hChannel⟩, ht⟩

/-- The same of KuCoin, whose candle symbols share topics. -/
theorem kucoin_venue [Unicode] {s s' : KucoinSession} (hCanonical : ∀ key ∈ keys, key.Canonical)
    (h : s.subscriptionMessages action keys = (.ok messages, s')) :
    receiveAll .kucoin served (messages.map (·.document)) =
      change action served (keys.flatMap (nativeTopics .kucoin)) := by
  obtain ⟨symbols, hSymbols, hIssue⟩ := KucoinSession.subscriptionMessages_ok h
  obtain ⟨rfl, -⟩ := Prod.mk.inj hIssue
  rw [receiveAll_issue (kucoin_read action)]
  refine change_congr served fun t => ?_
  rw [KucoinSession.buildTopics_read hCanonical hSymbols, mem_pushAll, mem_flatMap_grouped]
  simp

/-- Collecting goes through all keys. -/
theorem BingxSession.collect_eq [Unicode] {requested result : List Text}
    {tickers tickers' : Tickers}
    (h : collect action requested tickers keys = (.ok result, tickers')) :
    result = pushAll requested (keys.flatMap keyTopics) := by
  induction keys generalizing requested tickers with
  | nil =>
    obtain ⟨hResult, -⟩ := Prod.mk.inj h
    exact (Except.ok.inj hResult).symm
  | cons key keys ih =>
    rw [collect] at h
    split at h
    · simp at h
    · rw [ih h, List.flatMap_cons, pushAll_append]

/-- Leaving out the topics that change nothing changes nothing. -/
theorem BingxSession.changeTopics_spec {active active' : Finset Text} {requested topics : List Text}
    (h : changeTopics active requested action = .ok (topics, active')) :
    change action (active.image ([·])) (topics.map ([·])) =
      change action (active.image ([·])) (requested.map ([·])) ∧
    active'.image ([·]) = change action (active.image ([·])) (requested.map ([·])) := by
  cases action with
  | subscribe =>
    simp only [changeTopics] at h
    split at h
    · simp at h
    · obtain ⟨rfl, rfl⟩ := Prod.mk.inj (Except.ok.inj h)
      constructor
      · ext t
        simp only [mem_change, Finset.mem_image, List.mem_map, List.mem_filter, decide_eq_true_eq]
        constructor
        · rintro (hOld | ⟨x, ⟨hx, -⟩, rfl⟩)
          · exact Or.inl hOld
          · exact Or.inr ⟨x, hx, rfl⟩
        · rintro (hOld | ⟨x, hx, rfl⟩)
          · exact Or.inl hOld
          · -- a topic that is active already is not asked for again
            by_cases hActive : x ∈ active
            · exact Or.inl ⟨x, hActive, rfl⟩
            · exact Or.inr ⟨x, ⟨hx, hActive⟩, rfl⟩
      · ext t
        simp only [mem_change, Finset.mem_image, Finset.mem_union, List.mem_toFinset, List.mem_map,
          List.mem_filter, decide_eq_true_eq]
        constructor
        · rintro ⟨x, hx | ⟨hx, -⟩, rfl⟩
          · exact Or.inl ⟨x, hx, rfl⟩
          · exact Or.inr ⟨x, hx, rfl⟩
        · rintro (⟨x, hx, rfl⟩ | ⟨x, hx, rfl⟩)
          · exact ⟨x, Or.inl hx, rfl⟩
          · by_cases hActive : x ∈ active
            · exact ⟨x, Or.inl hActive, rfl⟩
            · exact ⟨x, Or.inr ⟨hx, hActive⟩, rfl⟩
  | unsubscribe =>
    simp only [changeTopics] at h
    obtain ⟨rfl, rfl⟩ := Prod.mk.inj (Except.ok.inj h)
    constructor
    · ext t
      simp only [mem_change, Finset.mem_image, List.mem_map, List.mem_filter, decide_eq_true_eq]
      -- a topic that is not active is not given back either
      refine and_congr_right fun hOld => not_congr ?_
      obtain ⟨x, hActive, rfl⟩ := hOld
      simp [hActive]
    · ext t
      simp only [mem_change, Finset.mem_image, Finset.mem_sdiff, List.mem_toFinset, List.mem_map]
      constructor
      · rintro ⟨x, ⟨hActive, hNot⟩, rfl⟩
        exact ⟨⟨x, hActive, rfl⟩, by simpa using hNot⟩
      · rintro ⟨⟨x, hActive, rfl⟩, hNot⟩
        exact ⟨x, ⟨hActive, by simpa using hNot⟩, rfl⟩

/-- The same of BingX, which sends commands only for topics that change its
active set: the set is what the venue serves. -/
theorem bingx_venue [Unicode] {s s' : BingxSession} (hActive : s.activeTopics.image ([·]) = served)
    (h : s.subscriptionMessages action keys = (.ok messages, s')) :
    receiveAll .bingx served (messages.map (·.document)) =
      change action served (keys.flatMap (nativeTopics .bingx)) ∧
    s'.activeTopics.image ([·]) = change action served (keys.flatMap (nativeTopics .bingx)) := by
  obtain ⟨requested, tickers, topics, activeTopics, hCollect, hChange, hIssue⟩ :=
    BingxSession.subscriptionMessages_ok h
  obtain ⟨rfl, rfl⟩ := Prod.mk.inj hIssue
  obtain ⟨hSent, hAfter⟩ := BingxSession.changeTopics_spec hChange
  have hKeys : change action served (requested.map ([·])) =
      change action served (keys.flatMap (nativeTopics .bingx)) := by
    rw [BingxSession.collect_eq hCollect]
    exact change_congr served fun t => mem_map_collected
  rw [hActive] at hSent hAfter
  refine ⟨?_, ?_⟩
  · rw [receiveAll_issue (bingx_read action), ← List.map_eq_flatMap, hSent, hKeys]
  · rw [issue_field (f := BingxSession.activeTopics) fun _ _ => rfl, hAfter, hKeys]

end Diffs

section Adapters

open Venue

variable [Unicode] [JsonText] [MarketData]

/-- **Diffs.** The commands built for a diff change the venue's topics by the
expansions of the keys of the diff. -/
theorem subscriptionMessages_venue {provider : Provider}
    {s s' : (configuredAdapter provider).Session} {action : SubscriptionAction}
    {keys : List SubscriptionKey} {messages : List OutboundCommand} {served : Finset Topic}
    (hCanonical : ∀ key ∈ keys, key.Canonical) (hRemembers : Remembers provider s served)
    (h : (configuredAdapter provider).subscriptionMessages s action keys = (.ok messages, s')) :
    receiveAll provider served (messages.map (·.document)) =
      change action served (keys.flatMap (nativeTopics provider)) ∧
    Remembers provider s' (change action served (keys.flatMap (nativeTopics provider))) := by
  cases provider with
  | bybit => exact ⟨bybit_venue h, trivial⟩
  | binance => exact ⟨binance_venue h, trivial⟩
  | okx => exact ⟨okx_venue h, trivial⟩
  | kucoin => exact ⟨kucoin_venue hCanonical h, trivial⟩
  | mexc => exact ⟨mexc_venue h, trivial⟩
  | bingx => exact bingx_venue hRemembers h

omit [Unicode] in
/-- No frame changes the active topics. -/
theorem BingxSession.parse_activeTopics (s : BingxSession) (text : Text) (receivedAtMs : Nat) :
    (s.parse text receivedAtMs).2.activeTopics = s.activeTopics := by
  unfold BingxSession.parse
  split
  · rfl
  · split
    · rfl
    · split
      · rfl
      · split
        · rfl
        · split <;> rfl

/-- A new session remembers nothing. -/
theorem remembers_session (provider : Provider) (endpoint : EndpointKind) (epoch : Uuid) :
    Remembers provider ((configuredAdapter provider).session endpoint epoch) ∅ := by
  cases provider with
  | bingx => exact Finset.image_empty _
  | _ => trivial

/-- Heartbeats and frames leave what a session remembers alone. -/
theorem remembers_heartbeat {provider : Provider} {s : (configuredAdapter provider).Session}
    {served : Finset Topic} (h : Remembers provider s served) :
    Remembers provider ((configuredAdapter provider).heartbeat s).2 served := by
  cases provider with
  | bingx => exact h
  | _ => trivial

/-- A session remembers what its venue serves while it parses. -/
theorem remembers_parse {provider : Provider} {s : (configuredAdapter provider).Session}
    {served : Finset Topic} (h : Remembers provider s served) (text : Text) (receivedAtMs : Nat) :
    Remembers provider ((configuredAdapter provider).parse s text receivedAtMs).2 served := by
  cases provider with
  | bingx =>
    exact (congrArg (Finset.image _) (BingxSession.parse_activeTopics s text receivedAtMs)).trans h
  | _ => trivial

end Adapters

end MarketStreamGateway
