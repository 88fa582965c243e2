import MarketStreamGateway.Feeds.Session
import MarketStreamGateway.Providers.Venue

/-!
# Market Stream Gateway — the commands of a diff

A session turns the keys of a diff into commands: it expands them into native
topics, drops the repetitions, and cuts what is left into commands of bounded
size. `expansion` says what a diff asks for, `SizedCommand` what a command may
be. Over its life a session numbers its commands, and KuCoin its pings too.
Main results:

* `subscriptionMessages_expansion` — the commands of a diff name the topics of
  its expansion, in order and once each.
* `sessionIds_eq` — the ids a session hands out are the names of consecutive
  numbers, starting over after 2⁶⁴ − 1.
* `commands_cover_expansion` — both, for the six adapters.
-/

namespace MarketStreamGateway

open Lib

/-! ## What a command holds -/

/-- The topics a command names. -/
def Venue.commandTopics (provider : Provider) (command : OutboundCommand) : List Topic :=
  ((read provider command.document).map Prod.snd).getD []

/-- The sizes a command may have. KuCoin names one topic, or candle symbols
under one topic. -/
def WithinBound : Provider → List Topic → Prop
  | .bybit, topics => topics.length ≤ bybitMaxTopicsPerCommand ∧
      (topics.map fun topic => (topic.map Text.byteLen).sum).sum ≤ bybitMaxTopicCharsPerCommand
  | .binance, topics => topics.length ≤ binanceMaxStreamsPerCommand
  | .okx, topics => topics.length ≤ okxCommandArgsLimit
  | .kucoin, topics => topics.length ≤ 1 ∨ topics.length ≤ kucoinTopicsPerCommand ∧
      ∀ topic ∈ topics, topic.head? = some "/contractMarket/limitCandle".toList
  | .mexc, topics | .bingx, topics => topics.length ≤ 1

/-- The answers a venue gives to a command. -/
def answersTo : Provider → SubscriptionAction → List Topic → Nat
  | .okx, _, topics => topics.length
  | .mexc, .unsubscribe, _ => 0
  | _, _, _ => 1

/-- A command the venue can read, of a size it takes. -/
structure SizedCommand (provider : Provider) (action : SubscriptionAction)
    (command : OutboundCommand) : Prop where
  read : Venue.read provider command.document =
    some (action, Venue.commandTopics provider command)
  nonempty : Venue.commandTopics provider command ≠ []
  bound : WithinBound provider (Venue.commandTopics provider command)
  acknowledgements : command.expectedAcknowledgements =
    answersTo provider action (Venue.commandTopics provider command)

/-- The topics that change what a BingX session has asked for. -/
def BingxSession.changesTopic (s : BingxSession) : SubscriptionAction → Topic → Bool
  | .subscribe, topic => topic ∉ s.activeTopics.image ([·])
  | .unsubscribe, topic => topic ∈ s.activeTopics.image ([·])

section Expansion

variable [Unicode] [JsonText] [MarketData]

/-- The topics a diff asks for, each once. BingX leaves out what changes nothing
and KuCoin groups the candles after the tickers. -/
def expansion : (provider : Provider) → (configuredAdapter provider).Session →
    SubscriptionAction → List SubscriptionKey → List Topic
  | .kucoin, _, _, keys => pushAll [] ((keys.filter (·.channel = .ticker) ++
      keys.filter (·.channel = .candle1m)).flatMap (nativeTopics .kucoin))
  | .bingx, s, action, keys => (pushAll [] (keys.flatMap (nativeTopics .bingx))).filter
      (BingxSession.changesTopic s action)
  | .bybit, _, _, keys => pushAll [] (keys.flatMap (nativeTopics .bybit))
  | .binance, _, _, keys => pushAll [] (keys.flatMap (nativeTopics .binance))
  | .okx, _, _, keys => pushAll [] (keys.flatMap (nativeTopics .okx))
  | .mexc, _, _, keys => pushAll [] (keys.flatMap (nativeTopics .mexc))

/-- No topic is asked for twice. -/
theorem expansion_nodup (provider : Provider) (s : (configuredAdapter provider).Session)
    (action : SubscriptionAction) (keys : List SubscriptionKey) :
    (expansion provider s action keys).Nodup := by
  have hNil : ([] : List Topic).Nodup := List.nodup_nil
  cases provider with
  | bingx => exact (pushAll_nodup hNil _).filter _
  | _ => exact pushAll_nodup hNil _

end Expansion

/-! ## Sizes -/

/-- A session that issues one command for every item, from items that make up
the topics. -/
theorem issue_sized {σ β : Type} {provider : Provider} {action : SubscriptionAction}
    {request : σ → β → OutboundCommand × σ} {topics : β → List Topic} (items : List β)
    (hRead : ∀ s b, b ∈ items →
      Venue.read provider (request s b).1.document = some (action, topics b))
    (hExpected : ∀ s b, (request s b).1.expectedAcknowledgements =
      answersTo provider action (topics b))
    (hSized : ∀ b ∈ items, topics b ≠ [] ∧ WithinBound provider (topics b)) (s : σ) :
    (issue request s items).1.flatMap (Venue.commandTopics provider) = items.flatMap topics ∧
      ∀ command ∈ (issue request s items).1, SizedCommand provider action command := by
  have hTopics : ∀ s b, b ∈ items →
      Venue.commandTopics provider (request s b).1 = topics b := by
    intro s b hb
    rw [Venue.commandTopics, hRead s b hb]
    rfl
  refine ⟨flatMap_issue hTopics s, fun command hCommand => ?_⟩
  -- every command was made of one of the items, in some state of the session
  obtain ⟨b, hb, t, rfl⟩ := mem_issue hCommand
  obtain ⟨hSome, hBound⟩ := hSized b hb
  constructor
  · rw [hTopics t b hb, hRead t b hb]
  · rwa [hTopics t b hb]
  · rwa [hTopics t b hb]
  · rw [hTopics t b hb, hExpected]

namespace BybitSession

/-- A batch of the batching loop. -/
def Fits (batch : List Text) : Prop :=
  batch.length ≤ bybitMaxTopicsPerCommand ∧
    (batch.map Text.byteLen).sum ≤ bybitMaxTopicCharsPerCommand

/-- A topic of its own always fits. -/
theorem fits_singleton {topic : Text}
    (hTopic : Text.byteLen topic ≤ bybitMaxTopicCharsPerCommand) : Fits [topic] := by
  refine ⟨?_, by simpa using hTopic⟩
  rw [List.length_singleton]
  decide

/-- What the batching loop keeps. -/
structure Batches.Valid (b : Batches) : Prop where
  done : ∀ batch ∈ b.done, batch ≠ [] ∧ Fits batch
  batch : Fits b.batch
  chars : b.batchChars = (b.batch.map Text.byteLen).sum

/-- Another topic goes into the open batch when it fits, and else opens a new one. -/
theorem Batches.Valid.push {b : Batches} (h : b.Valid) {topic : Text}
    (hTopic : Text.byteLen topic ≤ bybitMaxTopicCharsPerCommand) : (b.push topic).Valid := by
  obtain ⟨hDone, ⟨hLength, hSum⟩, hChars⟩ := h
  unfold Batches.push
  dsimp only
  split
  · next hFull =>
    rw [Bool.and_eq_true, Bool.not_eq_true', List.isEmpty_eq_false_iff] at hFull
    refine ⟨fun batch hBatch => ?_, fits_singleton hTopic, by simp⟩
    -- the batch that was open is closed, and it was not empty
    rcases List.mem_append.mp hBatch with hOld | hNew
    · exact hDone batch hOld
    · obtain rfl := List.mem_singleton.mp hNew
      exact ⟨hFull.1, hLength, hSum⟩
  · next hOpen =>
    refine ⟨hDone, ?_, by simp [hChars]⟩
    -- a single topic always fits, however long the batch would be
    by_cases hEmpty : b.batch = []
    · rw [hEmpty]
      exact fits_singleton hTopic
    · have hNotFull : b.batch.length ≠ bybitMaxTopicsPerCommand ∧
          b.batchChars + Text.byteLen topic ≤ bybitMaxTopicCharsPerCommand := by
        simpa [hEmpty] using hOpen
      rw [hChars] at hNotFull
      refine ⟨?_, by simpa using hNotFull.2⟩
      rw [List.length_append, List.length_singleton]
      omega

/-- Every batch has a topic and is within the limits. -/
theorem batches_fit {topics : List Text}
    (hTopics : ∀ topic ∈ topics, Text.byteLen topic ≤ bybitMaxTopicCharsPerCommand)
    {batch : List Text} (hBatch : batch ∈ batches topics) : batch ≠ [] ∧ Fits batch := by
  -- the invariant holds after every topic
  have hRun : ∀ b : Batches, b.Valid → (topics.foldl Batches.push b).Valid := by
    clear hBatch
    induction topics with
    | nil => exact fun b hb => hb
    | cons topic topics ih =>
      intro b hb
      exact ih (fun t ht => hTopics t (List.mem_cons_of_mem _ ht)) _
        (hb.push (hTopics topic List.mem_cons_self))
  have hValid := hRun ⟨[], [], 0⟩ ⟨by simp, ⟨by decide, by decide⟩, rfl⟩
  unfold batches at hBatch
  dsimp only at hBatch
  split at hBatch
  · exact hValid.done batch hBatch
  · -- the last batch is closed only if it has topics
    next hOpen =>
    rcases List.mem_append.mp hBatch with hOld | hNew
    · exact hValid.done batch hOld
    · obtain rfl := List.mem_singleton.mp hNew
      exact ⟨by simpa using hOpen, hValid.batch⟩

/-- The name of a canonical key is short. -/
theorem byteLen_topic_le [Unicode] {key : SubscriptionKey} (h : key.Canonical) :
    Text.byteLen (topic key) ≤ bybitMaxTopicCharsPerCommand := by
  have hSymbol := h.byteLen_le
  have hFront : Text.byteLen "tickers.".toList = 8 ∧ Text.byteLen "kline.1.".toList = 8 := by
    decide
  unfold topic bybitMaxTopicCharsPerCommand
  split <;> rw [Text.byteLen_append] <;> omega

end BybitSession

section Diffs

variable {action : SubscriptionAction} {keys : List SubscriptionKey}
  {messages : List OutboundCommand}

/-- Topics that are one text each. -/
theorem map_singleton_pushAll (texts : List Text) :
    (pushAll [] texts).map (fun text => [text]) = pushAll [] (texts.map fun text => [text]) :=
  map_pushAll fun _ _ _ _ hEq => List.head_eq_of_cons_eq hEq

/-- The commands of a diff carry its topics in order, without repetition and
within the bounds. -/
theorem bybit_expansion [Unicode] {s s' : BybitSession} (hCanonical : ∀ key ∈ keys, key.Canonical)
    (h : s.subscriptionMessages action keys = (.ok messages, s')) :
    messages.flatMap (Venue.commandTopics .bybit) =
      pushAll [] (keys.flatMap (nativeTopics .bybit)) ∧
    ∀ command ∈ messages, SizedCommand .bybit action command := by
  obtain ⟨rfl, -⟩ := Prod.mk.inj (BybitSession.subscriptionMessages_ok h)
  -- a topic alone stays below the bound on characters
  have hShort : ∀ topic ∈ pushAll [] (keys.flatMap fun key => [BybitSession.topic key]),
      Text.byteLen topic ≤ bybitMaxTopicCharsPerCommand := by
    intro topic hTopic
    rw [mem_pushAll, List.mem_flatMap] at hTopic
    obtain ⟨key, hKey, hTopic⟩ := hTopic.resolve_left List.not_mem_nil
    obtain rfl := List.mem_singleton.mp hTopic
    exact BybitSession.byteLen_topic_le (hCanonical key hKey)
  have hSized : ∀ batch ∈ BybitSession.batches (pushAll [] (keys.flatMap fun key =>
      [BybitSession.topic key])), batch.map (fun text => [text]) ≠ [] ∧
        WithinBound .bybit (batch.map fun text => [text]) := by
    intro batch hBatch
    obtain ⟨hSome, hLength, hSum⟩ := BybitSession.batches_fit hShort hBatch
    refine ⟨fun hNil => hSome (List.map_eq_nil_iff.mp hNil), by rwa [List.length_map], ?_⟩
    simpa [Function.comp_def] using hSum
  obtain ⟨hTopics, hAll⟩ := issue_sized _ (fun s batch _ => Venue.bybit_read action s batch)
    (fun _ _ => rfl) hSized { s with tickers := forgetTickers action keys s.tickers }
  refine ⟨?_, hAll⟩
  -- the batches in order are the topics, whatever their cut
  rw [hTopics, ← List.map_flatMap, List.flatMap_id', BybitSession.batches_flatten,
    map_singleton_pushAll, List.map_flatMap]
  rfl

/-- The same of Binance. -/
theorem binance_expansion {s s' : BinanceSession}
    (h : s.subscriptionMessages action keys = (.ok messages, s')) :
    messages.flatMap (Venue.commandTopics .binance) =
      pushAll [] (keys.flatMap (nativeTopics .binance)) ∧
    ∀ command ∈ messages, SizedCommand .binance action command := by
  obtain ⟨rfl, -⟩ := Prod.mk.inj (BinanceSession.subscriptionMessages_ok h)
  -- a chunk is not empty and within the bound on streams
  have hSized : ∀ batch ∈ chunks binanceMaxStreamsPerCommand
      (pushAll [] (keys.flatMap BinanceSession.channelStreams)),
      batch.map (fun text => [text]) ≠ [] ∧
        WithinBound .binance (batch.map fun text => [text]) := by
    intro batch hBatch
    refine ⟨fun hNil => (mem_chunks (by decide) hBatch).1 (List.map_eq_nil_iff.mp hNil), ?_⟩
    exact (List.length_map _).trans_le (length_of_mem_chunks hBatch)
  obtain ⟨hTopics, hAll⟩ := issue_sized _ (fun s batch _ => Venue.binance_read action s batch)
    (fun _ _ => rfl) hSized { s with tickers := forgetTickers action keys s.tickers }
  refine ⟨?_, hAll⟩
  rw [hTopics, ← List.map_flatMap, List.flatMap_id', chunks_flatten (by decide),
    map_singleton_pushAll, List.map_flatMap]
  rfl

/-- The same of OKX. -/
theorem okx_expansion {s s' : OkxSession}
    (h : s.subscriptionMessages action keys = (.ok messages, s')) :
    messages.flatMap (Venue.commandTopics .okx) =
      pushAll [] (keys.flatMap (nativeTopics .okx)) ∧
    ∀ command ∈ messages, SizedCommand .okx action command := by
  obtain ⟨args, hArgs, hIssue⟩ := OkxSession.subscriptionMessages_ok h
  obtain ⟨rfl, -⟩ := Prod.mk.inj hIssue
  -- a chunk is not empty and within the bound on arguments
  have hSized : ∀ chunk ∈ chunks okxCommandArgsLimit args,
      chunk.map OkxSubscriptionArg.topic ≠ [] ∧
        WithinBound .okx (chunk.map OkxSubscriptionArg.topic) := by
    intro chunk hChunk
    refine ⟨fun hNil => (mem_chunks (by decide) hChunk).1 (List.map_eq_nil_iff.mp hNil), ?_⟩
    exact (List.length_map _).trans_le (length_of_mem_chunks hChunk)
  obtain ⟨hTopics, hAll⟩ := issue_sized _ (fun s chunk _ => Venue.okx_read action s chunk)
    (fun _ _ => (List.length_map OkxSubscriptionArg.topic).symm) hSized
    { s with tickers := forgetTickers action keys s.tickers }
  refine ⟨?_, hAll⟩
  rw [hTopics, ← List.map_flatMap, List.flatMap_id', chunks_flatten (by decide)]
  exact OkxSession.subscriptionArgs_topics hArgs

/-- A KuCoin topic names one ticker or up to a hundred candles. -/
theorem KucoinSession.buildTopics_sized [Unicode] {symbols : Symbols}
    (hCanonical : ∀ key ∈ keys, key.Canonical)
    (h : collectSymbols ⟨[], []⟩ keys = .ok symbols) {topic : Text}
    (hTopic : topic ∈ buildTopics symbols) :
    Venue.kucoinTopics topic ≠ [] ∧ WithinBound .kucoin (Venue.kucoinTopics topic) := by
  obtain ⟨hTicker, hCandle⟩ := collectSymbols_eq h
  -- symbols are joined by commas, which no canonical symbol has
  have hComma : ∀ channel, ∀ symbol ∈ pushAll [] (symbolsOf channel keys), ',' ∉ symbol := by
    intro channel symbol hSymbol
    rw [mem_pushAll] at hSymbol
    obtain ⟨key, hKey, -, rfl⟩ := mem_symbolsOf.mp (hSymbol.resolve_left List.not_mem_nil)
    exact (hCanonical key hKey).no_comma
  rcases List.mem_append.mp hTopic with hTopic | hTopic
  · -- a ticker topic names one symbol
    obtain ⟨symbol, hSymbol, hTopic⟩ := List.mem_flatMap.mp hTopic
    rw [hTicker] at hSymbol
    rw [tickerTopics_eq] at hTopic
    obtain ⟨channel, hChannel, rfl⟩ := List.mem_map.mp hTopic
    rw [tickerTopic_read (hComma _ symbol hSymbol) hChannel]
    exact ⟨List.cons_ne_nil _ _, Or.inl le_rfl⟩
  · -- a candle topic names a chunk of symbols
    obtain ⟨run, hRun, rfl⟩ := List.mem_map.mp hTopic
    obtain ⟨hSome, hSubset⟩ := mem_chunks (by decide) hRun
    have hRead := candleTopic_read hSome fun symbol hSymbol =>
      hComma _ symbol (hCandle ▸ hSubset hSymbol)
    rw [hRead]
    refine ⟨fun hNil => hSome (List.map_eq_nil_iff.mp hNil), Or.inr ⟨?_, ?_⟩⟩
    · exact (List.length_map _).trans_le (length_of_mem_chunks hRun)
    · intro t ht
      obtain ⟨symbol, -, rfl⟩ := List.mem_map.mp ht
      rfl

/-- KuCoin carries the ticker topics before the candle topics. -/
theorem kucoin_expansion [Unicode] {s s' : KucoinSession}
    (hCanonical : ∀ key ∈ keys, key.Canonical)
    (h : s.subscriptionMessages action keys = (.ok messages, s')) :
    messages.flatMap (Venue.commandTopics .kucoin) =
      pushAll [] ((keys.filter (·.channel = .ticker) ++
        keys.filter (·.channel = .candle1m)).flatMap (nativeTopics .kucoin)) ∧
    ∀ command ∈ messages, SizedCommand .kucoin action command := by
  obtain ⟨symbols, hSymbols, hIssue⟩ := KucoinSession.subscriptionMessages_ok h
  obtain ⟨rfl, -⟩ := Prod.mk.inj hIssue
  rw [← KucoinSession.buildTopics_read hCanonical hSymbols]
  exact issue_sized _ (fun s topic _ => Venue.kucoin_read action s topic) (fun _ _ => rfl)
    (fun topic => KucoinSession.buildTopics_sized hCanonical hSymbols) _

/-- A native subscription is told by its method and its symbol. -/
theorem MexcSession.natives_unique {key key' : SubscriptionKey}
    {native native' : NativeSubscription}
    (h : native ∈ natives key) (h' : native' ∈ natives key')
    (hEq : [native.method, native.symbol] = [native'.method, native'.symbol]) :
    native = native' := by
  rcases key with ⟨p, m, symbol, _ | _⟩ <;> rcases key' with ⟨p', m', symbol', _ | _⟩ <;>
    simp [natives] at h h' <;>
    rcases h with rfl | rfl <;> rcases h' with rfl | rfl <;> simp_all

/-- MEXC has one topic in each command. -/
theorem mexc_expansion {s s' : MexcSession}
    (h : s.subscriptionMessages action keys = (.ok messages, s')) :
    messages.flatMap (Venue.commandTopics .mexc) =
      pushAll [] (keys.flatMap (nativeTopics .mexc)) ∧
    ∀ command ∈ messages, SizedCommand .mexc action command := by
  obtain ⟨collected, tickers, hCollect, hIssue⟩ := MexcSession.subscriptionMessages_ok h
  obtain ⟨rfl, -⟩ := Prod.mk.inj hIssue
  obtain ⟨hTopics, hAll⟩ := issue_sized collected
    (fun s native _ => Venue.mexc_read action s native)
    (fun _ _ => by cases action <;> rfl) (fun native _ => ⟨List.cons_ne_nil _ _, le_rfl⟩)
    { s with tickers }
  refine ⟨?_, hAll⟩
  rw [hTopics, ← List.map_eq_flatMap, MexcSession.collect_eq hCollect, map_pushAll,
    List.map_flatMap]
  · rfl
  · -- two natives of one topic are the same
    intro native hNative native' hNative' hEq
    obtain ⟨key, -, hKey⟩ := List.mem_flatMap.mp hNative
    obtain ⟨key', -, hKey'⟩ := List.mem_flatMap.mp hNative'
    exact MexcSession.natives_unique hKey hKey' hEq

/-- BingX leaves out the topics that change nothing. -/
theorem bingx_expansion [Unicode] {s s' : BingxSession}
    (h : s.subscriptionMessages action keys = (.ok messages, s')) :
    messages.flatMap (Venue.commandTopics .bingx) =
      (pushAll [] (keys.flatMap (nativeTopics .bingx))).filter (s.changesTopic action) ∧
    ∀ command ∈ messages, SizedCommand .bingx action command := by
  obtain ⟨requested, tickers, topics, activeTopics, hCollect, hChange, hIssue⟩ :=
    BingxSession.subscriptionMessages_ok h
  obtain ⟨rfl, -⟩ := Prod.mk.inj hIssue
  obtain ⟨hTopics, hAll⟩ := issue_sized topics
    (fun s topic _ => Venue.bingx_read action s topic) (fun _ _ => rfl)
    (fun topic _ => ⟨List.cons_ne_nil _ _, le_rfl⟩) { s with tickers, activeTopics }
  refine ⟨?_, hAll⟩
  have hRequested : requested.map (fun text => [text]) =
      pushAll [] (keys.flatMap (nativeTopics .bingx)) := by
    rw [BingxSession.collect_eq hCollect, map_singleton_pushAll, List.map_flatMap]
    rfl
  rw [hTopics, ← List.map_eq_flatMap, ← hRequested, List.filter_map]
  -- a topic is sent only if it becomes active or stops being active
  cases action with
  | subscribe =>
    simp only [BingxSession.changeTopics] at hChange
    split at hChange
    · simp at hChange
    · obtain ⟨rfl, -⟩ := Prod.mk.inj (Except.ok.inj hChange)
      simp [Function.comp_def, BingxSession.changesTopic]
  | unsubscribe =>
    obtain ⟨rfl, -⟩ := Prod.mk.inj (Except.ok.inj hChange)
    simp [Function.comp_def, BingxSession.changesTopic]

/-- **Batching.** The commands of a diff name the topics of its expansion, in
order, and every one of them is sized. -/
theorem subscriptionMessages_expansion [Unicode] [JsonText] [MarketData] {provider : Provider}
    {s s' : (configuredAdapter provider).Session} (hCanonical : ∀ key ∈ keys, key.Canonical)
    (h : (configuredAdapter provider).subscriptionMessages s action keys = (.ok messages, s')) :
    messages.flatMap (Venue.commandTopics provider) = expansion provider s action keys ∧
    ∀ command ∈ messages, SizedCommand provider action command := by
  cases provider with
  | bybit => exact bybit_expansion hCanonical h
  | binance => exact binance_expansion h
  | okx => exact okx_expansion h
  | kucoin => exact kucoin_expansion hCanonical h
  | mexc => exact mexc_expansion h
  | bingx => exact bingx_expansion h

end Diffs

/-! ## Request ids -/

/-- The id a heartbeat carries in its text. -/
def Heartbeat.requestIds : Heartbeat → List Text
  | .text shown => match Text.stripPrefix "\x7b\"id\":\"".toList shown with
    | some rest => [rest.takeWhile (· ≠ '"')]
    | none => []
  | .webSocketPing _ => []

/-- The `k`-th number a session takes: they start over after the last 64-bit
one. -/
def requestNumber (k : Nat) : Nat := k % u64Max + 1

/-- What stands before the number in an id. -/
def requestWord : Provider → Text
  | .bybit | .bingx => "gateway-".toList
  | .mexc => "mexc-".toList
  | .binance | .okx | .kucoin => []

/-- The id of a number. -/
def requestName (provider : Provider) (n : Nat) : Text := requestWord provider ++ Text.ofNat n

/-- No id is empty. -/
theorem requestName_ne_nil (provider : Provider) (n : Nat) : requestName provider n ≠ [] :=
  fun hNil => Text.ofNat_ne_nil n (List.append_eq_nil_iff.mp hNil).2

/-- Different numbers name different ids. -/
theorem requestName_injective (provider : Provider) : Function.Injective (requestName provider) :=
  fun _ _ h => Text.ofNat_injective (List.append_cancel_left h)

/-- The counter never exceeds `u64`. -/
theorem requestNumber_le (k : Nat) : requestNumber k ≤ u64Max :=
  Nat.mod_lt k (by decide)

/-- Both counters go through the numbers in turn. -/
theorem checkedNext_requestNumber (k : Nat) :
    checkedNext (requestNumber k) = requestNumber (k + 1) := by
  have hLt : k % u64Max < u64Max := Nat.mod_lt k (by decide)
  have hNext : (k + 1) % u64Max = (k % u64Max + 1) % u64Max := (Nat.mod_add_mod k u64Max 1).symm
  unfold checkedNext requestNumber
  rw [hNext]
  split
  · rw [Nat.mod_eq_of_lt (a := k % u64Max + 1) (by omega)]
  · rw [show k % u64Max + 1 = u64Max by omega, Nat.mod_self]

/-- Below the end of `u64` the two ways of counting agree. -/
theorem wrappingNext_eq_checkedNext {n : Nat} (h : n ≤ u64Max) :
    wrappingNext n = checkedNext n := by
  unfold wrappingNext checkedNext
  rw [u64Max] at h ⊢
  split
  · rw [Nat.mod_eq_of_lt (by omega)]
    omega
  · rw [show n + 1 = 2 ^ 64 by omega, Nat.mod_self]
    rfl

/-- After the last number comes the first. -/
theorem wrappingNext_requestNumber (k : Nat) :
    wrappingNext (requestNumber k) = requestNumber (k + 1) := by
  rw [wrappingNext_eq_checkedNext (requestNumber_le k), checkedNext_requestNumber]

/-- The ids of the first 2⁶⁴ − 1 numbers are distinct. -/
theorem requestNames_nodup (provider : Provider) (n : Nat) :
    (((List.range n).map (requestName provider ∘ requestNumber)).take u64Max).Nodup := by
  rw [← List.map_take, List.take_range]
  refine List.Nodup.map_on ?_ List.nodup_range
  intro i hi j hj hEq
  have hNumbers := requestName_injective provider hEq
  rw [List.mem_range] at hi hj
  unfold requestNumber at hNumbers
  rw [Nat.mod_eq_of_lt (by omega), Nat.mod_eq_of_lt (by omega)] at hNumbers
  omega

/-- Names taken one after the other, in two goes. -/
theorem names_append (name : Nat → Text) (k n : Nat) :
    (List.range k).map name ++ (List.range' k n).map name = (List.range (k + n)).map name := by
  have hRange := List.range'_append_1 (s := 0) (m := k) (n := n)
  rw [Nat.zero_add] at hRange
  rw [← List.map_append, List.range_eq_range', List.range_eq_range', hRange]

section Sessions

variable [Unicode] [JsonText] [MarketData]

/-- The number a session takes next. -/
def sessionCounter : (provider : Provider) → (configuredAdapter provider).Session → Nat
  | .bybit, s => BybitSession.nextRequestId s
  | .binance, s => BinanceSession.nextRequestId s
  | .okx, s => OkxSession.nextCommandId s
  | .kucoin, s => KucoinSession.nextRequestId s
  | .mexc, s => MexcSession.nextRequestId s
  | .bingx, s => BingxSession.nextRequestId s

/-- Frames take no number. -/
theorem parse_counter (provider : Provider) (s : (configuredAdapter provider).Session) (text : Text)
    (receivedAtMs : Nat) :
    sessionCounter provider ((configuredAdapter provider).parse s text receivedAtMs).2 =
      sessionCounter provider s := by
  cases provider with
  | bybit =>
    change (BybitSession.parse s text receivedAtMs).2.nextRequestId = _
    unfold BybitSession.parse
    split
    · rfl
    · split
      · rfl
      · split <;> rfl
  | binance =>
    change (BinanceSession.parse s text receivedAtMs).2.nextRequestId = _
    unfold BinanceSession.parse
    split
    · rfl
    · split
      · rfl
      · split <;> rfl
  | okx =>
    change (OkxSession.parse s text receivedAtMs).2.nextCommandId = _
    unfold OkxSession.parse
    split
    · rfl
    · split
      · rfl
      · split
        · rfl
        · split <;> rfl
  | kucoin =>
    change (KucoinSession.parse s text receivedAtMs).2.nextRequestId = _
    unfold KucoinSession.parse
    split
    · rfl
    · split
      · rfl
      · split <;> rfl
  | mexc =>
    change (MexcSession.parse s text receivedAtMs).2.nextRequestId = _
    -- an acknowledgement of MEXC takes an entry off the session, not a number
    unfold MexcSession.parse MexcSession.parseAcknowledgement
    repeat' split
    all_goals rfl
  | bingx =>
    change (BingxSession.parse s text receivedAtMs).2.nextRequestId = _
    unfold BingxSession.parse
    split
    · rfl
    · split
      · rfl
      · split
        · rfl
        · split
          · rfl
          · split <;> rfl

/-- A diff that is refused takes no number. -/
theorem subscriptionMessages_counter {provider : Provider}
    {s s' : (configuredAdapter provider).Session} {action : SubscriptionAction}
    {keys : List SubscriptionKey} {error : AdapterError}
    (h : (configuredAdapter provider).subscriptionMessages s action keys = (.error error, s')) :
    sessionCounter provider s' = sessionCounter provider s := by
  -- numbers are drawn while the commands are printed, after everything that can fail
  cases provider with
  | bybit =>
    change BybitSession.subscriptionMessages s action keys = _ at h
    unfold BybitSession.subscriptionMessages at h
    repeat' split at h
    all_goals
      obtain ⟨hResult, rfl⟩ := Prod.mk.inj h
      first
      | rfl
      | cases hResult
  | binance =>
    change BinanceSession.subscriptionMessages s action keys = _ at h
    unfold BinanceSession.subscriptionMessages at h
    repeat' split at h
    all_goals
      obtain ⟨hResult, rfl⟩ := Prod.mk.inj h
      first
      | rfl
      | cases hResult
  | okx =>
    change OkxSession.subscriptionMessages s action keys = _ at h
    unfold OkxSession.subscriptionMessages at h
    repeat' split at h
    all_goals
      obtain ⟨hResult, rfl⟩ := Prod.mk.inj h
      first
      | rfl
      | cases hResult
  | kucoin =>
    change KucoinSession.subscriptionMessages s action keys = _ at h
    unfold KucoinSession.subscriptionMessages at h
    repeat' split at h
    all_goals
      obtain ⟨hResult, rfl⟩ := Prod.mk.inj h
      first
      | rfl
      | cases hResult
  | mexc =>
    change MexcSession.subscriptionMessages s action keys = _ at h
    unfold MexcSession.subscriptionMessages at h
    repeat' split at h
    all_goals
      obtain ⟨hResult, rfl⟩ := Prod.mk.inj h
      first
      | rfl
      | cases hResult
  | bingx =>
    change BingxSession.subscriptionMessages s action keys = _ at h
    unfold BingxSession.subscriptionMessages at h
    repeat' split at h
    all_goals
      obtain ⟨hResult, rfl⟩ := Prod.mk.inj h
      first
      | rfl
      | cases hResult

omit [Unicode] [JsonText] [MarketData] in
/-- A session that takes a number for every command it issues. -/
theorem issue_names {σ β : Type} (provider : Provider) (counter : σ → Nat)
    (request : σ → β → OutboundCommand × σ)
    (hId : ∀ s b, (request s b).1.requestId = requestName provider (counter s))
    (hNext : ∀ k s b, counter s = requestNumber k →
      counter (request s b).2 = requestNumber (k + 1))
    {k : Nat} {s : σ} (hs : counter s = requestNumber k) (items : List β) :
    ∃ n, (issue request s items).1.map (·.requestId) =
        (List.range' k n).map (requestName provider ∘ requestNumber) ∧
      counter (issue request s items).2 = requestNumber (k + n) := by
  refine ⟨items.length, issue_numbered (C := fun k s => counter s = requestNumber k) ?_ hs _⟩
  intro k s b hk
  exact ⟨(hId s b).trans (congrArg _ hk), hNext k s b hk⟩

/-- The commands of a diff take consecutive numbers. -/
theorem subscriptionMessages_names {provider : Provider}
    {s s' : (configuredAdapter provider).Session} {action : SubscriptionAction}
    {keys : List SubscriptionKey} {messages : List OutboundCommand} {k : Nat}
    (hCounter : sessionCounter provider s = requestNumber k)
    (h : (configuredAdapter provider).subscriptionMessages s action keys = (.ok messages, s')) :
    ∃ n, messages.map (·.requestId) =
        (List.range' k n).map (requestName provider ∘ requestNumber) ∧
      sessionCounter provider s' = requestNumber (k + n) := by
  -- counters that saturate and counters that wrap agree below the limit
  have hChecked : ∀ {k n : Nat}, n = requestNumber k → checkedNext n = requestNumber (k + 1) :=
    fun hn => hn ▸ checkedNext_requestNumber _
  have hWrapping : ∀ {k n : Nat}, n = requestNumber k → wrappingNext n = requestNumber (k + 1) :=
    fun hn => hn ▸ wrappingNext_requestNumber _
  cases provider with
  | bybit =>
    obtain ⟨rfl, rfl⟩ := Prod.mk.inj (BybitSession.subscriptionMessages_ok h)
    refine issue_names .bybit BybitSession.nextRequestId (BybitSession.command action)
      (fun _ _ => rfl) (fun _ _ _ => hChecked) ?_ _
    exact hCounter
  | binance =>
    obtain ⟨rfl, rfl⟩ := Prod.mk.inj (BinanceSession.subscriptionMessages_ok h)
    refine issue_names .binance BinanceSession.nextRequestId (BinanceSession.command action)
      (fun _ _ => rfl) (fun _ _ _ => hChecked) ?_ _
    exact hCounter
  | okx =>
    obtain ⟨_, _, hIssue⟩ := OkxSession.subscriptionMessages_ok h
    obtain ⟨rfl, rfl⟩ := Prod.mk.inj hIssue
    refine issue_names .okx OkxSession.nextCommandId (OkxSession.command action)
      (fun _ _ => rfl) (fun _ _ _ => hWrapping) ?_ _
    exact hCounter
  | kucoin =>
    obtain ⟨_, _, hIssue⟩ := KucoinSession.subscriptionMessages_ok h
    obtain ⟨rfl, rfl⟩ := Prod.mk.inj hIssue
    refine issue_names .kucoin KucoinSession.nextRequestId (KucoinSession.command action)
      (fun _ _ => rfl) (fun _ _ _ => hWrapping) ?_ _
    exact hCounter
  | mexc =>
    obtain ⟨_, _, _, hIssue⟩ := MexcSession.subscriptionMessages_ok h
    obtain ⟨rfl, rfl⟩ := Prod.mk.inj hIssue
    refine issue_names .mexc MexcSession.nextRequestId (MexcSession.command action)
      (fun _ _ => rfl) (fun _ _ _ => hWrapping) ?_ _
    exact hCounter
  | bingx =>
    obtain ⟨_, _, _, _, _, _, hIssue⟩ := BingxSession.subscriptionMessages_ok h
    obtain ⟨rfl, rfl⟩ := Prod.mk.inj hIssue
    refine issue_names .bingx BingxSession.nextRequestId (BingxSession.command action)
      (fun _ _ => rfl) (fun _ _ _ => hChecked) ?_ _
    exact hCounter

omit [Unicode] [JsonText] [MarketData] in
/-- A KuCoin ping carries the number it takes. -/
theorem kucoin_heartbeat_ids (s : KucoinSession) :
    (KucoinSession.heartbeat s).1.requestIds = [Text.ofNat s.nextRequestId] := by
  have hDigit : ∀ c ∈ Text.ofNat s.nextRequestId, c.isDigit = true :=
    fun _ hc => Text.isDigit_of_mem_ofNat hc
  -- the ping as it is printed, its number in the middle
  have hShown : (KucoinSession.heartbeat s).1 = .text ("\x7b\"id\":\"".toList ++
      (Text.ofNat s.nextRequestId ++ '"' :: ",\"type\":\"ping\"\x7d".toList)) := by
    have hFront : "\x7b\"id\":\"".toList =
        '\x7b' :: Value.quote "id".toList ++ [':', '"'] := by decide
    have hBack : ",\"type\":\"ping\"\x7d".toList = ',' :: Value.quote "type".toList ++
        ':' :: Value.quote "ping".toList ++ ['\x7d'] := by decide
    rw [hFront, hBack, ← Value.escape_digits hDigit]
    simp [KucoinSession.heartbeat, Value.display, Value.displayMembers, Value.quote]
  rw [hShown, Heartbeat.requestIds, Text.stripPrefix_append]
  dsimp only
  -- the number ends at the first quote after it
  have hQuote : ∀ c ∈ Text.ofNat s.nextRequestId, decide (c ≠ '"') = true := by
    intro c hc
    rw [decide_eq_true_eq]
    rintro rfl
    exact absurd (hDigit _ hc) (by decide)
  rw [List.takeWhile_append_of_pos hQuote, List.takeWhile_cons_of_neg (by decide), List.append_nil]

/-- The other heartbeats carry none. -/
theorem heartbeat_ids {provider : Provider} (h : provider ≠ .kucoin)
    (s : (configuredAdapter provider).Session) :
    ((configuredAdapter provider).heartbeat s).1.requestIds = [] := by
  have hPing : ∀ word ∈ ["op".toList, "method".toList], (Heartbeat.text (Value.object
      [(word, .string "ping".toList)]).display).requestIds = [] := by decide
  cases provider with
  | bybit => exact hPing _ List.mem_cons_self
  | mexc => exact hPing _ (List.mem_cons_of_mem _ List.mem_cons_self)
  | binance => rfl
  | okx => exact (by decide : (Heartbeat.text "ping".toList).requestIds = [])
  | bingx => exact (by decide : (Heartbeat.text "Pong".toList).requestIds = [])
  | kucoin => exact absurd rfl h

end Sessions

section Life

variable [Unicode] [JsonText] [RustDecimal] [Serde]

/-- The ids a session hands out in a call. -/
def SessionCall.requestIds (provider : Provider) (s : (configuredAdapter provider).Session) :
    SessionCall → List Text
  | parse _ _ => []
  | subscriptionMessages action subscriptions =>
    match ((configuredAdapter provider).subscriptionMessages s action subscriptions).1 with
    | .ok messages => messages.map OutboundCommand.requestId
    | .error _ => []
  | heartbeat => ((configuredAdapter provider).heartbeat s).1.requestIds

/-- The ids a session hands out over its life. -/
def sessionIds (provider : Provider) (endpoint : EndpointKind) (epoch : Uuid)
    (calls : List SessionCall) : List Text :=
  trace (SessionCall.step provider) (SessionCall.requestIds provider)
    ((configuredAdapter provider).session endpoint epoch) calls

/-- A call takes consecutive numbers. -/
theorem SessionCall.requestIds_names {provider : Provider}
    {s : (configuredAdapter provider).Session} {k : Nat}
    (hCounter : sessionCounter provider s = requestNumber k) (call : SessionCall) :
    ∃ n, call.requestIds provider s =
        (List.range' k n).map (requestName provider ∘ requestNumber) ∧
      sessionCounter provider (call.step provider s) = requestNumber (k + n) := by
  cases call with
  | parse text receivedAtMs => exact ⟨0, rfl, (parse_counter provider s _ _).trans hCounter⟩
  | subscriptionMessages action subscriptions =>
    rw [requestIds, step]
    rcases hResult : (configuredAdapter provider).subscriptionMessages s action subscriptions with
      ⟨error | messages, s'⟩
    · -- a refused call uses no number
      exact ⟨0, rfl, (subscriptionMessages_counter hResult).trans hCounter⟩
    · exact subscriptionMessages_names hCounter hResult
  | heartbeat =>
    cases provider with
    -- only KuCoin numbers its pings
    | kucoin =>
      refine ⟨1, ?_, ?_⟩
      · refine (kucoin_heartbeat_ids s).trans ?_
        exact congrArg (fun n => [Text.ofNat n]) hCounter
      · exact (congrArg wrappingNext hCounter).trans (wrappingNext_requestNumber k)
    | bybit | binance | okx | mexc | bingx =>
      exact ⟨0, heartbeat_ids (by decide) s, hCounter⟩

/-- **Request ids.** A session names consecutive numbers. -/
theorem sessionIds_eq (provider : Provider) (endpoint : EndpointKind) (epoch : Uuid)
    (calls : List SessionCall) :
    ∃ n, sessionIds provider endpoint epoch calls =
      (List.range n).map (requestName provider ∘ requestNumber) := by
  have hRun : ∃ n, [] ++ sessionIds provider endpoint epoch calls =
      (List.range n).map (requestName provider ∘ requestNumber) ∧
      sessionCounter provider (sessionAfter provider endpoint epoch calls) = requestNumber n := by
    refine run_trace_invariant (R := fun s ids => ∃ n, ids =
      (List.range n).map (requestName provider ∘ requestNumber) ∧
        sessionCounter provider s = requestNumber n) ?_ ?_ calls
    · rintro s call ids ⟨k, rfl, hCounter⟩
      obtain ⟨n, hIds, hNext⟩ := SessionCall.requestIds_names hCounter call
      exact ⟨k + n, by rw [hIds, names_append], hNext⟩
    · refine ⟨0, rfl, ?_⟩
      cases provider <;> rfl
  obtain ⟨n, hIds, -⟩ := hRun
  exact ⟨n, hIds⟩

/-- **Commands.** For every session and every list of canonical keys it accepts,
the commands name the topics of the expansion of the keys, in order, without a
gap or a repetition; each has a topic, keeps to the adapter's bound and expects
as many answers as the venue gives. Over the life of a session its request ids
are not empty, and the first 2⁶⁴ − 1 of them are distinct. -/
theorem commands_cover_expansion (provider : Provider) :
    (∀ (s s' : (configuredAdapter provider).Session) (action : SubscriptionAction)
      (keys : List SubscriptionKey) (messages : List OutboundCommand),
      (∀ key ∈ keys, key.Canonical) →
      (configuredAdapter provider).subscriptionMessages s action keys = (.ok messages, s') →
      messages.flatMap (Venue.commandTopics provider) = expansion provider s action keys ∧
      (messages.flatMap (Venue.commandTopics provider)).Nodup ∧
      ∀ command ∈ messages, SizedCommand provider action command) ∧
    ∀ (endpoint : EndpointKind) (epoch : Uuid) (calls : List SessionCall),
      (∀ id ∈ sessionIds provider endpoint epoch calls, id ≠ []) ∧
      ((sessionIds provider endpoint epoch calls).take (2 ^ 64 - 1)).Nodup := by
  constructor
  · intro s s' action keys messages hCanonical h
    obtain ⟨hTopics, hSized⟩ := subscriptionMessages_expansion hCanonical h
    exact ⟨hTopics, hTopics ▸ expansion_nodup provider s action keys, hSized⟩
  · intro endpoint epoch calls
    -- the identifiers of a session are its consecutive numbers
    obtain ⟨n, hIds⟩ := sessionIds_eq provider endpoint epoch calls
    rw [hIds]
    refine ⟨fun id hId => ?_, requestNames_nodup provider n⟩
    obtain ⟨k, -, rfl⟩ := List.mem_map.mp hId
    exact requestName_ne_nil provider _

end Life

section Candles

/-! A KuCoin diff with a repeated candle before a ticker. -/

/-- A KuCoin candle. -/
def candleKey (symbol : Text) : SubscriptionKey := ⟨.kucoin, .linearPerpetual, symbol, .candle1m⟩

/-- A diff with a repeated candle before a ticker. -/
def candleKeys : List SubscriptionKey :=
  [candleKey "XBTUSDTM".toList, candleKey "ETHUSDTM".toList,
    ⟨.kucoin, .linearPerpetual, "XBTUSDTM".toList, .ticker⟩, candleKey "XBTUSDTM".toList]

local instance batchUnicode : Unicode := .ascii
local instance batchJson : JsonText := .table []
local instance batchDecimal : RustDecimal := .digits
local instance batchSerde : Serde := .mute

/-- Three ticker topics in a command each, and both candles in one. -/
theorem commands_cover_expansion_candleKeys :
    (KucoinSession.subscriptionMessages (.new .primary 0) .subscribe candleKeys).1.toOption.map
      (·.map (Venue.commandTopics .kucoin)) =
      some [[["/contractMarket/tickerV2".toList, "XBTUSDTM".toList]],
        [["/contractMarket/execution".toList, "XBTUSDTM".toList]],
        [["/contract/instrument".toList, "XBTUSDTM".toList]],
        [["/contractMarket/limitCandle".toList, "XBTUSDTM_1min".toList],
          ["/contractMarket/limitCandle".toList, "ETHUSDTM_1min".toList]]] ∧
    ∃ messages s', (configuredAdapter .kucoin).subscriptionMessages
        ((configuredAdapter .kucoin).session .primary 0) .subscribe candleKeys =
          (.ok messages, s') ∧
      messages.flatMap (Venue.commandTopics .kucoin) =
        expansion .kucoin ((configuredAdapter .kucoin).session .primary 0) .subscribe candleKeys ∧
      (messages.flatMap (Venue.commandTopics .kucoin)).Nodup ∧
      ∀ command ∈ messages, SizedCommand .kucoin .subscribe command := by
  have hCanonical : ∀ key ∈ candleKeys, normalizeSymbol key.symbol = .ok key.symbol := by
    decide +kernel
  refine ⟨by decide +kernel, _, _, rfl, ?_⟩
  exact (commands_cover_expansion .kucoin).1 _ _ .subscribe candleKeys _ hCanonical rfl

end Candles

end MarketStreamGateway
