import MarketStreamGateway.Feeds.Reading
import MarketStreamGateway.Lib.Overlay

/-!
# Market Stream Gateway — what a reading does to the ticker cache

The cache as a table of decimal fields by symbol (`view`), and its updates as
changes of that table. Main results:

* `handle_tickers` — handling a reading stores the updates `Reading.applied`
  lists, one by one, whichever way the handler goes about it.
* `handle_events` — an event holds the cached ticker of its symbol, as it is
  after the update the event belongs to.
-/

namespace MarketStreamGateway

open Lib

/-! ## Writing fields -/

namespace Update

/-- The value the last write of a field gives it, if there is one. -/
def lastWritten (writes : List (Field × Option ObservedDecimal)) (field : Field) :
    Option (Option ObservedDecimal) :=
  writes.foldl (fun value w => if w.1 = field then some w.2 else value) none

/-- The fold that finds the last write only ever replaces what it started with. -/
theorem foldl_lastWritten (writes : List (Field × Option ObservedDecimal)) (field : Field)
    (start : Option (Option ObservedDecimal)) :
    writes.foldl (fun value w => if w.1 = field then some w.2 else value) start =
      (lastWritten writes field).orElse fun _ => start := by
  unfold lastWritten
  induction writes generalizing start with
  | nil => rfl
  | cons w writes ih =>
    rw [List.foldl_cons, List.foldl_cons, ih, ih (if w.1 = field then some w.2 else none)]
    cases writes.foldl (fun value w => if w.1 = field then some w.2 else value) none with
    | some value => rfl
    | none => by_cases hField : w.1 = field <;> simp [hField]

theorem lastWritten_cons (w : Field × Option ObservedDecimal)
    (writes : List (Field × Option ObservedDecimal)) (field : Field) :
    lastWritten (w :: writes) field =
      (lastWritten writes field).orElse fun _ => if w.1 = field then some w.2 else none := by
  rw [lastWritten, List.foldl_cons, foldl_lastWritten]

/-- Of two lists of writes the second has the last word. -/
theorem lastWritten_append (first second : List (Field × Option ObservedDecimal))
    (field : Field) :
    lastWritten (first ++ second) field =
      (lastWritten second field).orElse fun _ => lastWritten first field := by
  rw [lastWritten, List.foldl_append, ← lastWritten, foldl_lastWritten]

/-- What was written last was written. -/
theorem lastWritten_mem {writes : List (Field × Option ObservedDecimal)} {field : Field}
    {value : Option ObservedDecimal} (h : lastWritten writes field = some value) :
    (field, value) ∈ writes := by
  induction writes with
  | nil => cases h
  | cons w writes ih =>
    rw [lastWritten_cons] at h
    -- a later write of the field wins
    cases hRest : lastWritten writes field with
    | some rest =>
      rw [hRest] at h
      exact List.mem_cons_of_mem _ (ih (hRest.trans h))
    | none =>
      rw [hRest, Option.orElse_none] at h
      split at h
      · next hField =>
        rw [← Option.some.inj h, ← hField]
        exact List.mem_cons_self
      · cases h

/-- A field that is written has a last write. -/
theorem lastWritten_ne_none {writes : List (Field × Option ObservedDecimal)} {field : Field}
    {value : Option ObservedDecimal} (hMem : (field, value) ∈ writes) :
    lastWritten writes field ≠ none := by
  induction writes with
  | nil => cases hMem
  | cons w writes ih =>
    rw [lastWritten_cons]
    cases hRest : lastWritten writes field with
    | some last => exact Option.some_ne_none _
    | none =>
      rcases List.mem_cons.mp hMem with rfl | hMem
      · rw [Option.orElse_none, if_pos rfl]
        exact Option.some_ne_none _
      · exact absurd hRest (ih hMem)

/-- A value that is written to a field, if no other one is. -/
theorem lastWritten_of_mem {writes : List (Field × Option ObservedDecimal)} {field : Field}
    {value : Option ObservedDecimal} (hMem : (field, value) ∈ writes)
    (hOnly : ∀ w ∈ writes, w.1 = field → w.2 = value) :
    lastWritten writes field = some value := by
  cases hLast : lastWritten writes field with
  | none => exact absurd hLast (lastWritten_ne_none hMem)
  | some last => exact congrArg some (hOnly _ (lastWritten_mem hLast) rfl)

/-- After a list of writes a field shows the last of them, or what it showed before. -/
theorem get_write (t : Ticker) (writes : List (Field × Option ObservedDecimal)) (field : Field) :
    (write t writes).get field = (lastWritten writes field).getD (t.get field) := by
  unfold write
  induction writes generalizing t with
  | nil => rfl
  | cons w writes ih =>
    rw [List.foldl_cons, ih, lastWritten_cons]
    cases lastWritten writes field with
    | some value => rfl
    | none =>
      by_cases hField : w.1 = field
      · subst hField
        simp
      · simp [hField, Ticker.get_set_of_ne t (Ne.symm hField)]

/-- What an update writes to a field. A reset clears the fields it does not
write. -/
def written (u : Update) (field : Field) : Option (Option ObservedDecimal) :=
  (lastWritten u.writes field).orElse fun _ => if u.reset then some none else none

/-- An update, as a change of the table of last values. -/
def change (u : Update) : Change Text Field ObservedDecimal := ⟨u.symbol, u.written⟩

/-- A field after an update: what the update wrote there, or what the cache had. -/
theorem get_apply (u : Update) (base : Ticker) (field : Field) :
    (u.apply base).get field = (u.written field).getD (base.get field) := by
  have hTime : (u.apply base).get field =
      (write (if u.reset then {} else base) u.writes).get field := by
    cases field <;> rfl
  rw [hTime, get_write, written]
  cases lastWritten u.writes field with
  | some value => rfl
  | none =>
    cases u.reset with
    | false => rfl
    | true => cases field <;> rfl

/-- The fields that are written leave the funding time alone. -/
theorem write_nextFundingTimeMs (t : Ticker) (writes : List (Field × Option ObservedDecimal)) :
    (write t writes).nextFundingTimeMs = t.nextFundingTimeMs := by
  unfold write
  induction writes generalizing t with
  | nil => rfl
  | cons w writes ih =>
    rw [List.foldl_cons, ih]
    cases w.1 <;> rfl

/-- The next funding time is overlaid like a field, though it is no decimal. -/
theorem apply_nextFundingTimeMs (u : Update) (base : Ticker) :
    (u.apply base).nextFundingTimeMs =
      u.nextFundingTimeMs.getD (if u.reset then none else base.nextFundingTimeMs) := by
  unfold apply
  dsimp only
  rw [write_nextFundingTimeMs]
  split <;> rfl

/-- A value that an update writes is one of its writes. -/
theorem mem_writes {u : Update} {field : Field} {observed : ObservedDecimal}
    (h : u.written field = some (some observed)) : (field, some observed) ∈ u.writes := by
  unfold written at h
  cases hLast : lastWritten u.writes field with
  | some value =>
    rw [hLast] at h
    exact lastWritten_mem (hLast.trans h)
  | none =>
    rw [hLast, Option.orElse_none] at h
    split at h
    · cases Option.some.inj h
    · cases h

end Update

/-! ## Prices -/

/-- A ticker has a price when some field but the funding rate is present. -/
theorem hasPrice_iff {t : Ticker} :
    t.hasPrice = true ↔ ∃ field observed, field ≠ .fundingRate ∧ t.get field = some observed := by
  constructor
  · intro h
    simp only [Ticker.hasPrice, Bool.or_eq_true, Option.isSome_iff_exists] at h
    rcases h with (((⟨o, h⟩ | ⟨o, h⟩) | ⟨o, h⟩) | ⟨o, h⟩) | ⟨o, h⟩
    · exact ⟨.last, o, by decide, h⟩
    · exact ⟨.mark, o, by decide, h⟩
    · exact ⟨.index, o, by decide, h⟩
    · exact ⟨.bid, o, by decide, h⟩
    · exact ⟨.ask, o, by decide, h⟩
  · rintro ⟨field, observed, hField, h⟩
    cases field with
    | fundingRate => exact absurd rfl hField
    | last | mark | index | bid | ask =>
      simp only [Ticker.get] at h
      simp [Ticker.hasPrice, h]

/-- An update that only adds values. -/
def Update.Steady (u : Update) : Prop :=
  u.reset = false ∧ ∀ w ∈ u.writes, ∃ observed, w.2 = some observed

/-- A steady update never clears a field. -/
theorem Update.Steady.written {u : Update} (h : u.Steady) {field : Field}
    {value : Option ObservedDecimal} (hWritten : u.written field = some value) :
    ∃ observed, value = some observed := by
  unfold Update.written at hWritten
  cases hLast : Update.lastWritten u.writes field with
  | some last =>
    rw [hLast] at hWritten
    obtain rfl := Option.some.inj hWritten
    exact h.2 _ (Update.lastWritten_mem hLast)
  | none =>
    rw [hLast, Option.orElse_none, h.1] at hWritten
    cases hWritten

/-- A steady update keeps a price that is there. -/
theorem Update.Steady.hasPrice {u : Update} (h : u.Steady) {t : Ticker}
    (hPrice : t.hasPrice = true) : (u.apply t).hasPrice = true := by
  obtain ⟨field, observed, hField, hValue⟩ := hasPrice_iff.mp hPrice
  cases hWritten : u.written field with
  | none =>
    exact hasPrice_iff.mpr ⟨field, observed, hField,
      by rw [Update.get_apply, hWritten, hValue]; rfl⟩
  | some value =>
    obtain ⟨other, rfl⟩ := h.written hWritten
    exact hasPrice_iff.mpr ⟨field, other, hField, by rw [Update.get_apply, hWritten]; rfl⟩

/-- A price that is written is there. -/
theorem Update.Steady.hasPrice_of_mem {u : Update} (h : u.Steady) {field : Field}
    (hField : field ≠ .fundingRate) {value : Option ObservedDecimal}
    (hMem : (field, value) ∈ u.writes) (t : Ticker) : (u.apply t).hasPrice = true := by
  cases hLast : Update.lastWritten u.writes field with
  | none => exact absurd hLast (Update.lastWritten_ne_none hMem)
  | some last =>
    have hWritten : u.written field = some last := by rw [Update.written, hLast, Option.orElse_some]
    obtain ⟨observed, rfl⟩ := h.written hWritten
    exact hasPrice_iff.mpr ⟨field, observed, hField, by rw [Update.get_apply, hWritten]; rfl⟩

/-! ## The cache as a table -/

/-- The decimal fields of the cached tickers. -/
def view (tickers : Tickers) : Table Text Field ObservedDecimal :=
  fun symbol field => (cached tickers symbol).get field

/-- An empty cache shows nothing. -/
theorem view_empty (symbol : Text) (field : Field) : view ∅ symbol field = none := by
  cases field <;> rfl

theorem cached_store_self (tickers : Tickers) (u : Update) :
    cached (store tickers u) u.symbol = updated tickers u := by
  rw [cached, store, Finmap.lookup_insert, Option.getD_some]

/-- Storing an update leaves the other symbols alone. -/
theorem cached_store_of_ne {tickers : Tickers} {u : Update} {symbol : Text}
    (h : symbol ≠ u.symbol) : cached (store tickers u) symbol = cached tickers symbol := by
  rw [cached, store, Finmap.lookup_insert_of_ne _ h, cached]

/-- Storing an update is applying its change to the table. -/
theorem view_store (tickers : Tickers) (u : Update) :
    view (store tickers u) = Change.apply (view tickers) u.change := by
  funext symbol field
  unfold Change.apply
  by_cases hSymbol : symbol = u.symbol
  · subst hSymbol
    rw [if_pos (show u.symbol = u.change.key from rfl), view, cached_store_self, updated,
      Update.get_apply]
    rfl
  · rw [if_neg (show ¬ symbol = u.change.key from hSymbol), view, cached_store_of_ne hSymbol, view]

theorem storeAll_concat (tickers : Tickers) (updates : List Update) (u : Update) :
    storeAll tickers (updates ++ [u]) = store (storeAll tickers updates) u := by
  simp [storeAll]

/-- Storing a list of updates is applying their changes one after the other. -/
theorem view_storeAll (tickers : Tickers) (updates : List Update) :
    view (storeAll tickers updates) =
      Change.applyAll (view tickers) (updates.map Update.change) := by
  unfold storeAll Change.applyAll
  induction updates generalizing tickers with
  | nil => rfl
  | cons u updates ih => rw [List.foldl_cons, ih, List.map_cons, List.foldl_cons, view_store]

/-- The records that a subscription diff drops. -/
def forgotten (action : SubscriptionAction) (subscriptions : List SubscriptionKey) :
    List (Change Text Field ObservedDecimal) :=
  match action with
  | .subscribe => []
  | .unsubscribe => (subscriptions.filter (·.channel = .ticker)).map fun key => .erase key.symbol

/-- Forgetting a symbol erases its row. -/
theorem view_erase (tickers : Tickers) (symbol : Text) :
    view (tickers.erase symbol) = Change.apply (view tickers) (.erase symbol) := by
  funext other field
  unfold Change.apply
  by_cases hSymbol : other = symbol
  · subst hSymbol
    rw [if_pos (show other = (Change.erase other).key from rfl), view, cached, Finmap.lookup_erase]
    cases field <;> rfl
  · rw [if_neg (show ¬ other = (Change.erase symbol).key from hSymbol), view, view, cached, cached,
      Finmap.lookup_erase_ne hSymbol]

/-- An unsubscription erases the rows of its tickers, a subscription none. -/
theorem view_forgetTickers (action : SubscriptionAction) (subscriptions : List SubscriptionKey)
    (tickers : Tickers) :
    view (forgetTickers action subscriptions tickers) =
      Change.applyAll (view tickers) (forgotten action subscriptions) := by
  cases action with
  | subscribe => rfl
  | unsubscribe =>
    unfold forgetTickers forgotten Change.applyAll
    induction subscriptions generalizing tickers with
    | nil => rfl
    | cons key subscriptions ih =>
      rw [List.foldl_cons, ih]
      cases hChannel : key.channel with
      | ticker =>
        rw [List.filter_cons_of_pos (by simp [hChannel]), List.map_cons, List.foldl_cons,
          view_erase]
      | candle1m => rw [List.filter_cons_of_neg (by simp [hChannel])]

namespace Reading

/-! ## Handling readings -/

/-- The items before the first one that was refused. -/
def accepted : List (Except AdapterError Update) → List Update
  | [] => []
  | .error _ :: _ => []
  | .ok u :: rest => u :: accepted rest

/-- The updates a frame carries. -/
def updates : Reading → List Update
  | ignored | refused _ | candles _ => []
  | single u | sequenced u _ | priced u _ | held u => [u]
  | each items => accepted items
  | batch updates => updates

/-- The updates that are stored. -/
def applied (tickers : Tickers) : Reading → List Update
  | priced u _ => if (updated tickers u).hasPrice then [u] else []
  | r => r.updates

/-- What a frame changes in the cache is among the updates it was read as. -/
theorem applied_subset (tickers : Tickers) (r : Reading) : r.applied tickers ⊆ r.updates := by
  intro u hu
  cases r with
  | priced v error =>
    simp only [applied] at hu
    split at hu
    · exact hu
    · cases hu
  | _ => exact hu

variable (provider : Provider) (connectionEpoch : Uuid) (receivedAtMs : Nat)

/-- Items are stored up to the first that is refused, and stay stored. -/
theorem storeEach_snd (tickers : Tickers) (items : List (Except AdapterError Update)) :
    (storeEach provider connectionEpoch receivedAtMs tickers items).2 =
      storeAll tickers (accepted items) := by
  induction items generalizing tickers with
  | nil => rfl
  | cons item items ih =>
    cases item with
    | error error => rfl
    | ok u => exact ih (store tickers u)

/-- Where nothing is refused everything is accepted. -/
theorem accepted_map_ok (updates : List Update) : accepted (updates.map .ok) = updates := by
  induction updates with
  | nil => rfl
  | cons u updates ih => exact congrArg (u :: ·) ih

theorem mem_accepted {items : List (Except AdapterError Update)} {u : Update}
    (h : u ∈ accepted items) : .ok u ∈ items := by
  induction items with
  | nil => cases h
  | cons item items ih =>
    cases item with
    | error error => cases h
    | ok first =>
      rcases List.mem_cons.mp h with rfl | h
      · exact List.mem_cons_self
      · exact List.mem_cons_of_mem _ (ih h)

/-- Collecting the tickers in a map of their own comes to storing them. -/
theorem pend_eq (tickers pending : Tickers) (updates : List Update) :
    (.ok (pend provider connectionEpoch receivedAtMs tickers pending updates).1,
      (pend provider connectionEpoch receivedAtMs tickers pending updates).2 ∪ tickers) =
    storeEach provider connectionEpoch receivedAtMs (pending ∪ tickers) (updates.map .ok) := by
  induction updates generalizing pending with
  | nil => rfl
  | cons u updates ih =>
    -- a pending ticker hides the cached one, as in the union of the two maps
    have hBase : ((pending.lookup u.symbol).orElse fun _ => tickers.lookup u.symbol).getD {} =
        cached (pending ∪ tickers) u.symbol := by
      unfold cached
      by_cases hMem : u.symbol ∈ pending
      · obtain ⟨ticker, hLookup⟩ := Finmap.mem_iff.mp hMem
        rw [Finmap.lookup_union_left hMem, hLookup, Option.orElse_some]
      · rw [Finmap.lookup_union_right hMem, Finmap.lookup_eq_none.mpr hMem, Option.orElse_none]
    have hStore : pending.insert u.symbol (updated (pending ∪ tickers) u) ∪ tickers =
        store (pending ∪ tickers) u := (Finmap.insert_union).symm
    have hRest := ih (pending.insert u.symbol (updated (pending ∪ tickers) u))
    rw [hStore] at hRest
    rw [List.map_cons, storeEach, pend, hBase, ← hRest]
    rfl

/-- Whatever a reading is, handling it stores its `applied` updates and nothing else. -/
theorem handle_tickers (tickers : Tickers) (r : Reading) :
    (r.handle provider connectionEpoch receivedAtMs tickers).2 =
      storeAll tickers (r.applied tickers) := by
  cases r with
  | ignored | refused _ | candles _ | single _ => rfl
  | each items => exact storeEach_snd provider connectionEpoch receivedAtMs tickers items
  -- the pending tickers are merged into the cache at the end
  | batch updates =>
    have hPend := congrArg Prod.snd
      (pend_eq provider connectionEpoch receivedAtMs tickers ∅ updates)
    rw [Finmap.empty_union, storeEach_snd, accepted_map_ok] at hPend
    exact hPend
  | sequenced u sequence => cases sequence <;> rfl
  | priced u error =>
    simp only [handle, applied]
    split <;> rfl
  | held u =>
    simp only [handle]
    split <;> rfl

/-- The event of an update, up to its sequence number: it holds the ticker the
update leads to. -/
def Emits (tickers : Tickers) (u : Update) (event : ProviderEvent) : Prop :=
  event.connectionEpoch = connectionEpoch ∧ event.provider = provider ∧
    event.market = .linearPerpetual ∧ event.symbol = u.symbol ∧
    event.gatewayReceivedTimeMs = receivedAtMs ∧ event.payload = .ticker (updated tickers u)

/-- The event of an item shows the cache as it is right after that item. -/
theorem storeEach_getElem? {tickers : Tickers} {items : List (Except AdapterError Update)}
    {events : List ProviderEvent}
    (h : (storeEach provider connectionEpoch receivedAtMs tickers items).1 = .ok events)
    {i : Nat} {event : ProviderEvent} (hEvent : events[i]? = some event) :
    ∃ u, (accepted items)[i]? = some u ∧ Emits provider connectionEpoch receivedAtMs
      (storeAll tickers ((accepted items).take i)) u event := by
  induction items generalizing tickers events i with
  | nil =>
    obtain rfl := Except.ok.inj h
    cases hEvent
  | cons item items ih =>
    cases item with
    | error error => cases h
    | ok u =>
      rw [storeEach] at h
      obtain ⟨rest, hRest, rfl⟩ := map_eq_ok.mp h
      cases i with
      -- the first event shows the cache after the first update
      | zero =>
        obtain rfl := Option.some.inj hEvent
        exact ⟨u, rfl, rfl, rfl, rfl, rfl, rfl, rfl⟩
      | succ i => exact ih hRest hEvent

/-- An accepted frame carries candles, or one event for each update it stored,
in their order. -/
theorem handle_events {tickers : Tickers} {r : Reading} {events : List ProviderEvent}
    (h : (r.handle provider connectionEpoch receivedAtMs tickers).1 = .ok (some events)) :
    (∃ items, r = candles items ∧
      events = items.map (·.event provider connectionEpoch receivedAtMs)) ∨
    ∀ i event, events[i]? = some event → ∃ u, (r.applied tickers)[i]? = some u ∧
      Emits provider connectionEpoch receivedAtMs
        (storeAll tickers ((r.applied tickers).take i)) u event := by
  -- a frame of one update emits one event, of the ticker after it
  have hOne : ∀ (u : Update) (s : Option SourceSequence) (i : Nat) (event : ProviderEvent),
      [{ u with sourceSequence := s }.event provider connectionEpoch receivedAtMs
        (updated tickers u)][i]? = some event →
      ∃ v, [u][i]? = some v ∧ Emits provider connectionEpoch receivedAtMs
        (storeAll tickers ([u].take i)) v event := by
    intro u s i event hEvent
    cases i with
    | zero =>
      obtain rfl := Option.some.inj hEvent
      exact ⟨u, rfl, rfl, rfl, rfl, rfl, rfl, rfl⟩
    | succ i => cases hEvent
  cases r with
  | ignored => cases Except.ok.inj h
  | refused error => cases h
  | candles items => exact .inl ⟨items, rfl, (Option.some.inj (Except.ok.inj h)).symm⟩
  | single u =>
    obtain rfl := Option.some.inj (Except.ok.inj h)
    exact .inr (hOne u u.sourceSequence)
  | each items =>
    obtain ⟨stored, hStored, hEvents⟩ := map_eq_ok.mp h
    obtain rfl := Option.some.inj hEvents
    exact .inr fun i event => storeEach_getElem? provider connectionEpoch receivedAtMs hStored
  | batch updates =>
    obtain rfl := Option.some.inj (Except.ok.inj h)
    -- a batch emits what its updates would emit one after the other
    have hPend := congrArg Prod.fst
      (pend_eq provider connectionEpoch receivedAtMs tickers ∅ updates)
    rw [Finmap.empty_union] at hPend
    refine .inr fun i event hEvent => ?_
    have hStored := storeEach_getElem? provider connectionEpoch receivedAtMs hPend.symm hEvent
    rwa [accepted_map_ok] at hStored
  | sequenced u sequence =>
    cases sequence with
    | error error => cases h
    | ok sequence =>
      obtain rfl := Option.some.inj (Except.ok.inj h)
      exact .inr (hOne u sequence)
  | priced u error =>
    simp only [handle] at h
    split at h
    · next hPrice =>
      obtain rfl := Option.some.inj (Except.ok.inj h)
      rw [applied, if_pos hPrice]
      exact .inr (hOne u u.sourceSequence)
    · cases h
  | held u =>
    simp only [handle] at h
    split at h
    · obtain rfl := Option.some.inj (Except.ok.inj h)
      exact .inr (hOne u u.sourceSequence)
    · obtain rfl := Option.some.inj (Except.ok.inj h)
      exact .inr fun i event hEvent => by cases hEvent

end Reading

end MarketStreamGateway
