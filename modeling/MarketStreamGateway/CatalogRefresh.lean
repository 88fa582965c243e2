import MarketStreamGateway.Catalog

/-!
# Market Stream Gateway — concurrent refreshes

`refresh_provider` may be called by several tasks at once. A call of an enabled
provider waits for the refresh lock of that provider, fetches while it holds
it, and writes the catalog before it lets go. Between these points any other
call may move. A call may also be dropped while it waits or fetches.

`completed` is what a step adds to the log of refreshes that were carried
through. The concurrent catalog is the catalog after these refreshes one by
one, so that what holds of refreshes in a row holds of every interleaving.

Main results:
* `insertItems_distinct` — a listing with a duplicate is refused.
* `Snapshots.step` — what one refresh does to every provider's snapshot.
* `refreshes_keep_snapshots` — the snapshots in every interleaving.
-/

namespace MarketStreamGateway

open Lib

/-! ## The calls -/

/-- A call that has not returned; it has read the clock if it holds the lock. -/
structure RefreshCall where
  provider : Provider
  attemptedAtMs : Option Nat

/-- The catalog, the refresh locks with the call that holds each, and the calls
by number. -/
structure Refreshing where
  catalog : Catalog
  locks : Provider → Option Nat
  calls : Nat → Option RefreshCall

/-- The steps of concurrent refresh calls: a call is made, gets the lock, and
fetches while it holds it. -/
inductive RefreshOp where
  | call (id : Nat) (provider : Provider)
  | lock (id : Nat) (attemptedAtMs : Nat)
  /-- The fetch has ended: the catalog is written, the lock released. -/
  | complete (id : Nat) (servers : CatalogServers) (refreshedAtMs : Nat)
  /-- The future of the call is dropped. -/
  | drop (id : Nat)

namespace Refreshing

/-- A new catalog, without calls. -/
def start (enabledProviders : Finset Provider) : Refreshing :=
  ⟨.new enabledProviders, fun _ => none, fun _ => none⟩

/-- A call returns or is dropped, and releases the lock it holds. -/
def release (s : Refreshing) (id : Nat) (call : RefreshCall) : Refreshing :=
  { s with
    locks := if call.attemptedAtMs.isSome then Function.update s.locks call.provider none
      else s.locks
    calls := Function.update s.calls id none }

/-- The refresh that the step carries through. -/
def completed (s : Refreshing) : RefreshOp → List Refresh
  | .complete id servers refreshedAtMs =>
    match s.calls id with
    | some ⟨provider, some attemptedAtMs⟩ => [⟨provider, servers, attemptedAtMs, refreshedAtMs⟩]
    | _ => []
  | _ => []

variable [Unicode] [RustDecimal]

/-- A step that its call is not ready for changes nothing. -/
def step (s : Refreshing) : RefreshOp → Refreshing
  | .call id provider =>
    if (s.calls id).isSome ∨ provider ∉ s.catalog.enabledProviders then s
    else { s with calls := Function.update s.calls id (some ⟨provider, none⟩) }
  | .lock id attemptedAtMs =>
    match s.calls id with
    | some ⟨provider, none⟩ =>
      if s.locks provider = none then
        { s with
          locks := Function.update s.locks provider (some id)
          calls := Function.update s.calls id (some ⟨provider, some attemptedAtMs⟩) }
      else s
    | _ => s
  | .complete id servers refreshedAtMs =>
    match s.calls id with
    | some ⟨provider, some attemptedAtMs⟩ =>
      { s with catalog := s.catalog.step ⟨provider, servers, attemptedAtMs, refreshedAtMs⟩ }.release
        id ⟨provider, some attemptedAtMs⟩
    | _ => s
  | .drop id =>
    match s.calls id with
    | some call => s.release id call
    | none => s

/-- The catalog moves with the refreshes that are carried through. -/
theorem step_catalog (s : Refreshing) (op : RefreshOp) :
    (s.step op).catalog = run Catalog.step s.catalog (s.completed op) := by
  cases op with
  | call id provider =>
    simp only [step]
    split <;> rfl
  | lock id attemptedAtMs =>
    simp only [step]
    split
    · split <;> rfl
    · rfl
  | complete id servers refreshedAtMs =>
    simp only [step, completed]
    split <;> rfl
  | drop id =>
    simp only [step]
    split <;> rfl

end Refreshing

/-! ## The locks -/

namespace Refreshing

/-- A call that has read the clock holds its lock, and every call is of an
enabled provider. -/
structure Serialised (enabledProviders : Finset Provider) (s : Refreshing) : Prop where
  enabled_eq : s.catalog.enabledProviders = enabledProviders
  enabled : ∀ id call, s.calls id = some call → call.provider ∈ enabledProviders
  holds : ∀ id provider attemptedAtMs, s.calls id = some ⟨provider, some attemptedAtMs⟩ →
    s.locks provider = some id

variable {enabledProviders : Finset Provider} {s : Refreshing}

/-- Without calls no lock is held. -/
theorem serialised_start : Serialised enabledProviders (start enabledProviders) :=
  ⟨rfl, nofun, nofun⟩

/-- Two calls that fetch the same provider are one. -/
theorem Serialised.unique (h : Serialised enabledProviders s) {id id' : Nat} {provider : Provider}
    {t t' : Nat} (hCall : s.calls id = some ⟨provider, some t⟩)
    (hCall' : s.calls id' = some ⟨provider, some t'⟩) : id = id' :=
  Option.some.inj ((h.holds id provider t hCall).symm.trans (h.holds id' provider t' hCall'))

/-- Releasing a lock leaves it free, and the others as they were. -/
theorem Serialised.release (h : Serialised enabledProviders s) {id : Nat} {call : RefreshCall}
    (hCall : s.calls id = some call) : Serialised enabledProviders (s.release id call) := by
  refine ⟨h.enabled_eq, fun other pending hPending => ?_, fun other provider t hPending => ?_⟩
  · by_cases hOther : other = id
    · simp [Refreshing.release, hOther] at hPending
    · exact h.enabled other pending (by simpa [Refreshing.release, hOther] using hPending)
  · by_cases hOther : other = id
    · simp [Refreshing.release, hOther] at hPending
    · have hBefore : s.calls other = some ⟨provider, some t⟩ := by
        simpa [Refreshing.release, hOther] using hPending
      have hHolds := h.holds other provider t hBefore
      obtain ⟨released, attempted⟩ := call
      cases attempted with
      | none => exact hHolds
      | some t' =>
        -- the lock that is released is not the one the other call holds
        have hFree : provider ≠ released := by
          rintro rfl
          exact hOther (h.unique hBefore hCall)
        simpa [Refreshing.release, hFree] using hHolds

/-- Only enabled providers are refreshed. -/
theorem Serialised.completed (h : Serialised enabledProviders s) (op : RefreshOp) :
    ∀ refresh ∈ s.completed op, refresh.provider ∈ enabledProviders := by
  intro refresh hRefresh
  cases op with
  | complete id servers refreshedAtMs =>
    simp only [Refreshing.completed] at hRefresh
    split at hRefresh
    · next provider attemptedAtMs hCall =>
      obtain rfl := List.mem_singleton.mp hRefresh
      exact h.enabled id _ hCall
    · cases hRefresh
  | _ => cases hRefresh

variable [Unicode] [RustDecimal]

/-- The enabled providers are fixed. -/
theorem catalog_step_enabledProviders (c : Catalog) (refresh : Refresh) :
    (c.step refresh).enabledProviders = c.enabledProviders := by
  unfold Catalog.step Catalog.refreshProvider
  split
  · rfl
  · dsimp only
    split <;> rfl

/-- Every step keeps a lock with the one call that took it. -/
theorem Serialised.step (h : Serialised enabledProviders s) (op : RefreshOp) :
    Serialised enabledProviders (s.step op) := by
  cases op with
  | call id provider =>
    simp only [Refreshing.step]
    split
    · exact h
    · next hNew =>
      obtain ⟨-, hEnabled⟩ := not_or.mp hNew
      rw [not_not, h.enabled_eq] at hEnabled
      refine ⟨h.enabled_eq, fun other pending hPending => ?_, fun other p t hPending => ?_⟩
      · by_cases hOther : other = id
        · obtain rfl : (⟨provider, none⟩ : RefreshCall) = pending := by
            simpa [hOther] using hPending
          exact hEnabled
        · exact h.enabled other pending (by simpa [hOther] using hPending)
      · by_cases hOther : other = id
        · simp [hOther] at hPending
        · exact h.holds other p t (by simpa [hOther] using hPending)
  | lock id attemptedAtMs =>
    simp only [Refreshing.step]
    split
    · next provider hCall =>
      split
      · next hFree =>
        refine ⟨h.enabled_eq, fun other pending hPending => ?_, fun other p t hPending => ?_⟩
        · by_cases hOther : other = id
          · obtain rfl : (⟨provider, some attemptedAtMs⟩ : RefreshCall) = pending := by
              simpa [hOther] using hPending
            exact h.enabled id ⟨provider, none⟩ hCall
          · exact h.enabled other pending (by simpa [hOther] using hPending)
        · by_cases hOther : other = id
          · obtain ⟨rfl, rfl⟩ : provider = p ∧ attemptedAtMs = t := by simpa [hOther] using hPending
            simp [hOther]
          · have hHolds := h.holds other p t (by simpa [hOther] using hPending)
            -- the lock was free, so whoever held one held another provider's
            have hBusy : p ≠ provider := by
              rintro rfl
              rw [hFree] at hHolds
              cases hHolds
            simpa [hBusy] using hHolds
      · exact h
    · exact h
  | complete id servers refreshedAtMs =>
    simp only [Refreshing.step]
    split
    · next provider attemptedAtMs hCall =>
      have hWritten : Serialised enabledProviders { s with
          catalog := s.catalog.step ⟨provider, servers, attemptedAtMs, refreshedAtMs⟩ } :=
        ⟨(catalog_step_enabledProviders _ _).trans h.enabled_eq, h.enabled, h.holds⟩
      exact hWritten.release hCall
    · exact h
  | drop id =>
    simp only [Refreshing.step]
    split
    · next call hCall => exact h.release hCall
    · exact h

end Refreshing

/-! ## The snapshots -/

section Snapshots

variable [Unicode] [RustDecimal]

/-- The listing of the latest refresh of a provider that succeeded. -/
def latestListing (provider : Provider) (done : List Refresh) : Option Instruments :=
  (done.filterMap fun refresh =>
    if refresh.provider = provider then (Catalog.refreshed refresh).toOption else none).getLast?

/-- The symbols of the items of a listing that are admitted. -/
def admittedSymbols {ι : Type} (admission : ι → Except CatalogError (Option Instrument))
    (items : List ι) : List Text :=
  items.filterMap fun item => ((admission item).toOption.join).map Instrument.symbol

omit [Unicode] [RustDecimal] in
/-- **Duplicates.** A listing that is inserted has no symbol twice, and none that
was there before. -/
theorem insertItems_distinct {ι : Type} {admission : ι → Except CatalogError (Option Instrument)}
    {items : List ι} {instruments instruments' : Instruments}
    (h : insertItems admission instruments items = .ok instruments') :
    (admittedSymbols admission items).Nodup ∧
      ∀ symbol ∈ admittedSymbols admission items, symbol ∉ instruments := by
  induction items generalizing instruments with
  | nil => exact ⟨List.nodup_nil, nofun⟩
  | cons item items ih =>
    rw [insertItems] at h
    obtain ⟨admitted, hItem, h⟩ := bind_eq_ok.mp h
    cases admitted with
    | none =>
      have hSymbols : admittedSymbols admission (item :: items) =
        admittedSymbols admission items := by
        rw [admittedSymbols, List.filterMap_cons, hItem]
        rfl
      rw [hSymbols]
      exact ih h
    | some instrument =>
      have hSymbols : admittedSymbols admission (item :: items) =
          instrument.symbol :: admittedSymbols admission items := by
        rw [admittedSymbols, List.filterMap_cons, hItem]
        rfl
      obtain ⟨inserted, hInsert, h⟩ := bind_eq_ok.mp h
      unfold insertUnique at hInsert
      split at hInsert
      · cases hInsert
      · next hNew =>
        obtain rfl := Except.ok.inj hInsert
        obtain ⟨hNodup, hFresh⟩ := ih h
        rw [hSymbols]
        -- later items are new to a map that has this item already
        refine ⟨List.nodup_cons.mpr ⟨fun hMem => ?_, hNodup⟩, fun symbol hMem => ?_⟩
        · exact hFresh _ hMem (Finmap.mem_insert.mpr (.inl rfl))
        · rcases List.mem_cons.mp hMem with rfl | hMem
          · exact hNew
          · exact fun hOld => hFresh symbol hMem (Finmap.mem_insert.mpr (.inr hOld))

/-- A refresh that found nothing is a failure. -/
theorem refreshed_ne_empty {refresh : Refresh} {instruments : Instruments}
    (h : Catalog.refreshed refresh = .ok instruments) : instruments.keys ≠ ∅ := by
  obtain ⟨fetched, -, hSome⟩ := bind_eq_ok.mp h
  split at hSome
  · cases hSome
  · next hNonempty =>
    obtain rfl := Except.ok.inj hSome
    exact hNonempty

/-- The latest listing of a provider, after one more refresh. -/
theorem latestListing_append (provider : Provider) (done : List Refresh) (refresh : Refresh) :
    latestListing provider (done ++ [refresh]) =
      if refresh.provider = provider then
        ((Catalog.refreshed refresh).toOption).or (latestListing provider done)
      else latestListing provider done := by
  rw [latestListing, List.filterMap_append, List.getLast?_append, List.filterMap_cons,
    List.filterMap_nil]
  by_cases hProvider : refresh.provider = provider
  · rw [if_pos hProvider, if_pos hProvider]
    cases (Catalog.refreshed refresh).toOption <;> rfl
  · rw [if_neg hProvider, if_neg hProvider]
    rfl

/-- The snapshots hold what the latest successful refreshes listed. -/
structure Snapshots (c : Catalog) (done : List Refresh) : Prop where
  instruments : ∀ p, (c.providers p).instruments = (latestListing p done).getD ∅
  count : ∀ p, (c.providers p).status.instrumentCount = (c.providers p).instruments.keys.card

omit [Unicode] [RustDecimal] in
/-- Replacing one snapshot leaves the others. -/
theorem Catalog.put_providers (c : Catalog) (provider p : Provider) (snapshot : ProviderSnapshot) :
    (c.put provider snapshot).providers p = if p = provider then snapshot else c.providers p := by
  unfold Catalog.put
  exact Function.update_apply c.providers provider snapshot p

/-- What a refresh of an enabled provider writes. -/
theorem step_providers {c : Catalog} {refresh : Refresh}
    (hEnabled : refresh.provider ∈ c.enabledProviders) (p : Provider) :
    (refresh.provider ≠ p → (c.step refresh).providers p = c.providers p) ∧
    (∀ error, Catalog.refreshed refresh = .error error →
      ((c.step refresh).providers p).instruments = (c.providers p).instruments ∧
      ((c.step refresh).providers p).status.instrumentCount =
        (c.providers p).status.instrumentCount) ∧
    (∀ instruments, Catalog.refreshed refresh = .ok instruments → refresh.provider = p →
      ((c.step refresh).providers p).instruments = instruments ∧
      ((c.step refresh).providers p).status.instrumentCount = instruments.keys.card) := by
  unfold Catalog.step Catalog.refreshProvider
  rw [if_neg (not_not.mpr hEnabled)]
  dsimp only
  cases hRefreshed : Catalog.refreshed refresh with
  | error error =>
    dsimp only
    rw [Catalog.put_providers]
    -- a failed refresh replaces the status only
    refine ⟨fun hOther => if_neg fun h => hOther h.symm, fun _ _ => ?_, nofun⟩
    split
    · next hSame =>
      subst hSame
      exact ⟨rfl, rfl⟩
    · exact ⟨rfl, rfl⟩
  | ok instruments =>
    dsimp only
    rw [Catalog.put_providers]
    refine ⟨fun hOther => if_neg fun h => hOther h.symm, nofun, fun found hFound hSame => ?_⟩
    obtain rfl := Except.ok.inj hFound
    rw [if_pos hSame.symm]
    exact ⟨rfl, rfl⟩

/-- A refresh replaces the snapshot of its provider, or keeps it when it failed. -/
theorem Snapshots.step {c : Catalog} {done : List Refresh} (h : Snapshots c done)
    {refresh : Refresh} (hEnabled : refresh.provider ∈ c.enabledProviders) :
    Snapshots (c.step refresh) (done ++ [refresh]) := by
  refine ⟨fun p => ?_, fun p => ?_⟩
  all_goals obtain ⟨hOther, hFailed, hDone⟩ := step_providers hEnabled p
  · -- the instruments are those of the latest refresh that succeeded
    rw [latestListing_append]
    by_cases hSame : refresh.provider = p
    · rw [if_pos hSame]
      cases hRefreshed : Catalog.refreshed refresh with
      | error error =>
        rw [(hFailed error hRefreshed).1]
        exact h.instruments p
      | ok instruments => exact (hDone instruments hRefreshed hSame).1
    · rw [if_neg hSame, hOther hSame]
      exact h.instruments p
  · -- the count follows the instruments
    by_cases hSame : refresh.provider = p
    · cases hRefreshed : Catalog.refreshed refresh with
      | error error =>
        rw [(hFailed error hRefreshed).1, (hFailed error hRefreshed).2]
        exact h.count p
      | ok instruments =>
        rw [(hDone instruments hRefreshed hSame).1, (hDone instruments hRefreshed hSame).2]
    · rw [hOther hSame]
      exact h.count p

/-- A provider that was never refreshed has no listing. -/
theorem latestListing_eq_none {provider : Provider} {done : List Refresh}
    (h : ∀ refresh ∈ done, refresh.provider ≠ provider) : latestListing provider done = none := by
  have hNone : (done.filterMap fun refresh =>
      if refresh.provider = provider then (Catalog.refreshed refresh).toOption else none) = [] := by
    rw [List.filterMap_eq_nil_iff]
    exact fun refresh hRefresh => if_neg (h refresh hRefresh)
  rw [latestListing, hNone, List.getLast?_nil]

namespace Refreshing

/-- A step carries no refresh through, or one of an enabled provider. -/
theorem Serialised.step_catalog {enabledProviders : Finset Provider} {s : Refreshing}
    (h : Serialised enabledProviders s) (op : RefreshOp) :
    (s.completed op = [] ∧ (s.step op).catalog = s.catalog) ∨
    ∃ refresh, s.completed op = [refresh] ∧ refresh.provider ∈ s.catalog.enabledProviders ∧
      (s.step op).catalog = s.catalog.step refresh := by
  have hCatalog := Refreshing.step_catalog s op
  have hEnabled := h.completed op
  -- an operation completes one refresh at most
  have hLength : s.completed op = [] ∨ ∃ refresh, s.completed op = [refresh] := by
    cases op with
    | complete id servers refreshedAtMs =>
      simp only [Refreshing.completed]
      split
      · exact .inr ⟨_, rfl⟩
      · exact .inl rfl
    | _ => exact .inl rfl
  rcases hLength with hNone | ⟨refresh, hOne⟩
  · rw [hNone] at hCatalog
    exact .inl ⟨hNone, hCatalog⟩
  · rw [hOne] at hCatalog hEnabled
    refine .inr ⟨refresh, hOne, ?_, hCatalog⟩
    rw [h.enabled_eq]
    exact hEnabled refresh (List.mem_singleton_self _)

/-- The invariant of the interleavings, with the log of the refreshes. -/
structure Interleaved (enabledProviders : Finset Provider) (s : Refreshing) (done : List Refresh) :
    Prop where
  serialised : Serialised enabledProviders s
  snapshots : Snapshots s.catalog done
  enabled : ∀ refresh ∈ done, refresh.provider ∈ enabledProviders

/-- Every step of the calls keeps locks and snapshots in order. -/
theorem Interleaved.step {enabledProviders : Finset Provider} {s : Refreshing}
    {done : List Refresh} (h : Interleaved enabledProviders s done) (op : RefreshOp) :
    Interleaved enabledProviders (s.step op) (done ++ s.completed op) := by
  refine ⟨h.serialised.step op, ?_, fun refresh hRefresh => ?_⟩
  · rcases h.serialised.step_catalog op with ⟨hNone, hCatalog⟩ | ⟨refresh, hOne, hIn, hCatalog⟩
    · rw [hNone, List.append_nil, hCatalog]
      exact h.snapshots
    · rw [hOne, hCatalog]
      exact h.snapshots.step hIn
  · rcases List.mem_append.mp hRefresh with hOld | hNew
    · exact h.enabled refresh hOld
    · exact h.serialised.completed op refresh hNew

/-- Locks and snapshots are in order after every run. -/
theorem interleaved (enabledProviders : Finset Provider) (ops : List RefreshOp) :
    Interleaved enabledProviders (run step (start enabledProviders) ops)
      (trace step completed (start enabledProviders) ops) := by
  have hStart : Interleaved enabledProviders (start enabledProviders) [] := by
    refine ⟨serialised_start, ⟨fun p => ?_, fun p => ?_⟩, fun refresh h => ?_⟩
    · rfl
    · show 0 = Finset.card (Finmap.keys ∅)
      rw [Finmap.keys_empty, Finset.card_empty]
    · cases h
  have hRun := run_trace_invariant (R := Interleaved enabledProviders)
    (fun s op done h => h.step op) hStart ops
  rwa [List.nil_append] at hRun

end Refreshing

/-- **Refreshes.** In every interleaving of refreshes, whatever the venues
answer: calls of one provider fetch one after the other; each snapshot holds
the listing of the latest refresh that succeeded, under the canonical symbols,
with its size in the status; a disabled provider has none. A step leaves alone
every provider it does not complete a refresh of, and the instruments of every
provider if the refresh fails. A refresh with an empty listing, or with a
duplicate in it, is no success. -/
theorem refreshes_keep_snapshots (enabledProviders : Finset Provider) (ops : List RefreshOp) :
    let s := run Refreshing.step (.start enabledProviders) ops
    let done := trace Refreshing.step Refreshing.completed (.start enabledProviders) ops
    (∀ p, (s.catalog.providers p).instruments = (latestListing p done).getD ∅ ∧
      (s.catalog.providers p).status.instrumentCount =
        (s.catalog.providers p).instruments.keys.card ∧
      (∀ symbol instrument, (s.catalog.providers p).instruments.lookup symbol = some instrument →
        instrument.symbol = symbol ∧ normalizeSymbol symbol = .ok symbol ∧
        instrument.provider = p ∧ instrument.instrumentId = instrumentId p symbol) ∧
      (p ∉ enabledProviders → (s.catalog.providers p).instruments = ∅)) ∧
    (∀ id id' p t t', s.calls id = some ⟨p, some t⟩ → s.calls id' = some ⟨p, some t'⟩ → id = id') ∧
    (∀ op p, (∀ refresh ∈ s.completed op, refresh.provider ≠ p) →
      (s.step op).catalog.providers p = s.catalog.providers p) ∧
    (∀ op p, (∀ refresh ∈ s.completed op, ∃ error, Catalog.refreshed refresh = .error error) →
      ((s.step op).catalog.providers p).instruments = (s.catalog.providers p).instruments) ∧
    (∀ refresh instruments, Catalog.refreshed refresh = .ok instruments →
      instruments.keys ≠ ∅) ∧
    ∀ (ι : Type) (admission : ι → Except CatalogError (Option Instrument)) (items : List ι)
      (instruments instruments' : Instruments),
      insertItems admission instruments items = .ok instruments' →
      (admittedSymbols admission items).Nodup ∧
        ∀ symbol ∈ admittedSymbols admission items, symbol ∉ instruments := by
  intro s done
  have h : Refreshing.Interleaved enabledProviders s done :=
    Refreshing.interleaved enabledProviders ops
  have hListed : s.catalog.Listing := by
    rw [show s.catalog = run Catalog.step (.new enabledProviders) done from
      run_project Refreshing.step_catalog (Refreshing.start enabledProviders) ops]
    exact Catalog.refreshed_listed enabledProviders done
  refine ⟨fun p => ⟨h.snapshots.instruments p, h.snapshots.count p, ?_, fun hDisabled => ?_⟩,
    fun id id' p t t' => h.serialised.unique, fun op p hOthers => ?_, fun op p hFailed => ?_,
    fun refresh instruments => refreshed_ne_empty,
    fun ι admission items instruments instruments' => insertItems_distinct⟩
  · intro symbol instrument hLookup
    obtain ⟨rfl, hChecked⟩ := hListed p symbol instrument hLookup
    exact ⟨rfl, hChecked.canonical, hChecked.provider_eq, hChecked.id_eq⟩
  · rw [h.snapshots.instruments p, latestListing_eq_none]
    · rfl
    · rintro refresh hRefresh rfl
      exact hDisabled (h.enabled refresh hRefresh)
  · -- a step completes one refresh or none, and writes the snapshot of its provider
    -- only
    rcases h.serialised.step_catalog op with ⟨-, hCatalog⟩ | ⟨refresh, hOne, hIn, hCatalog⟩
    · rw [hCatalog]
    · rw [hCatalog]
      rw [hOne] at hOthers
      exact (step_providers hIn p).1 (hOthers refresh (List.mem_singleton_self _))
  · rcases h.serialised.step_catalog op with ⟨-, hCatalog⟩ | ⟨refresh, hOne, hIn, hCatalog⟩
    · rw [hCatalog]
    · rw [hOne] at hFailed
      obtain ⟨error, hError⟩ := hFailed refresh (List.mem_singleton_self _)
      rw [hCatalog]
      exact ((step_providers hIn p).2.1 error hError).1

end Snapshots

end MarketStreamGateway
