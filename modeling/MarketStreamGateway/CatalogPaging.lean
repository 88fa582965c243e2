import MarketStreamGateway.Catalog

/-!
# Market Stream Gateway — the pages of the Bybit listing

`fetch_bybit` follows `nextPageCursor` from page to page. It checks twice that a
cursor is not asked for again: at the head of a round, against the cursors of
the earlier rounds, and when a page returns its cursor. The server is any
function of the requests so far.

* `bybitHeads` are the heads of the rounds the loop gets to. Their cursors are
  all different, so that the first check never fires (`heads_fresh`,
  `heads_nodup`).
* `Follows` is the walk along the cursors with no check at all. The fetch
  succeeds exactly when the walk ends soon enough and meets no cursor and no
  live symbol twice, and then holds what the walk has seen (`fetch_bybit_walk`).
-/

namespace MarketStreamGateway

open Lib

/-! ## Rounds -/

/-- What the loop holds at the head of a round. -/
structure BybitHead where
  instruments : Instruments
  cursor : Option Text
  requestedCursors : Finset Text
  /-- The requests so far, the latest first. -/
  requests : List (Option Text)

namespace BybitHead

/-- The walk before its first page. -/
def start : BybitHead := ⟨∅, none, ∅, []⟩

/-- The cursors noted once the head has passed its check. -/
def noted (head : BybitHead) : Finset Text :=
  match head.cursor with
  | none => head.requestedCursors
  | some current => insert current head.requestedCursors

/-- The head of the next round. -/
def advance (head : BybitHead) (instruments : Instruments) (next : Text) : BybitHead :=
  ⟨instruments, some next, head.noted, head.cursor :: head.requests⟩

/-- The cursors of the requests are those noted, and the next one is new. -/
structure Fresh (head : BybitHead) : Prop where
  noted : ∀ cursor, cursor ∈ head.requestedCursors ↔ some cursor ∈ head.requests
  distinct : (head.cursor :: head.requests).Nodup

/-- Nothing has been requested yet. -/
theorem start_fresh : start.Fresh where
  noted cursor := by simp [start]
  distinct := by simp [start]

variable {head : BybitHead} (h : head.Fresh)

include h

/-- The check at the head of a round passes. -/
theorem Fresh.unnoted {cursor : Text} (hCursor : head.cursor = some cursor) :
    cursor ∉ head.requestedCursors := by
  rw [h.noted, ← hCursor]
  exact (List.nodup_cons.mp h.distinct).1

/-- A cursor that is new is noted. -/
theorem Fresh.noteCursor_eq : noteCursor head.requestedCursors head.cursor = .ok head.noted := by
  rw [BybitHead.noted]
  cases hCursor : head.cursor with
  | none => rfl
  | some current => rw [noteCursor, if_neg (h.unnoted hCursor)]

/-- The noted cursors are those that were requested. -/
theorem Fresh.mem_noted (cursor : Text) :
    cursor ∈ head.noted ↔ some cursor ∈ head.cursor :: head.requests := by
  rw [BybitHead.noted]
  cases hCursor : head.cursor with
  | none => simp [h.noted]
  | some current => simp [h.noted]

/-- The two conditions of the second check are one: the cursor was asked for. -/
theorem Fresh.repeated_iff (next : Text) :
    head.cursor = some next ∨ next ∈ head.noted ↔ some next ∈ head.cursor :: head.requests := by
  rw [h.mem_noted, List.mem_cons, eq_comm, or_iff_right_of_imp Or.inl]

/-- Going on to a new cursor requests no cursor twice. -/
theorem Fresh.advance (instruments : Instruments) {next : Text}
    (hNew : some next ∉ head.cursor :: head.requests) : (head.advance instruments next).Fresh :=
  ⟨h.mem_noted, List.nodup_cons.mpr ⟨hNew, h.distinct⟩⟩

end BybitHead

section Fetching

variable [Unicode] [RustDecimal]

/-- One round: the listing is complete, or there is a next page to ask for. -/
def bybitRound (server : BybitServer) (head : BybitHead) :
    Except CatalogError (Instruments ⊕ BybitHead) := do
  let requestedCursors ← noteCursor head.requestedCursors head.cursor
  let body ← server (head.cursor :: head.requests)
  let page ← parseBybitPage body
  let instruments ← insertPage head.instruments page.instruments
  let next := page.nextPageCursor
  if next.isEmpty then
    .ok (.inl instruments)
  else if head.cursor = some next ∨ next ∈ requestedCursors then
    .error (.repeatedCursor .bybit next)
  else
    .ok (.inr ⟨instruments, some next, requestedCursors, head.cursor :: head.requests⟩)

/-- The heads of the rounds that the loop gets to. -/
def bybitHeads (server : BybitServer) : Nat → BybitHead → List BybitHead
  | 0, _ => []
  | rounds + 1, head =>
    head :: match bybitRound server head with
      | .ok (.inr next) => bybitHeads server rounds next
      | _ => []

/-- The loop from a head on. -/
def fetchFrom (server : BybitServer) (rounds : Nat) (head : BybitHead) :
    Except CatalogError Instruments :=
  fetchBybitPages server rounds head.instruments head.cursor head.requestedCursors head.requests

/-- The loop is its rounds. -/
theorem fetchFrom_succ (server : BybitServer) (rounds : Nat) (head : BybitHead) :
    fetchFrom server (rounds + 1) head =
      match bybitRound server head with
      | .error error => .error error
      | .ok (.inl instruments) => .ok instruments
      | .ok (.inr next) => fetchFrom server rounds next := by
  rw [fetchFrom, fetchBybitPages, bybitRound]
  -- the round fails at the first of its steps that does
  cases noteCursor head.requestedCursors head.cursor with
  | error error => rfl
  | ok requestedCursors =>
    rw [ok_bind, ok_bind]
    cases server (head.cursor :: head.requests) with
    | error error => rfl
    | ok body =>
      rw [ok_bind, ok_bind]
      cases parseBybitPage body with
      | error error => rfl
      | ok page =>
        rw [ok_bind, ok_bind]
        cases insertPage head.instruments page.instruments with
        | error error => rfl
        | ok instruments =>
          rw [ok_bind, ok_bind]
          dsimp only
          split
          · rfl
          · split <;> rfl

/-! ## Pages -/

/-- A live linear perpetual. -/
def BybitInstrument.IsLive (item : BybitInstrument) : Prop :=
  item.contractType = "LinearPerpetual".toList ∧ item.status = "Trading".toList

instance (item : BybitInstrument) : Decidable item.IsLive := inferInstanceAs (Decidable (_ ∧ _))

/-- The instruments of a page, in the order of its list. -/
def admitted (result : BybitResult) : List Instrument :=
  result.list.filterMap fun item => (bybitInstrument item).toOption.join

/-- The request is answered by a body that parses as a page, of which `result`
is the content. -/
def Serves (server : BybitServer) (requests : List (Option Text)) (result : BybitResult) : Prop :=
  ∃ envelope page, server requests = .ok (.ok envelope) ∧ envelope.result = some result ∧
    parseBybitPage (.ok envelope) = .ok page

/-- An item that is passed over is not live. -/
theorem bybitInstrument_none {item : BybitInstrument} (h : bybitInstrument item = .ok none) :
    ¬ item.IsLive := by
  unfold bybitInstrument at h
  split at h
  · next hNot =>
    rintro ⟨hType, hStatus⟩
    exact hNot.elim (· hType) (· hStatus)
  · iterate 11 obtain ⟨_, -, h⟩ := bind_eq_ok.mp h
    cases h

/-- An item that is admitted is live, under its own symbol. -/
theorem bybitInstrument_some {item : BybitInstrument} {instrument : Instrument}
    (h : bybitInstrument item = .ok (some instrument)) :
    item.IsLive ∧ instrument.symbol = item.symbol := by
  unfold bybitInstrument at h
  split at h
  · cases h
  · next hLive =>
    rw [not_or, not_not, not_not] at hLive
    obtain ⟨symbol, hSymbol, h⟩ := bind_eq_ok.mp h
    iterate 10 obtain ⟨_, -, h⟩ := bind_eq_ok.mp h
    obtain rfl := Option.some.inj (Except.ok.inj h)
    exact ⟨hLive, (exactSymbol_eq_ok hSymbol).1⟩

/-- A page has every live item of its list, and nothing else. -/
theorem parseBybitPage_eq_ok {body : Except Text BybitEnvelope} {page : BybitPage}
    (h : parseBybitPage body = .ok page) :
    ∃ envelope result, body = .ok envelope ∧ envelope.result = some result ∧
      page = ⟨admitted result, result.nextPageCursor⟩ ∧
      ∀ item ∈ result.list, ∃ found, bybitInstrument item = .ok found := by
  unfold parseBybitPage at h
  obtain ⟨envelope, hBody, h⟩ := bind_eq_ok.mp h
  split at h
  · cases h
  · obtain ⟨result, hResult, h⟩ := bind_eq_ok.mp h
    split at h
    · cases h
    · obtain ⟨instruments, hItems, h⟩ := bind_eq_ok.mp h
      obtain rfl := Except.ok.inj h
      refine ⟨envelope, result, ?_, ?_, ?_, fun item hItem => ?_⟩
      · -- the body was decoded
        cases body with
        | error error => cases hBody
        | ok body => rw [← Except.ok.inj hBody]
      · cases hFound : envelope.result with
        | none => rw [hFound] at hResult; cases hResult
        | some found => rw [hFound] at hResult; rw [Except.ok.inj hResult]
      · -- once no item fails, those that are admitted are the ones that were decoded
        have hAdmitted : admitted result = instruments.reduceOption := by
          calc admitted result
              = (result.list.map bybitInstrument).filterMap fun found => found.toOption.join := by
                rw [List.filterMap_map, admitted]
                rfl
            _ = (instruments.map .ok).filterMap fun found : Except CatalogError _ =>
                  found.toOption.join := by rw [map_of_mapM_eq_ok hItems]
            _ = instruments.reduceOption := by
                rw [List.filterMap_map]
                rfl
        rw [hAdmitted]
      · obtain ⟨found, -, hFound⟩ := result_of_mapM_eq_ok hItems hItem
        exact ⟨found, hFound⟩

/-- What a served request gives the loop. -/
theorem Serves.page {server : BybitServer} {requests : List (Option Text)} {result : BybitResult}
    (h : Serves server requests result) :
    ∃ body, server requests = .ok body ∧
      parseBybitPage body = .ok ⟨admitted result, result.nextPageCursor⟩ := by
  obtain ⟨envelope, page, hServer, hResult, hPage⟩ := h
  obtain ⟨_, result', hBody, hResult', rfl, -⟩ := parseBybitPage_eq_ok hPage
  obtain rfl := Except.ok.inj hBody
  obtain rfl := Option.some.inj (hResult.symm.trans hResult')
  exact ⟨_, hServer, hPage⟩

/-- Every live item of a served page is an instrument. -/
theorem Serves.items {server : BybitServer} {requests : List (Option Text)} {result : BybitResult}
    (h : Serves server requests result) :
    ∀ item ∈ result.list, ∃ found, bybitInstrument item = .ok found := by
  obtain ⟨envelope, page, -, hResult, hPage⟩ := h
  obtain ⟨_, result', hBody, hResult', -, hItems⟩ := parseBybitPage_eq_ok hPage
  obtain rfl := Except.ok.inj hBody
  obtain rfl := Option.some.inj (hResult.symm.trans hResult')
  exact hItems

/-! ## Insertion -/

omit [Unicode] [RustDecimal] in
/-- A page is inserted item by item. -/
theorem insertPage_cons (instruments : Instruments) (instrument : Instrument)
    (page : List Instrument) :
    insertPage instruments (instrument :: page) =
      insertUnique instruments instrument >>= fun inserted => insertPage inserted page := rfl

omit [Unicode] [RustDecimal] in
/-- Two pages are inserted one after the other. -/
theorem insertPage_append (instruments : Instruments) (first second : List Instrument) :
    insertPage instruments (first ++ second) =
      insertPage instruments first >>= fun inserted => insertPage inserted second := by
  induction first generalizing instruments with
  | nil => rfl
  | cons instrument first ih =>
    rw [List.cons_append, insertPage_cons, insertPage_cons]
    cases insertUnique instruments instrument with
    | error error => rfl
    | ok inserted => exact ih inserted

omit [Unicode] [RustDecimal] in
/-- A symbol that is new joins the others. -/
theorem lookup_insert_new {instruments : Instruments} {instrument : Instrument}
    (hNew : instrument.symbol ∉ instruments) (symbol : Text) (found : Instrument) :
    (instruments.insert instrument.symbol instrument).lookup symbol = some found ↔
      (found = instrument ∧ found.symbol = symbol) ∨ instruments.lookup symbol = some found := by
  rw [lookup_insert_ite]
  split
  · next hSymbol =>
    subst hSymbol
    -- under its symbol the new instrument is alone
    rw [Finmap.lookup_eq_none.mpr hNew, Option.some.injEq]
    constructor
    · rintro rfl
      exact Or.inl ⟨rfl, rfl⟩
    · rintro (⟨rfl, -⟩ | hNone)
      · rfl
      · cases hNone
  · next hSymbol =>
    refine ⟨Or.inr, ?_⟩
    rintro (⟨rfl, hEq⟩ | hFound)
    · exact absurd hEq.symm hSymbol
    · exact hFound

omit [Unicode] [RustDecimal] in
/-- A page is inserted exactly when it brings new symbols only, each once. -/
theorem insertPage_eq_ok {instruments instruments' : Instruments} {page : List Instrument} :
    insertPage instruments page = .ok instruments' ↔
      (page.map (·.symbol)).Nodup ∧ (∀ symbol ∈ page.map (·.symbol), symbol ∉ instruments) ∧
        ∀ symbol instrument, instruments'.lookup symbol = some instrument ↔
          (instrument ∈ page ∧ instrument.symbol = symbol) ∨
            instruments.lookup symbol = some instrument := by
  induction page generalizing instruments with
  | nil =>
    have hSame : insertPage instruments [] = .ok instruments := rfl
    rw [hSame, Except.ok.injEq]
    simp only [List.map_nil, List.nodup_nil, List.not_mem_nil, false_and, false_or, true_and,
      IsEmpty.forall_iff, implies_true]
    constructor
    · rintro rfl symbol instrument
      exact Iff.rfl
    · intro hLookup
      refine Finmap.ext_lookup fun symbol => Option.ext fun instrument => ?_
      exact (hLookup symbol instrument).symm
  | cons instrument page ih =>
    rw [insertPage_cons, insertUnique]
    split
    · next hOld =>
      rw [error_bind]
      constructor
      · nofun
      · rintro ⟨-, hNew, -⟩
        exact absurd hOld (hNew _ (by simp))
    · next hNew =>
      -- looking up after the first insertion, in terms of the whole page
      have hLookups : ∀ symbol found,
          (found ∈ page ∧ found.symbol = symbol ∨
            (instruments.insert instrument.symbol instrument).lookup symbol = some found) ↔
          (found ∈ instrument :: page ∧ found.symbol = symbol ∨
            instruments.lookup symbol = some found) := by
        intro symbol found
        rw [lookup_insert_new hNew, List.mem_cons, or_and_right]
        tauto
      simp only [ok_bind, ih, hLookups, List.map_cons, List.nodup_cons, List.forall_mem_cons,
        Finmap.mem_insert, not_or]
      constructor
      · rintro ⟨hNodup, hFresh, hFound⟩
        exact ⟨⟨fun hMem => (hFresh _ hMem).1 rfl, hNodup⟩,
          ⟨hNew, fun symbol hMem => (hFresh symbol hMem).2⟩, hFound⟩
      · rintro ⟨⟨hFirst, hNodup⟩, ⟨-, hFresh⟩, hFound⟩
        refine ⟨hNodup, fun symbol hMem => ⟨?_, hFresh symbol hMem⟩, hFound⟩
        rintro rfl
        exact hFirst hMem

/-! ## The walk -/

/-- Following `nextPageCursor` from a request on, with nothing checked: the
pages up to the first one with an empty cursor. -/
inductive Follows (server : BybitServer) : List (Option Text) → List BybitResult → Prop where
  | last {requests : List (Option Text)} {result : BybitResult}
      (hServes : Serves server requests result) (hLast : result.nextPageCursor = []) :
      Follows server requests [result]
  | next {requests : List (Option Text)} {result : BybitResult} {results : List BybitResult}
      (hServes : Serves server requests result) (hNext : result.nextPageCursor ≠ [])
      (hRest : Follows server (some result.nextPageCursor :: requests) results) :
      Follows server requests (result :: results)

/-- A round of a fresh head is a page that is served, inserted and looked at
for its cursor. -/
theorem bybitRound_served {server : BybitServer} {head : BybitHead} (h : head.Fresh)
    {result : BybitResult} (hServes : Serves server (head.cursor :: head.requests) result) :
    bybitRound server head =
      insertPage head.instruments (admitted result) >>= fun instruments =>
        if result.nextPageCursor = [] then .ok (.inl instruments)
        else if some result.nextPageCursor ∈ head.cursor :: head.requests then
          .error (.repeatedCursor .bybit result.nextPageCursor)
        else .ok (.inr (head.advance instruments result.nextPageCursor)) := by
  obtain ⟨body, hServer, hPage⟩ := hServes.page
  rw [bybitRound, h.noteCursor_eq, ok_bind, hServer, ok_bind, hPage, ok_bind]
  simp only [h.repeated_iff, List.isEmpty_iff]
  rfl

/-- A round that succeeds was served a page. -/
theorem serves_of_bybitRound {server : BybitServer} {head : BybitHead}
    {outcome : Instruments ⊕ BybitHead} (hRound : bybitRound server head = .ok outcome) :
    ∃ result, Serves server (head.cursor :: head.requests) result := by
  unfold bybitRound at hRound
  obtain ⟨_, -, hRound⟩ := bind_eq_ok.mp hRound
  obtain ⟨body, hServer, hRound⟩ := bind_eq_ok.mp hRound
  obtain ⟨page, hPage, -⟩ := bind_eq_ok.mp hRound
  obtain ⟨envelope, result, rfl, hResult, -, -⟩ := parseBybitPage_eq_ok hPage
  exact ⟨result, envelope, page, hServer, hResult, hPage⟩

/-- A round that ends the listing, and one that goes on. -/
theorem bybitRound_eq_inl {server : BybitServer} {head : BybitHead} (h : head.Fresh)
    {instruments : Instruments} :
    bybitRound server head = .ok (.inl instruments) ↔
      ∃ result, Serves server (head.cursor :: head.requests) result ∧
        result.nextPageCursor = [] ∧
        insertPage head.instruments (admitted result) = .ok instruments := by
  constructor
  · intro hRound
    obtain ⟨result, hServes⟩ := serves_of_bybitRound hRound
    rw [bybitRound_served h hServes] at hRound
    obtain ⟨inserted, hInsert, hRound⟩ := bind_eq_ok.mp hRound
    split at hRound
    · -- the listing ends with a page that names no next one
      next hLast =>
      obtain rfl := Sum.inl.inj (Except.ok.inj hRound)
      exact ⟨result, hServes, hLast, hInsert⟩
    · split at hRound <;> cases hRound
  · rintro ⟨result, hServes, hLast, hInsert⟩
    rw [bybitRound_served h hServes, hInsert, ok_bind, if_pos hLast]

/-- When a round goes on: the page has a new cursor, and its items are new too. -/
theorem bybitRound_eq_inr {server : BybitServer} {head next : BybitHead} (h : head.Fresh) :
    bybitRound server head = .ok (.inr next) ↔
      ∃ result instruments, Serves server (head.cursor :: head.requests) result ∧
        result.nextPageCursor ≠ [] ∧
        some result.nextPageCursor ∉ head.cursor :: head.requests ∧
        insertPage head.instruments (admitted result) = .ok instruments ∧
        next = head.advance instruments result.nextPageCursor := by
  constructor
  · intro hRound
    obtain ⟨result, hServes⟩ := serves_of_bybitRound hRound
    rw [bybitRound_served h hServes] at hRound
    obtain ⟨inserted, hInsert, hRound⟩ := bind_eq_ok.mp hRound
    split at hRound
    · cases hRound
    · next hMore =>
      split at hRound
      · cases hRound
      · -- the next page is one that has not been asked for
        next hNew =>
        exact ⟨result, inserted, hServes, hMore, hNew, hInsert,
          (Sum.inr.inj (Except.ok.inj hRound)).symm⟩
  · rintro ⟨result, instruments, hServes, hMore, hNew, hInsert, rfl⟩
    rw [bybitRound_served h hServes, hInsert, ok_bind, if_neg hMore, if_neg hNew]

/-- The loop from a fresh head succeeds exactly when the walk from there ends
within the rounds left, returns no cursor twice and none asked for before, and
what it sees can be inserted. -/
theorem fetchFrom_eq_ok {server : BybitServer} {rounds : Nat} {head : BybitHead} (h : head.Fresh)
    {instruments : Instruments} :
    fetchFrom server rounds head = .ok instruments ↔
      ∃ results, Follows server (head.cursor :: head.requests) results ∧
        results.length ≤ rounds ∧ (results.map (·.nextPageCursor)).Nodup ∧
        (∀ result ∈ results, result.nextPageCursor ≠ [] →
          some result.nextPageCursor ∉ head.cursor :: head.requests) ∧
        insertPage head.instruments (results.flatMap admitted) = .ok instruments := by
  induction rounds generalizing head with
  | zero =>
    constructor
    · nofun
    · rintro ⟨results, hFollows, hLength, -⟩
      cases hFollows with
      | last => simp at hLength
      | next => simp at hLength
  | succ rounds ih =>
    rw [fetchFrom_succ]
    constructor
    · intro hFetch
      split at hFetch
      · cases hFetch
      · next found hRound =>
        obtain rfl := Except.ok.inj hFetch
        obtain ⟨result, hServes, hLast, hInsert⟩ := (bybitRound_eq_inl h).mp hRound
        refine ⟨[result], .last hServes hLast, by simp, by simp, ?_, by simpa using hInsert⟩
        intro other hOther hMore
        rw [List.mem_singleton.mp hOther] at hMore
        exact absurd hLast hMore
      · next next hRound =>
        obtain ⟨result, inserted, hServes, hMore, hNew, hInsert, rfl⟩ :=
          (bybitRound_eq_inr h).mp hRound
        obtain ⟨results, hFollows, hLength, hNodup, hFresh, hRest⟩ :=
          (ih (h.advance inserted hNew)).mp hFetch
        -- the cursor of this page is new, and none of the later ones repeats it
        refine ⟨result :: results, .next hServes hMore hFollows, ?_, ?_, ?_, ?_⟩
        · rw [List.length_cons]
          omega
        · refine List.nodup_cons.mpr ⟨fun hMem => ?_, hNodup⟩
          obtain ⟨other, hOther, hEq⟩ := List.mem_map.mp hMem
          refine hFresh other hOther (hEq ▸ hMore) ?_
          rw [hEq]
          exact List.mem_cons_self
        · intro other hOther hOtherMore
          rcases List.mem_cons.mp hOther with rfl | hOther
          · exact hNew
          · exact fun hMem => hFresh other hOther hOtherMore (List.mem_cons_of_mem _ hMem)
        · rw [List.flatMap_cons, insertPage_append, hInsert]
          exact hRest
    · rintro ⟨results, hFollows, hLength, hNodup, hFresh, hInsert⟩
      cases hFollows with
      | @last _ result hServes hLast =>
        rw [List.flatMap_cons, List.flatMap_nil, List.append_nil] at hInsert
        rw [(bybitRound_eq_inl h).mpr ⟨result, hServes, hLast, hInsert⟩]
      | @next _ result results hServes hMore hRest =>
        rw [List.flatMap_cons, insertPage_append] at hInsert
        obtain ⟨inserted, hFirst, hInsert⟩ := bind_eq_ok.mp hInsert
        -- a walk whose cursors are new gets past the check of this round
        have hNew := hFresh result List.mem_cons_self hMore
        rw [(bybitRound_eq_inr h).mpr ⟨result, inserted, hServes, hMore, hNew, hFirst, rfl⟩]
        refine (ih (h.advance inserted hNew)).mpr
          ⟨results, hRest, by simpa using hLength, (List.nodup_cons.mp hNodup).2, ?_, hInsert⟩
        intro other hOther hOtherMore hMem
        rcases List.mem_cons.mp hMem with hEq | hMem
        · exact (List.nodup_cons.mp hNodup).1
            (List.mem_map.mpr ⟨other, hOther, Option.some.inj hEq⟩)
        · exact hFresh other (List.mem_cons_of_mem _ hOther) hOtherMore hMem

/-! ## No cursor twice -/

/-- Whatever the server answers, every round that the loop gets to asks for
something it has not asked for before. -/
theorem heads_fresh (server : BybitServer) (rounds : Nat) {head : BybitHead} (h : head.Fresh) :
    ∀ reached ∈ bybitHeads server rounds head, reached.Fresh := by
  induction rounds generalizing head with
  | zero => nofun
  | succ rounds ih =>
    intro reached hReached
    rw [bybitHeads, List.mem_cons] at hReached
    rcases hReached with rfl | hReached
    · exact h
    · split at hReached
      · next next hRound =>
        obtain ⟨_, inserted, -, -, hNew, -, rfl⟩ := (bybitRound_eq_inr h).mp hRound
        exact ih (h.advance inserted hNew) reached hReached
      · cases hReached

/-- A walk takes as many pages as it has rounds at most. -/
theorem heads_length (server : BybitServer) (rounds : Nat) (head : BybitHead) :
    (bybitHeads server rounds head).length ≤ rounds := by
  induction rounds generalizing head with
  | zero => exact Nat.le_refl 0
  | succ rounds ih =>
    rw [bybitHeads, List.length_cons]
    refine Nat.succ_le_succ ?_
    split
    · exact ih _
    · exact Nat.zero_le _

/-- The requests of the loop are different from each other and from the ones
before. -/
theorem heads_nodup (server : BybitServer) (rounds : Nat) {head : BybitHead} (h : head.Fresh) :
    ((bybitHeads server rounds head).map (·.cursor)).Nodup ∧
      ∀ reached ∈ bybitHeads server rounds head, reached.cursor ∉ head.requests := by
  induction rounds generalizing head with
  | zero => exact ⟨List.nodup_nil, nofun⟩
  | succ rounds ih =>
    have hFirst : head.cursor ∉ head.requests := (List.nodup_cons.mp h.distinct).1
    rw [bybitHeads]
    split
    · next next hRound =>
      obtain ⟨_, inserted, -, -, hNew, -, rfl⟩ := (bybitRound_eq_inr h).mp hRound
      obtain ⟨hNodup, hApart⟩ := ih (h.advance inserted hNew)
      refine ⟨List.nodup_cons.mpr ⟨fun hMem => ?_, hNodup⟩, fun reached hReached => ?_⟩
      · -- the later heads have asked for this page already
        obtain ⟨reached, hReached, hEq⟩ := List.mem_map.mp hMem
        exact hApart reached hReached (hEq ▸ List.mem_cons_self)
      · rcases List.mem_cons.mp hReached with rfl | hReached
        · exact hFirst
        · exact fun hMem => hApart reached hReached (List.mem_cons_of_mem _ hMem)
    · -- the listing ends here
      refine ⟨List.nodup_singleton _, fun reached hReached => ?_⟩
      rw [List.mem_singleton.mp hReached]
      exact hFirst

/-! ## The listing -/

/-- The live linear perpetuals of the pages, in order. -/
def liveItems (results : List BybitResult) : List BybitInstrument :=
  results.flatMap fun result => result.list.filter fun item => item.IsLive

/-- Every page of a walk was served whole. -/
theorem Follows.serves {server : BybitServer} {requests : List (Option Text)}
    {results : List BybitResult} (h : Follows server requests results) :
    ∀ result ∈ results, ∀ item ∈ result.list, ∃ found, bybitInstrument item = .ok found := by
  induction h with
  | last hServes _ =>
    intro result hResult
    rw [List.mem_singleton.mp hResult]
    exact hServes.items
  | next hServes _ _ ih =>
    intro result hResult
    rcases List.mem_cons.mp hResult with rfl | hResult
    · exact hServes.items
    · exact ih result hResult

/-- The instruments of a page that parses have the symbols of its live items. -/
theorem admitted_symbols {result : BybitResult}
    (hItems : ∀ item ∈ result.list, ∃ found, bybitInstrument item = .ok found) :
    (admitted result).map (·.symbol) =
      (result.list.filter fun item => item.IsLive).map (·.symbol) := by
  rw [admitted]
  generalize result.list = items at hItems
  induction items with
  | nil => rfl
  | cons item items ih =>
    have hRest := ih fun other hOther => hItems other (List.mem_cons_of_mem _ hOther)
    obtain ⟨found, hFound⟩ := hItems item List.mem_cons_self
    cases found with
    -- an item that is not live is left out on both sides
    | none =>
      rw [List.filterMap_cons_none (by rw [hFound]; rfl),
        List.filter_cons_of_neg (by simpa using bybitInstrument_none hFound), hRest]
    | some instrument =>
      obtain ⟨hLive, hSymbol⟩ := bybitInstrument_some hFound
      rw [List.filterMap_cons_some (by rw [hFound]; rfl),
        List.filter_cons_of_pos (by simpa using hLive), List.map_cons, List.map_cons, hRest,
        hSymbol]

/-- What a page lists is what is admitted of its items. -/
theorem mem_admitted_iff {result : BybitResult} {instrument : Instrument} :
    instrument ∈ admitted result ↔
      ∃ item ∈ result.list, bybitInstrument item = .ok (some instrument) := by
  rw [admitted, List.mem_filterMap]
  refine exists_congr fun item => and_congr_right fun _ => ?_
  cases bybitInstrument item with
  | error error => simp [Except.toOption]
  | ok found => simp [Except.toOption]

/-- A listing holds an instrument under a symbol exactly when a live item of
that symbol was admitted as it. -/
theorem mem_listing_iff {results : List BybitResult} {symbol : Text} {instrument : Instrument} :
    instrument ∈ results.flatMap admitted ∧ instrument.symbol = symbol ↔
      ∃ item ∈ liveItems results, item.symbol = symbol ∧
        bybitInstrument item = .ok (some instrument) := by
  simp only [liveItems, List.mem_flatMap, List.mem_filter, mem_admitted_iff, decide_eq_true_eq]
  constructor
  · rintro ⟨⟨result, hResult, item, hItem, hFound⟩, hSymbol⟩
    obtain ⟨hLive, hSame⟩ := bybitInstrument_some hFound
    exact ⟨item, ⟨result, hResult, hItem, hLive⟩, hSame.symm.trans hSymbol, hFound⟩
  · rintro ⟨item, ⟨result, hResult, hItem, -⟩, hSymbol, hFound⟩
    exact ⟨⟨result, hResult, item, hItem, hFound⟩, (bybitInstrument_some hFound).2.trans hSymbol⟩

/-- The symbols of a listing are those of the live items, in their order. -/
theorem listing_symbols {results : List BybitResult}
    (hItems : ∀ result ∈ results, ∀ item ∈ result.list, ∃ found, bybitInstrument item = .ok found) :
    (results.flatMap admitted).map (·.symbol) = (liveItems results).map (·.symbol) := by
  rw [liveItems, List.map_flatMap, List.map_flatMap]
  exact List.flatMap_congr fun result hResult => admitted_symbols (hItems result hResult)

/-- **The Bybit listing.** For every server, the loop asks for at most 10,000
pages and for none twice, so that the check at the head of a round never fires.
It succeeds exactly when following `nextPageCursor` ends within 10,000 pages
that parse, with every returned cursor new and no live symbol twice; the
listing is then the live linear perpetuals of these pages, by symbol. -/
theorem fetch_bybit_walk (server : BybitServer) :
    let heads := bybitHeads server bybitMaxPages BybitHead.start
    heads.length ≤ bybitMaxPages ∧ (heads.map (·.cursor)).Nodup ∧
    (∀ head ∈ heads, ∀ cursor, head.cursor = some cursor → cursor ∉ head.requestedCursors) ∧
    ∀ instruments, fetchBybit server = .ok instruments ↔
      ∃ results, Follows server [none] results ∧ results.length ≤ bybitMaxPages ∧
        (results.map (·.nextPageCursor)).Nodup ∧ ((liveItems results).map (·.symbol)).Nodup ∧
        ∀ symbol instrument, instruments.lookup symbol = some instrument ↔
          ∃ item ∈ liveItems results, item.symbol = symbol ∧
            bybitInstrument item = .ok (some instrument) := by
  intro heads
  refine ⟨heads_length server _ _, (heads_nodup server _ BybitHead.start_fresh).1, ?_, ?_⟩
  · intro head hHead cursor hCursor
    exact (heads_fresh server _ BybitHead.start_fresh head hHead).unnoted hCursor
  · intro instruments
    have hFetch : fetchBybit server = fetchFrom server bybitMaxPages BybitHead.start := rfl
    -- nothing is listed before the first page
    have hNoneOld : ∀ (symbol : Text) (instrument : Instrument),
        BybitHead.start.instruments.lookup symbol = some instrument ↔ False := by
      simp [BybitHead.start]
    rw [hFetch, fetchFrom_eq_ok BybitHead.start_fresh]
    refine exists_congr fun results => and_congr_right fun hFollows => and_congr_right fun _ =>
      and_congr_right fun _ => ?_
    rw [insertPage_eq_ok, listing_symbols hFollows.serves]
    simp only [mem_listing_iff, hNoneOld, or_false]
    constructor
    · rintro ⟨-, hNodup, -, hLookup⟩
      exact ⟨hNodup, hLookup⟩
    · rintro ⟨hNodup, hLookup⟩
      refine ⟨fun result _ hMore => ?_, hNodup, fun symbol _ => ?_, hLookup⟩
      · simp [BybitHead.start]
      · exact Finmap.notMem_empty

end Fetching

end MarketStreamGateway
