import MarketStreamGateway.HubDelivery
import MarketStreamGateway.Session

/-!
# Market Stream Gateway — queue overruns

A client whose queue overran is meant to receive nothing more: `route_event`
empties its key set and leaves the rest to the session's lag branch. But the
client keeps its route, and its session may serve a pending command before the
lag branch; the update that ends the command puts the client back into the
index.

`LagSafe` excludes exactly that update. Under it the emptied key set stays
empty (`LagInvariant`), an overrun feed takes nothing more, and what a client
was sent is a gap-free prefix of what it is owed.

Main results:
* `overrun_is_final` — over every run whose steps are lag-safe.
* `overrun_resumes` — a run with one other step, in which a client receives
  an event published after a dropped one.
-/

namespace MarketStreamGateway

open Lib

/-! ## The hub between an overrun and the next update -/

namespace GatewayHub

/-- The lag counter of a client's current registration. -/
def lagOf (h : GatewayHub) (client : ClientId) : Nat :=
  match h.routes.handle client with
  | some feed => (h.feeds feed).lagged
  | none => 0

/-- The operation gives no keys to a client whose queue has overrun. -/
def LagSafe (h : GatewayHub) : HubOp → Prop
  | .update client subscriptions => subscriptions = ∅ ∨ h.lagOf client = 0
  | _ => True

instance (h : GatewayHub) : ∀ op, Decidable (h.LagSafe op)
  | .update client subscriptions =>
    inferInstanceAs (Decidable (subscriptions = ∅ ∨ h.lagOf client = 0))
  | .register _ | .remove _ | .number _ | .route | .receive _ | .dropReceiver _ => isTrue trivial

end GatewayHub

/-- An overrun client has no keys, and a feed not yet handed out has no lag. -/
structure LagInvariant (h : GatewayHub) : Prop where
  quiet : ∀ c feed, h.routes.handle c = some feed → 0 < (h.feeds feed).lagged →
    h.routes.subscribed c = ∅
  blank : ∀ feed, h.nextFeed ≤ feed → (h.feeds feed).lagged = 0

/-- A new hub has no clients and no lag. -/
theorem lagInvariant_init (epoch : Uuid) (capacity maxClients : Nat) :
    LagInvariant (.withClientLimit epoch capacity maxClients) := by
  refine ⟨fun c feed hc => ?_, fun feed _ => rfl⟩
  simp [GatewayHub.withClientLimit, RouteState.handle] at hc

section Steps

variable {h : GatewayHub}

/-- A change of a channel that keeps its lag keeps the invariant. -/
theorem lagInvariant_mapFeed (hLag : LagInvariant h) (target : FeedId) {f : Feed → Feed}
    (hLagged : ∀ x, (f x).lagged = x.lagged) : LagInvariant (h.mapFeed target f) := by
  have hSame : ∀ feed, ((h.mapFeed target f).feeds feed).lagged = (h.feeds feed).lagged := by
    intro feed
    rw [mapFeed_feeds]
    split
    · exact hLagged _
    · rfl
  refine ⟨fun c feed hc hPos => ?_, fun feed hNext => ?_⟩
  · rw [hSame] at hPos
    exact hLag.quiet c feed hc hPos
  · rw [hSame]
    exact hLag.blank feed hNext

/-- Routing an event: a client that overruns loses its keys in the same operation. -/
theorem lagInvariant_route (hInv : HubInvariant h) (hLag : LagInvariant h) (event : MarketEvent) :
    LagInvariant { h.routeEvent event with inFlight := none } := by
  have hRouted := routeEvent_spec hInv.routes hInv.distinct event
  have hNext : (h.routeEvent event).nextFeed = h.nextFeed := rfl
  generalize h.routeEvent event = h' at hRouted hNext
  refine ⟨fun c feed hc hPos => ?_, fun feed hFeed => ?_⟩
  · dsimp only at hc hPos ⊢
    rw [hRouted.subscribed]
    split
    · rfl
    next hKept =>
    -- a route that is there after the event was there before
    have hOld : h.routes.handle c = some feed := by
      rw [hRouted.handle] at hc
      split at hc
      · simp at hc
      · exact hc
    refine hLag.quiet c feed hOld ?_
    by_cases hKey : event.subscriptionKey ∈ h.routes.subscribed c
    · -- the event was accepted, or the key set would be empty now
      have hTaken : (h.feeds feed).refusal event = none := by
        rw [← refusal_of_handle hOld]
        exact not_not.mp fun hWhy => hKept ⟨hKey, hWhy⟩
      rwa [hRouted.offered c feed hKey hOld, (Feed.offer_of_none hTaken).2.1] at hPos
    · rwa [hRouted.untouched feed fun c' hKey' hc' =>
        hKey (hInv.distinct c' c feed hc' hOld ▸ hKey')] at hPos
  · dsimp only at hFeed ⊢
    rw [hNext] at hFeed
    rw [hRouted.untouched feed fun c _ hc => absurd (hInv.allocated c feed hc) (not_lt.mpr hFeed)]
    exact hLag.blank feed hFeed

/-- A lag-safe operation gives no overrun client its keys back. -/
theorem lagInvariant_step (hInv : HubInvariant h) (hLag : LagInvariant h) {op : HubOp}
    (hSafe : h.LagSafe op) : LagInvariant (h.step op) := by
  cases op with
  | register client =>
    rw [GatewayHub.step]
    rcases tryRegisterClient_cases hInv.routes client with hFull | ⟨-, hReg⟩
    · rw [hFull]
      exact hLag
    generalize (h.tryRegisterClient client).2 = h' at hReg
    refine ⟨fun c feed hc hPos => ?_, fun feed hFeed => ?_⟩
    · rw [hReg.subscribed]
      rw [hReg.handle] at hc
      split
      · rfl
      · next hNe =>
        rw [if_neg hNe] at hc
        -- the new client has a new channel, without a lag
        have hOther : feed ≠ h.nextFeed := (hInv.allocated c feed hc).ne
        rw [hReg.feeds, Function.update_of_ne hOther] at hPos
        exact hLag.quiet c feed hc hPos
    · rw [hReg.nextFeed] at hFeed
      have hOther : feed ≠ h.nextFeed := (Nat.lt_of_succ_le hFeed).ne'
      rw [hReg.feeds, Function.update_of_ne hOther]
      exact hLag.blank feed (Nat.le_of_succ_le hFeed)
  | update client subscriptions =>
    obtain ⟨-, hHandle, hSub⟩ := routeInvariant_update hInv.routes client subscriptions
    obtain ⟨hFeeds, hNext, -⟩ := updateClientSubscriptions_frame h client subscriptions
    rw [GatewayHub.step]
    refine ⟨fun c feed hc hPos => ?_, fun feed hFeed => ?_⟩
    · rw [hHandle] at hc
      rw [hFeeds] at hPos
      rw [hSub]
      split
      · next hClient =>
        obtain ⟨rfl, -⟩ := hClient
        -- the step is safe: the set becomes empty, or the channel has lost nothing
        rcases hSafe with hEmpty | hZero
        · exact hEmpty
        · rw [GatewayHub.lagOf, hc] at hZero
          exact absurd hZero hPos.ne'
      · exact hLag.quiet c feed hc hPos
    · rw [hNext] at hFeed
      rw [hFeeds]
      exact hLag.blank feed hFeed
  | remove client =>
    refine ⟨fun c feed hc hPos => ?_, hLag.blank⟩
    rw [GatewayHub.step, GatewayHub.removeClient] at hc ⊢
    rw [RouteState.handle_removeRoute] at hc
    rw [RouteState.subscribed_removeRoute]
    split
    · rfl
    · next hNe =>
      rw [if_neg fun hBoth => hNe hBoth.1] at hc
      exact hLag.quiet c feed hc hPos
  | number event =>
    simp only [GatewayHub.step, GatewayHub.numberEvent]
    split
    · exact hLag
    · split <;> exact ⟨hLag.quiet, hLag.blank⟩
  | route =>
    cases hFlight : h.inFlight with
    | none =>
      simp only [GatewayHub.step, hFlight]
      exact hLag
    | some event =>
      simp only [GatewayHub.step, hFlight]
      exact lagInvariant_route hInv hLag event
  | receive target => exact lagInvariant_mapFeed hLag target Feed.receive_lagged
  | dropReceiver target => exact lagInvariant_mapFeed hLag target fun _ => rfl

/-- What a step can do to what a feed took: nothing, start it afresh with a
registration, or append an event that the client holding it wants. -/
theorem enqueued_step_cases (hInv : HubInvariant h) (feed : FeedId) (op : HubOp) :
    (((h.step op).feeds feed).enqueued = (h.feeds feed).enqueued ∧
      ∀ client, .registered client feed ∉ h.observe op) ∨
    (feed = h.nextFeed ∧ ((h.step op).feeds feed).enqueued = []) ∨
    ∃ event c, h.observe op = [.published event] ∧ h.routes.handle c = some feed ∧
      event.subscriptionKey ∈ h.routes.subscribed c ∧
      ((h.step op).feeds feed).enqueued = (h.feeds feed).enqueued ++ [event] := by
  cases op with
  | register client =>
    rw [GatewayHub.step, GatewayHub.observe]
    rcases tryRegisterClient_cases hInv.routes client with hFull | ⟨hNew, hReg⟩
    · rw [hFull]
      exact Or.inl ⟨rfl, by simp⟩
    · by_cases hEq : feed = h.nextFeed
      · right; left
        rw [hReg.feeds, hEq, Function.update_self]
        exact ⟨rfl, rfl⟩
      · left
        rw [hReg.feeds, Function.update_of_ne hEq, hNew]
        exact ⟨rfl, by simp [hEq]⟩
  | update client subscriptions =>
    left
    rw [GatewayHub.step, (updateClientSubscriptions_frame h client subscriptions).1]
    exact ⟨rfl, by simp [GatewayHub.observe]⟩
  | remove client => exact Or.inl ⟨rfl, by simp [GatewayHub.observe]⟩
  | number event =>
    left
    refine ⟨?_, by simp [GatewayHub.observe]⟩
    simp only [GatewayHub.step, GatewayHub.numberEvent]
    split
    · rfl
    · split <;> rfl
  | route =>
    cases hFlight : h.inFlight with
    | none =>
      left
      simp [GatewayHub.step, GatewayHub.observe, hFlight]
    | some event =>
      have hRouted := routeEvent_spec hInv.routes hInv.distinct event
      have hStep : h.step .route = { h.routeEvent event with inFlight := none } := by
        simp only [GatewayHub.step, hFlight]
      have hSeen : h.observe .route = [.published event] := by
        simp [GatewayHub.observe, hFlight]
      rw [hStep, hSeen]
      -- the channel changes only if its holder wants the event
      by_cases hOffered : ∃ c, event.subscriptionKey ∈ h.routes.subscribed c ∧
          h.routes.handle c = some feed
      · obtain ⟨c, hKey, hc⟩ := hOffered
        rcases routeEvent_enqueued hRouted feed with hSame | hAppended
        · exact Or.inl ⟨hSame, by simp⟩
        · exact Or.inr (Or.inr ⟨event, c, rfl, hc, hKey, hAppended⟩)
      · left
        rw [hRouted.untouched feed fun c hKey hc => hOffered ⟨c, hKey, hc⟩]
        exact ⟨rfl, by simp⟩
  | receive target =>
    exact Or.inl ⟨mapFeed_enqueued Feed.receive_enqueued feed, by simp [GatewayHub.observe]⟩
  | dropReceiver target =>
    have hKept : ∀ x : Feed, x.dropReceiver.enqueued = x.enqueued := fun _ => rfl
    exact Or.inl ⟨mapFeed_enqueued hKept feed, by simp [GatewayHub.observe]⟩

/-- An overrun feed takes nothing more. -/
theorem enqueued_of_lagged (hInv : HubInvariant h) (hLag : LagInvariant h) {feed : FeedId}
    (hPos : 0 < (h.feeds feed).lagged) (op : HubOp) :
    ((h.step op).feeds feed).enqueued = (h.feeds feed).enqueued := by
  rcases enqueued_step_cases hInv feed op with ⟨hSame, -⟩ | ⟨hNew, -⟩ | ⟨event, c, -, hc, hKey, -⟩
  · exact hSame
  · exact absurd (hLag.blank feed hNew.ge) hPos.ne'
  · rw [hLag.quiet c feed hc hPos] at hKey
    exact absurd hKey (Finset.notMem_empty _)

/-- What a step can do to a feed. -/
theorem feed_step_cases (hInv : HubInvariant h) (feed : FeedId) (op : HubOp) :
    (h.step op).feeds feed = h.feeds feed ∨
    (feed = h.nextFeed ∧ (h.step op).feeds feed = .channel h.clientCapacity) ∨
    (∃ event, (h.step op).feeds feed = (h.feeds feed).offer event) ∨
    (op = .receive feed ∧ (h.step op).feeds feed = (h.feeds feed).receive) ∨
    (h.step op).feeds feed = (h.feeds feed).dropReceiver := by
  cases op with
  | register client =>
    rw [GatewayHub.step]
    rcases tryRegisterClient_cases hInv.routes client with hFull | ⟨-, hReg⟩
    · rw [hFull]
      exact Or.inl rfl
    · by_cases hEq : feed = h.nextFeed
      · right; left
        rw [hReg.feeds, hEq, Function.update_self]
        exact ⟨rfl, rfl⟩
      · left
        rw [hReg.feeds, Function.update_of_ne hEq]
  | update client subscriptions =>
    left
    rw [GatewayHub.step, (updateClientSubscriptions_frame h client subscriptions).1]
  | remove client => exact Or.inl rfl
  | number event =>
    left
    simp only [GatewayHub.step, GatewayHub.numberEvent]
    split
    · rfl
    · split <;> rfl
  | route =>
    cases hFlight : h.inFlight with
    | none =>
      left
      simp only [GatewayHub.step, hFlight]
    | some event =>
      have hRouted := routeEvent_spec hInv.routes hInv.distinct event
      simp only [GatewayHub.step, hFlight]
      -- the event is offered to the channel if its holder wants it
      by_cases hOffered : ∃ c, event.subscriptionKey ∈ h.routes.subscribed c ∧
          h.routes.handle c = some feed
      · obtain ⟨c, hKey, hc⟩ := hOffered
        exact Or.inr (Or.inr (Or.inl ⟨event, hRouted.offered c feed hKey hc⟩))
      · exact Or.inl (hRouted.untouched feed fun c hKey hc => hOffered ⟨c, hKey, hc⟩)
  | receive target =>
    rw [GatewayHub.step, mapFeed_feeds]
    by_cases hEq : feed = target
    · right; right; right; left
      rw [if_pos hEq, hEq]
      exact ⟨rfl, rfl⟩
    · rw [if_neg hEq]
      exact Or.inl rfl
  | dropReceiver target =>
    rw [GatewayHub.step, mapFeed_feeds]
    by_cases hEq : feed = target
    · rw [if_pos hEq]
      exact Or.inr (Or.inr (Or.inr (Or.inr rfl)))
    · rw [if_neg hEq]
      exact Or.inl rfl

/-- An overrun channel stays overrun. -/
theorem Feed.offer_lagged_le (f : Feed) (event : MarketEvent) :
    0 < f.lagged → 0 < (f.offer event).lagged := by
  intro hPos
  cases hWhy : f.refusal event with
  | none => rwa [(Feed.offer_of_none hWhy).2.1]
  | some error =>
    cases error with
    | full =>
      rw [Feed.offer_of_full hWhy]
      exact Feed.recordLag_pos _
    | closed => rwa [(Feed.offer_of_closed hWhy).1]

/-- An overrun feed stays overrun. -/
theorem lagged_step_pos (hInv : HubInvariant h) (hLag : LagInvariant h) {feed : FeedId}
    (hPos : 0 < (h.feeds feed).lagged) (op : HubOp) : 0 < ((h.step op).feeds feed).lagged := by
  rcases feed_step_cases hInv feed op with
    hSame | ⟨hNew, -⟩ | ⟨event, hOffer⟩ | ⟨-, hReceive⟩ | hDrop
  · rwa [hSame]
  · exact absurd (hLag.blank feed hNew.ge) hPos.ne'
  · rw [hOffer]
    exact Feed.offer_lagged_le _ event hPos
  · rwa [hReceive, Feed.receive_lagged]
  · rwa [hDrop]

/-- Short of a new registration, what a feed is owed only grows. -/
theorem owed_observe_isPrefix (g : Registration) {feed : FeedId} {o : HubObservation}
    (hOther : ∀ client, o ≠ .registered client feed) : g.owed <+: (g.observe feed o).owed := by
  cases o with
  | registered client f =>
    have hNe : f ≠ feed := fun hEq => hOther client (by rw [hEq])
    simp only [Registration.observe, if_neg hNe]
    split <;> exact List.prefix_refl _
  | updated client subscriptions =>
    simp only [Registration.observe]
    split <;> exact List.prefix_refl _
  | removed client =>
    simp only [Registration.observe]
    split <;> exact List.prefix_refl _
  -- only an event is ever added to what is owed
  | published event =>
    simp only [Registration.observe]
    split
    · exact List.prefix_append _ _
    · exact List.prefix_refl _

/-- What a channel is owed only grows, until it is handed out again. -/
theorem owed_foldl_isPrefix {feed : FeedId} {later : List HubObservation}
    (hOther : ∀ client, .registered client feed ∉ later) (g : Registration) :
    g.owed <+: (later.foldl (Registration.observe feed) g).owed := by
  induction later generalizing g with
  | nil => exact List.prefix_refl _
  | cons o later ih =>
    have hHead : ∀ client, o ≠ .registered client feed :=
      fun client hEq => hOther client (hEq ▸ List.mem_cons_self)
    exact (owed_observe_isPrefix g hHead).trans
      (ih (fun client hMem => hOther client (List.mem_cons_of_mem _ hMem)) _)

/-- What a feed took stays a prefix of what it is owed: an event is appended
only while there is no lag, when the two lists are equal. -/
theorem enqueued_prefix_step {seen : List HubObservation} (hCon : Consistent h seen)
    (hLag : LagInvariant h) {feed : FeedId}
    (hPrefix : (h.feeds feed).enqueued <+: (registration feed seen).owed) (op : HubOp) :
    ((h.step op).feeds feed).enqueued <+: (registration feed (seen ++ h.observe op)).owed := by
  rw [registration_append]
  rcases enqueued_step_cases hCon.invariant feed op with
    ⟨hSame, hOther⟩ | ⟨-, hNew⟩ | ⟨event, c, hSeen, hc, hKey, hAppended⟩
  · rw [hSame]
    exact hPrefix.trans (owed_foldl_isPrefix hOther _)
  · rw [hNew]
    exact List.nil_prefix
  · -- a client that has lagged has no keys, so nothing is sent to it
    have hZero : (h.feeds feed).lagged = 0 := by
      by_contra hNe
      rw [hLag.quiet c feed hc (Nat.pos_of_ne_zero hNe)] at hKey
      exact absurd hKey (Finset.notMem_empty _)
    obtain ⟨hSub, hOwed⟩ := (hCon.delivery feed).owed c hc hZero
    have hHolder := (hCon.delivery feed).holder c hc
    have hMatch : (registration feed seen).holder.isSome ∧
        event.subscriptionKey ∈ (registration feed seen).wanted :=
      ⟨by rw [hHolder]; rfl, hSub ▸ hKey⟩
    rw [hAppended, hSeen, List.foldl_cons, List.foldl_nil, Registration.observe, if_pos hMatch,
      hOwed]

end Steps

/-! ## What a receiver takes -/

/-- The buffer of an open channel is what was put in and not taken out yet. -/
structure Feed.Sound (f : Feed) : Prop where
  opened : f.receiverAlive → f.enqueued = f.received ++ f.buffer
  shut : f.receiverAlive = false → f.buffer = []
  received : f.received <+: f.enqueued

/-- A new channel is sound. -/
theorem Feed.sound_channel (capacity : Nat) : (Feed.channel capacity).Sound := by
  constructor <;> simp [Feed.channel]

/-- An offer is enqueued and buffered, or neither. -/
theorem Feed.sound_offer {f : Feed} (h : f.Sound) (event : MarketEvent) :
    (f.offer event).Sound := by
  unfold Feed.offer Feed.trySend
  split
  · next sent hSend =>
    split at hSend
    · simp at hSend
    · next hAlive =>
      split at hSend
      · simp at hSend
      · simp only [Except.ok.injEq] at hSend
        subst hSend
        -- an event is taken only while the receiver is there
        have hOpen : f.receiverAlive := by simpa using hAlive
        refine ⟨fun _ => ?_, fun hShut => ?_, h.received.trans (List.prefix_append _ _)⟩
        · simp [h.opened hOpen]
        · rw [hOpen] at hShut
          simp at hShut
  · exact ⟨h.opened, h.shut, h.received⟩
  · exact h

/-- Taking the first event moves it from the buffer to what was received. -/
theorem Feed.sound_receive {f : Feed} (h : f.Sound) : f.receive.Sound := by
  unfold Feed.receive
  cases hBuffer : f.buffer with
  | nil => exact h
  | cons event rest =>
    have hOpen : f.receiverAlive := by
      by_contra hShut
      have hEmpty := h.shut (by simpa using hShut)
      rw [hBuffer] at hEmpty
      simp at hEmpty
    have hSplit : f.enqueued = f.received ++ [event] ++ rest := by
      rw [h.opened hOpen, hBuffer, List.append_assoc, List.singleton_append]
    refine ⟨fun _ => hSplit, fun hShut => ?_, ⟨rest, hSplit.symm⟩⟩
    rw [hOpen] at hShut
    simp at hShut

/-- Dropping the receiver empties the buffer. -/
theorem Feed.sound_dropReceiver {f : Feed} (h : f.Sound) : f.dropReceiver.Sound :=
  ⟨fun hAlive => by simp [Feed.dropReceiver] at hAlive, fun _ => rfl, h.received⟩

/-- Every channel of the hub stays sound. -/
theorem sound_step {h : GatewayHub} (hInv : HubInvariant h) (hSound : ∀ feed, (h.feeds feed).Sound)
    (op : HubOp) (feed : FeedId) : ((h.step op).feeds feed).Sound := by
  rcases feed_step_cases hInv feed op with
    hSame | ⟨-, hNew⟩ | ⟨event, hOffer⟩ | ⟨-, hReceive⟩ | hDrop
  · rw [hSame]
    exact hSound feed
  · rw [hNew]
    exact Feed.sound_channel _
  · rw [hOffer]
    exact Feed.sound_offer (hSound feed) event
  · rw [hReceive]
    exact Feed.sound_receive (hSound feed)
  · rw [hDrop]
    exact Feed.sound_dropReceiver (hSound feed)

/-! ## Lag-safe runs of the hub -/

/-- The hub, what was seen of it, and the overrun guarantees. -/
structure GapFree (h : GatewayHub) (seen : List HubObservation) : Prop where
  consistent : Consistent h seen
  lag : LagInvariant h
  sound : ∀ feed, (h.feeds feed).Sound
  owed : ∀ feed, (h.feeds feed).enqueued <+: (registration feed seen).owed

/-- A new hub is gap-free. -/
theorem gapFree_init (epoch : Uuid) (capacity maxClients : Nat) :
    GapFree (.withClientLimit epoch capacity maxClients) [] :=
  ⟨consistent_init epoch capacity maxClients, lagInvariant_init epoch capacity maxClients,
    fun _ => Feed.sound_channel capacity, fun _ => List.nil_prefix⟩

/-- A lag-safe step keeps what a channel got a prefix of what it is owed. -/
theorem gapFree_step {h : GatewayHub} {seen : List HubObservation} (hGap : GapFree h seen)
    {op : HubOp} (hSafe : h.LagSafe op) : GapFree (h.step op) (seen ++ h.observe op) :=
  ⟨consistent_step hGap.consistent op,
    lagInvariant_step hGap.consistent.invariant hGap.lag hSafe,
    sound_step hGap.consistent.invariant hGap.sound op,
    fun feed => enqueued_prefix_step hGap.consistent hGap.lag (hGap.owed feed) op⟩

/-- Over a lag-safe run an overrun feed keeps what it has. -/
theorem enqueued_run_of_lagged {h : GatewayHub} {seen : List HubObservation}
    (hGap : GapFree h seen) {feed : FeedId} (hPos : 0 < (h.feeds feed).lagged) {ops : List HubOp}
    (hSafe : AllSteps GatewayHub.step GatewayHub.LagSafe h ops) :
    ((run GatewayHub.step h ops).feeds feed).enqueued = (h.feeds feed).enqueued := by
  induction ops generalizing h seen with
  | nil => rfl
  | cons op ops ih =>
    have hInv := hGap.consistent.invariant
    rw [run_cons, ih (gapFree_step hGap hSafe.1) (lagged_step_pos hInv hGap.lag hPos op) hSafe.2,
      enqueued_of_lagged hInv hGap.lag hPos op]

/-! ## Sessions -/

/-- The session is still in its loop. -/
def SessionPhase.InLoop : SessionPhase → Prop
  | .selecting | .routing _ | .replying _ => True
  | .closing | .unrouted | .released | .ended => False

section Sessions

/-- Replacing one session leaves the others. -/
theorem setSession_sessions (s : Gateway) (client : ClientId) (x : Session) (c : ClientId) :
    (s.setSession client x).sessions c = if c = client then some x else s.sessions c := by
  by_cases hEq : c = client
  · subst hEq
    simp [Gateway.setSession]
  · simp [Gateway.setSession, hEq]

/-- A session that changed, but neither its feed nor the events it sent. -/
def Session.Kept (x x' : Session) : Prop :=
  x'.feed = x.feed ∧ x'.sentEvents = x.sentEvents ∧ (x'.phase.InLoop → x.phase.InLoop)

/-- A session that took an event from its feed. -/
def Session.Took (event : MarketEvent) (x x' : Session) : Prop :=
  x'.feed = x.feed ∧ x.phase.InLoop ∧
  (x'.sentEvents = x.sentEvents ++ [event] ∨
    x'.sentEvents = x.sentEvents ∧ ¬ x'.phase.InLoop)

/-- A message of the client takes no event. -/
theorem handleClientMessage_kept [Unicode] (s : Gateway) (client : ClientId) {x : Session}
    (hPhase : x.phase = .selecting) (catalog : CatalogVerdict) (order : ProviderOrder)
    (message : Option ClientMessage) :
    x.Kept (s.handleClientMessage client x catalog order message).1 := by
  have hIn : x.phase.InLoop := by rw [hPhase]; trivial
  unfold Gateway.handleClientMessage
  split
  all_goals first
    | exact ⟨rfl, rfl, fun _ => hIn⟩
    | (split <;> exact ⟨rfl, rfl, fun _ => hIn⟩)

/-- The report of a lag takes no event. -/
theorem reportLag_kept (s : Gateway) (client : ClientId) {x : Session}
    (hPhase : x.phase = .selecting) (sent : Bool) : x.Kept (s.reportLag client x sent) := by
  have hIn : x.phase.InLoop := by rw [hPhase]; trivial
  simp only [Gateway.reportLag]
  split
  · refine ⟨rfl, ?_, fun _ => hIn⟩
    cases sent with
    | false => rfl
    | true => simp [Session.sentEvents]
  · split <;> exact ⟨rfl, rfl, fun _ => hIn⟩

/-- A delivery takes nothing, or the first event of the buffer. -/
theorem deliverEvent_cases (s : Gateway) (client : ClientId) {x : Session}
    (hPhase : x.phase = .selecting) (sent : Bool) :
    ((s.deliverEvent client x sent).hubOps = [] ∧
      x.Kept (s.deliverEvent client x sent).session) ∨
    ∃ event rest, (s.hub.feeds x.feed).buffer = event :: rest ∧
      (s.deliverEvent client x sent).hubOps = [.receive x.feed] ∧
      x.Took event (s.deliverEvent client x sent).session := by
  have hIn : x.phase.InLoop := by rw [hPhase]; trivial
  unfold Gateway.deliverEvent
  split
  · next event rest hBuffer =>
    refine Or.inr ⟨event, rest, hBuffer, rfl, ?_⟩
    -- a failed send closes the session; the event is taken either way
    cases sent with
    | true => exact ⟨rfl, hIn, Or.inl (by simp [Session.sentEvents])⟩
    | false => exact ⟨rfl, hIn, Or.inr ⟨rfl, id⟩⟩
  · left
    refine ⟨rfl, ?_⟩
    dsimp only
    split <;> exact ⟨rfl, rfl, fun _ => hIn⟩

/-- What a step can do to the session of a client. -/
inductive SessionStep (s : Gateway) (op : GatewayOp) (c : ClientId) : Option Session → Prop
  | same : (∀ x, s.sessions c = some x → .receive x.feed ∈ s.hubOps op →
      ∃ c' x', c' ≠ c ∧ s.sessions c' = some x' ∧ x'.feed = x.feed) →
      SessionStep s op c (s.sessions c)
  | joined (x : Session) : s.hubOps op = [.register c] →
      (s.hub.tryRegisterClient c).1 = some x.feed → x.sentEvents = [] → SessionStep s op c (some x)
  | kept (x x' : Session) : s.sessions c = some x → x.Kept x' →
      (∀ feed, .receive feed ∉ s.hubOps op) → SessionStep s op c (some x')
  | took (x x' : Session) (event : MarketEvent) (rest : List MarketEvent) :
      s.sessions c = some x → (s.hub.feeds x.feed).buffer = event :: rest →
      s.hubOps op = [.receive x.feed] → x.Took event x' → SessionStep s op c (some x')

/-- A step that only moves one session on, keeping its feed and its events. -/
theorem sessionStep_kept {s s' : Gateway} {op : GatewayOp} {client : ClientId} {x x' : Session}
    (hSet : s'.sessions = (s.setSession client x').sessions) (hx : s.sessions client = some x)
    (hKept : x.Kept x') (hQuiet : ∀ feed, .receive feed ∉ s.hubOps op) (c : ClientId) :
    SessionStep s op c (s'.sessions c) := by
  rw [hSet, setSession_sessions]
  by_cases hc : c = client
  · subst hc
    rw [if_pos rfl]
    exact .kept x x' hx hKept hQuiet
  · rw [if_neg hc]
    exact .same fun _ _ hReceive => absurd hReceive (hQuiet _)

/-- Only the event branch of a select loop receives from a feed. -/
theorem receive_notMem_hubOps (s : Gateway) {op : GatewayOp}
    (hOther : ∀ client sent, op ≠ .deliver client sent) (feed : FeedId) :
    .receive feed ∉ s.hubOps op := by
  cases op with
  | deliver client sent => exact absurd rfl (hOther client sent)
  | connect client helloSent =>
    simp only [Gateway.hubOps]
    split <;> simp
  | updateRoutes client | removeClient client | dropFeed client =>
    simp only [Gateway.hubOps]
    split <;> simp
  | incoming | reply | lag | shutdown | cleanupClient | number | route => simp [Gateway.hubOps]

variable [Unicode]

/-- A connection opens a session without events. -/
theorem sessionStep_connect (s : Gateway) (client : ClientId) (helloSent : Bool) (c : ClientId) :
    SessionStep s (.connect client helloSent) c
      ((s.localStep (.connect client helloSent)).sessions c) := by
  have hQuiet := receive_notMem_hubOps s fun client' sent =>
    show GatewayOp.connect client helloSent ≠ .deliver client' sent by simp
  have hSame : SessionStep s (.connect client helloSent) c (s.sessions c) :=
    .same fun _ _ hReceive => absurd hReceive (hQuiet _)
  cases hx : s.sessions client with
  | some x =>
    simp only [Gateway.localStep, hx]
    exact hSame
  | none =>
    cases hReg : (s.hub.tryRegisterClient client).1 with
    | none =>
      simp only [Gateway.localStep, hx, hReg]
      exact hSame
    | some feed =>
      simp only [Gateway.localStep, hx, hReg, setSession_sessions]
      by_cases hc : c = client
      · -- the new session begins with an empty queue of its own
        subst hc
        rw [if_pos rfl]
        refine .joined _ ?_ hReg ?_
        · simp [Gateway.hubOps, hx]
        · cases helloSent <;> simp [Session.sentEvents]
      · rw [if_neg hc]
        exact hSame

/-- A delivery takes an event for its own session only. -/
theorem sessionStep_deliver (s : Gateway) (client : ClientId) (sent : Bool) (c : ClientId) :
    SessionStep s (.deliver client sent) c ((s.localStep (.deliver client sent)).sessions c) := by
  cases hx : s.sessions client with
  | none =>
    simp only [Gateway.localStep, hx]
    exact .same (by simp [Gateway.hubOps, hx])
  | some x =>
    simp only [Gateway.localStep, hx]
    split
    · next hPhase =>
      have hOps : s.hubOps (.deliver client sent) = (s.deliverEvent client x sent).hubOps := by
        simp [Gateway.hubOps, hx, hPhase]
      rcases deliverEvent_cases s client hPhase sent with
        ⟨hNone, hKept⟩ | ⟨event, rest, hBuffer, hReceive, hTook⟩
      · exact sessionStep_kept rfl hx hKept (by simp [hOps, hNone]) c
      · rw [setSession_sessions]
        by_cases hc : c = client
        · subst hc
          rw [if_pos rfl]
          exact .took x _ event rest hx hBuffer (hOps.trans hReceive) hTook
        · -- the queue that gives the event is another client's
          rw [if_neg hc]
          refine .same fun y _ hMem => ⟨client, x, fun hEq => hc hEq.symm, hx, ?_⟩
          rw [hOps, hReceive, List.mem_singleton] at hMem
          exact (HubOp.receive.inj hMem).symm
    · next hPhase => exact .same (by simp [Gateway.hubOps, hx, hPhase])

/-- Every step does one of these things to a session. -/
theorem sessionStep (s : Gateway) (op : GatewayOp) (c : ClientId) :
    SessionStep s op c ((s.step op).sessions c) := by
  rw [show (s.step op).sessions = (s.localStep op).sessions from rfl]
  by_cases hDeliver : ∃ client sent, op = .deliver client sent
  · obtain ⟨client, sent, rfl⟩ := hDeliver
    exact sessionStep_deliver s client sent c
  -- delivering is the only step that takes an event out of a channel
  have hOther : ∀ client sent, op ≠ .deliver client sent :=
    fun client sent hEq => hDeliver ⟨client, sent, hEq⟩
  have hQuiet := receive_notMem_hubOps s hOther
  have hSame : SessionStep s op c (s.sessions c) :=
    .same fun _ _ hReceive => absurd hReceive (hQuiet _)
  cases op with
  | connect client helloSent => exact sessionStep_connect s client helloSent c
  | deliver client sent => exact absurd rfl (hOther client sent)
  | incoming client catalog order message =>
    cases hx : s.sessions client with
    | none =>
      simp only [Gateway.localStep, hx]
      exact hSame
    | some x =>
      simp only [Gateway.localStep, hx]
      split
      · next hPhase =>
        exact sessionStep_kept rfl hx
          (handleClientMessage_kept s client hPhase catalog order message) hQuiet c
      · exact hSame
  | updateRoutes client =>
    simp only [Gateway.localStep]
    split
    · next ack feed subscriptions sent hx =>
      refine sessionStep_kept rfl hx ?_ hQuiet c
      exact ⟨rfl, rfl, fun _ => trivial⟩
    · exact hSame
  | reply client sent =>
    simp only [Gateway.localStep]
    split
    · next message feed subscriptions frames hx =>
      refine sessionStep_kept rfl hx ?_ hQuiet c
      cases sent with
      | true => exact ⟨rfl, by simp [Session.sentEvents], fun _ => trivial⟩
      | false => exact ⟨rfl, rfl, fun _ => trivial⟩
    · exact hSame
  | lag client sent =>
    cases hx : s.sessions client with
    | none =>
      simp only [Gateway.localStep, hx]
      exact hSame
    | some x =>
      simp only [Gateway.localStep, hx]
      split
      · next hPhase =>
        exact sessionStep_kept rfl hx (reportLag_kept s client hPhase sent) hQuiet c
      · exact hSame
  | shutdown client =>
    cases hx : s.sessions client with
    | none =>
      simp only [Gateway.localStep, hx]
      exact hSame
    | some x =>
      simp only [Gateway.localStep, hx]
      split
      · refine sessionStep_kept rfl hx ?_ hQuiet c
        exact ⟨rfl, rfl, False.elim⟩
      · exact hSame
  | removeClient client =>
    simp only [Gateway.localStep]
    split
    · next feed subscriptions sent hx =>
      refine sessionStep_kept rfl hx ?_ hQuiet c
      exact ⟨rfl, rfl, False.elim⟩
    · exact hSame
  | cleanupClient client =>
    simp only [Gateway.localStep]
    split
    · next feed subscriptions sent hx =>
      refine sessionStep_kept rfl hx ?_ hQuiet c
      exact ⟨rfl, rfl, False.elim⟩
    · exact hSame
  | dropFeed client =>
    simp only [Gateway.localStep]
    split
    · next feed subscriptions sent hx =>
      refine sessionStep_kept rfl hx ?_ hQuiet c
      exact ⟨rfl, rfl, False.elim⟩
    · exact hSame
  | number event => exact hSame
  | route => exact hSame

/-! ### What a session sent, against its feed -/

omit [Unicode] in
/-- An offer is not yet received. -/
theorem Feed.offer_received (f : Feed) (event : MarketEvent) :
    (f.offer event).received = f.received := by
  unfold Feed.offer Feed.trySend
  split
  · next hSend =>
    split at hSend
    · simp at hSend
    · split at hSend
      · simp at hSend
      · simp only [Except.ok.injEq] at hSend
        rw [← hSend]
  · rfl
  · rfl

omit [Unicode] in
/-- Only a receive on the channel itself adds to what was received. -/
theorem received_step {h : GatewayHub} (hInv : HubInvariant h) {feed : FeedId}
    (hFeed : feed < h.nextFeed) {op : HubOp} (hOther : op ≠ .receive feed) :
    ((h.step op).feeds feed).received = (h.feeds feed).received := by
  rcases feed_step_cases hInv feed op with
    hSame | ⟨hNew, -⟩ | ⟨event, hOffer⟩ | ⟨hReceive, -⟩ | hDrop
  · rw [hSame]
  · exact absurd hNew hFeed.ne
  · rw [hOffer, Feed.offer_received]
  · exact absurd hReceive hOther
  · rw [hDrop, Feed.dropReceiver]

omit [Unicode] in
/-- Channels are handed out in ascending order. -/
theorem nextFeed_step_le {h : GatewayHub} (hInv : HubInvariant h) (op : HubOp) :
    h.nextFeed ≤ (h.step op).nextFeed := by
  cases op with
  | register client =>
    rw [GatewayHub.step]
    rcases tryRegisterClient_cases hInv.routes client with hFull | ⟨-, hReg⟩
    · rw [hFull]
    · rw [hReg.nextFeed]
      exact Nat.le_succ _
  | update client subscriptions =>
    rw [GatewayHub.step, (updateClientSubscriptions_frame h client subscriptions).2.1]
  | remove client => exact le_rfl
  | number event =>
    simp only [GatewayHub.step, GatewayHub.numberEvent]
    split
    · exact le_rfl
    · split <;> exact le_rfl
  | route =>
    simp only [GatewayHub.step]
    split <;> exact le_rfl
  | receive feed => exact le_rfl
  | dropReceiver feed => exact le_rfl

/-- Every session owns its feed, and sent what it took from it. -/
structure SessionInvariant (s : Gateway) : Prop where
  hub : HubInvariant s.hub
  allocated : ∀ c x, s.sessions c = some x → x.feed < s.hub.nextFeed
  distinct : ∀ c c' x x', s.sessions c = some x → s.sessions c' = some x' → x.feed = x'.feed →
    c = c'
  inLoop : ∀ c x, s.sessions c = some x → x.phase.InLoop →
    x.sentEvents = (s.hub.feeds x.feed).received
  sent : ∀ c x, s.sessions c = some x → x.sentEvents <+: (s.hub.feeds x.feed).received

omit [Unicode] in
/-- The hub stays in order over a run. -/
theorem hubInvariant_run {h : GatewayHub} (hInv : HubInvariant h) (ops : List HubOp) :
    HubInvariant (run GatewayHub.step h ops) :=
  run_invariant (P := HubInvariant) (fun _ op hInv => hubInvariant_step hInv op) hInv ops

omit [Unicode] in
/-- Over a run too, channels are handed out in ascending order. -/
theorem nextFeed_run_le {h : GatewayHub} (hInv : HubInvariant h) (ops : List HubOp) :
    h.nextFeed ≤ (run GatewayHub.step h ops).nextFeed := by
  induction ops generalizing h with
  | nil => exact le_rfl
  | cons op ops ih => exact (nextFeed_step_le hInv op).trans (ih (hubInvariant_step hInv op))

omit [Unicode] in
/-- A run without a receive on the channel takes nothing out of it. -/
theorem received_run {h : GatewayHub} (hInv : HubInvariant h) {feed : FeedId}
    (hFeed : feed < h.nextFeed) {ops : List HubOp} (hOther : .receive feed ∉ ops) :
    ((run GatewayHub.step h ops).feeds feed).received = (h.feeds feed).received := by
  induction ops generalizing h with
  | nil => rfl
  | cons op ops ih =>
    have hNe : op ≠ .receive feed := fun hEq => hOther (hEq ▸ List.mem_cons_self)
    rw [run_cons, ih (hubInvariant_step hInv op) (hFeed.trans_le (nextFeed_step_le hInv op))
      fun hMem => hOther (List.mem_cons_of_mem _ hMem), received_step hInv hFeed hNe]

/-- A session that joins owns the newest feed. -/
theorem registered_of_joined {s : Gateway} (hInv : SessionInvariant s) {op : GatewayOp}
    {c : ClientId} {feed : FeedId} (hOps : s.hubOps op = [.register c])
    (hReg : (s.hub.tryRegisterClient c).1 = some feed) :
    feed = s.hub.nextFeed ∧ Registered s.hub c (s.step op).hub := by
  rcases tryRegisterClient_cases hInv.hub.routes c with hFull | ⟨hNew, hRegistered⟩
  · rw [hFull] at hReg
    simp at hReg
  · rw [hNew] at hReg
    refine ⟨(Option.some.inj hReg).symm, ?_⟩
    rw [Gateway.step, hOps]
    exact hRegistered

/-- A session after a step continues one from before it, or has just joined. -/
theorem session_origin {s : Gateway} (hInv : SessionInvariant s) {op : GatewayOp} {c : ClientId}
    {x' : Session} (hx' : (s.step op).sessions c = some x') :
    (∃ x, s.sessions c = some x ∧ x'.feed = x.feed) ∨
    (s.hubOps op = [.register c] ∧ x'.feed = s.hub.nextFeed ∧
      Registered s.hub c (s.step op).hub) := by
  have hCase := sessionStep s op c
  rw [hx'] at hCase
  generalize hAfter : some x' = after at hCase
  cases hCase with
  | same _ => exact Or.inl ⟨x', hAfter.symm, rfl⟩
  -- a session begins with a registration of its client
  | joined x hOps hReg hSent =>
    obtain rfl := Option.some.inj hAfter
    exact Or.inr ⟨hOps, registered_of_joined hInv hOps hReg⟩
  | kept x y hx hKept _ =>
    obtain rfl := Option.some.inj hAfter
    exact Or.inl ⟨x, hx, hKept.1⟩
  | took x y event rest hx _ _ hTook =>
    obtain rfl := Option.some.inj hAfter
    exact Or.inl ⟨x, hx, hTook.1⟩

/-- The events a session sent, after a step: the same list, against the same
or a longer list of received ones. -/
theorem session_sent_step {s : Gateway} (hInv : SessionInvariant s) {op : GatewayOp}
    {c : ClientId} {x' : Session} (hx' : (s.step op).sessions c = some x') :
    (x'.phase.InLoop → x'.sentEvents = ((s.step op).hub.feeds x'.feed).received) ∧
    x'.sentEvents <+: ((s.step op).hub.feeds x'.feed).received := by
  have hCase := sessionStep s op c
  rw [hx'] at hCase
  generalize hAfter : some x' = after at hCase
  cases hCase with
  | same hOnly =>
    have hx := hAfter.symm
    -- if its channel was read, then by the session that owns it, which is no other
    -- one
    have hQuiet : .receive x'.feed ∉ s.hubOps op := by
      intro hMem
      obtain ⟨c', y, hNe, hy, hEq⟩ := hOnly x' hx hMem
      exact hNe (hInv.distinct c' c y x' hy hx hEq)
    have hSame : ((s.step op).hub.feeds x'.feed).received = (s.hub.feeds x'.feed).received :=
      received_run hInv.hub (hInv.allocated c x' hx) hQuiet
    rw [hSame]
    exact ⟨hInv.inLoop c x' hx, hInv.sent c x' hx⟩
  | joined x hOps hReg hSent =>
    obtain rfl := Option.some.inj hAfter
    obtain ⟨hFeed, hRegistered⟩ := registered_of_joined hInv hOps hReg
    rw [hSent, hFeed, hRegistered.feeds, Function.update_self]
    exact ⟨fun _ => rfl, List.nil_prefix⟩
  | kept x y hx hKept hQuiet =>
    obtain rfl := Option.some.inj hAfter
    obtain ⟨hFeed, hSent, hIn⟩ := hKept
    have hSame : ((s.step op).hub.feeds x.feed).received = (s.hub.feeds x.feed).received :=
      received_run hInv.hub (hInv.allocated c x hx) (hQuiet x.feed)
    rw [hFeed, hSent, hSame]
    exact ⟨fun hLoop => hInv.inLoop c x hx (hIn hLoop), hInv.sent c x hx⟩
  | took x y event rest hx hBuffer hOps hTook =>
    obtain rfl := Option.some.inj hAfter
    obtain ⟨hFeed, hIn, hSent⟩ := hTook
    have hTaken : ((s.step op).hub.feeds x.feed).received =
        (s.hub.feeds x.feed).received ++ [event] := by
      rw [Gateway.step, hOps, run_cons, run_nil, GatewayHub.step, mapFeed_feeds, if_pos rfl,
        Feed.receive, hBuffer]
    rw [hFeed, hTaken, ← hInv.inLoop c x hx hIn]
    -- the event is sent on, or the session leaves the loop with it in hand
    rcases hSent with hSent | ⟨hSent, hOut⟩
    · rw [hSent]
      exact ⟨fun _ => rfl, List.prefix_refl _⟩
    · rw [hSent]
      exact ⟨fun hLoop => absurd hLoop hOut, List.prefix_append _ _⟩

/-- Every step keeps channels apart, and what a session sent what it received. -/
theorem sessionInvariant_step {s : Gateway} (hInv : SessionInvariant s) (op : GatewayOp) :
    SessionInvariant (s.step op) := by
  have hHub : HubInvariant (s.step op).hub := hubInvariant_run hInv.hub _
  have hNext : s.hub.nextFeed ≤ (s.step op).hub.nextFeed := nextFeed_run_le hInv.hub _
  refine ⟨hHub, fun c x hx => ?_, fun c c' x x' hx hx' hFeed => ?_,
    fun c x hx => (session_sent_step hInv hx).1, fun c x hx => (session_sent_step hInv hx).2⟩
  · rcases session_origin hInv hx with ⟨y, hy, hSame⟩ | ⟨-, hNew, hReg⟩
    · rw [hSame]
      exact (hInv.allocated c y hy).trans_le hNext
    · rw [hNew, hReg.nextFeed]
      exact Nat.lt_succ_self _
  · rcases session_origin hInv hx with ⟨y, hy, hSame⟩ | ⟨hOps, hNew, -⟩ <;>
      rcases session_origin hInv hx' with ⟨y', hy', hSame'⟩ | ⟨hOps', hNew', -⟩
    · exact hInv.distinct c c' y y' hy hy' (by rw [← hSame, ← hSame', hFeed])
    · -- a new feed has a number that no session has
      have hOld := hInv.allocated c y hy
      rw [← hSame, hFeed, hNew'] at hOld
      exact absurd hOld (lt_irrefl _)
    · have hOld := hInv.allocated c' y' hy'
      rw [← hSame', ← hFeed, hNew] at hOld
      exact absurd hOld (lt_irrefl _)
    · rw [hOps] at hOps'
      exact HubOp.register.inj (List.singleton_inj.mp hOps')

/-! ## Every lag-safe run -/

/-- The gateway as it starts: no client, an empty registry. -/
def Gateway.start (config : ApiConfig) (epoch : Uuid) (capacity maxClients maxPerClient : Nat)
    (limits : ProviderLimits) : Gateway :=
  .new config (.withClientLimit epoch capacity maxClients) (.withProviderLimits maxPerClient limits)

/-- What a run let an observer of the hub see. -/
def gatewaySeen (s : Gateway) (ops : List GatewayOp) : List HubObservation :=
  trace GatewayHub.step GatewayHub.observe s.hub (trace Gateway.step Gateway.hubOps s ops)

/-- The step makes no `update_client_subscriptions` call with a non-empty set
for a client whose lag counter is positive. -/
def Gateway.LagSafe (s : Gateway) (op : GatewayOp) : Prop :=
  AllSteps GatewayHub.step GatewayHub.LagSafe s.hub (s.hubOps op)

instance (s : Gateway) (op : GatewayOp) : Decidable (s.LagSafe op) :=
  inferInstanceAs (Decidable (AllSteps GatewayHub.step GatewayHub.LagSafe s.hub (s.hubOps op)))

/-- The hub after a run of the gateway has run through the calls the gateway made. -/
theorem hub_after (s : Gateway) (ops : List GatewayOp) :
    (run Gateway.step s ops).hub =
      run GatewayHub.step s.hub (trace Gateway.step Gateway.hubOps s ops) :=
  run_project (π := Gateway.hub) (fun _ _ => rfl) s ops

/-- A lag-safe run of the gateway is a lag-safe run of its hub. -/
theorem lagSafe_hub {s : Gateway} {ops : List GatewayOp}
    (hSafe : AllSteps Gateway.step Gateway.LagSafe s ops) :
    AllSteps GatewayHub.step GatewayHub.LagSafe s.hub
      (trace Gateway.step Gateway.hubOps s ops) :=
  allSteps_project (π := Gateway.hub) (fun _ _ => rfl) (fun _ _ h => h) hSafe

omit [Unicode] in
/-- A gateway without sessions meets the invariant. -/
theorem sessionInvariant_start (config : ApiConfig) (epoch : Uuid)
    (capacity maxClients maxPerClient : Nat) (limits : ProviderLimits) :
    SessionInvariant (.start config epoch capacity maxClients maxPerClient limits) := by
  constructor
  · exact hubInvariant_init epoch capacity maxClients
  all_goals simp [Gateway.start, Gateway.new]

/-- **Overruns are final on lag-safe runs.** If no routing update gives keys to
a client whose lag counter is positive, then once a feed has overrun nothing
more is enqueued on it, and at any time the events a client was sent are a
prefix of the events its registration is owed. -/
theorem overrun_is_final (config : ApiConfig) (epoch : Uuid)
    (capacity maxClients maxPerClient : Nat) (limits : ProviderLimits)
    (earlier later : List GatewayOp)
    (hSafe : AllSteps Gateway.step Gateway.LagSafe
      (.start config epoch capacity maxClients maxPerClient limits) (earlier ++ later)) :
    let start := Gateway.start config epoch capacity maxClients maxPerClient limits
    let s := run Gateway.step start earlier
    let s' := run Gateway.step start (earlier ++ later)
    (∀ feed, 0 < (s.hub.feeds feed).lagged →
      (s'.hub.feeds feed).enqueued = (s.hub.feeds feed).enqueued) ∧
    (∀ client x, s'.sessions client = some x →
      x.sentEvents <+: (registration x.feed (gatewaySeen start (earlier ++ later))).owed) := by
  intro start s s'
  -- safe steps of the gateway are safe operations of the hub
  have hGap : ∀ {ops}, AllSteps Gateway.step Gateway.LagSafe start ops →
      GapFree (run Gateway.step start ops).hub (gatewaySeen start ops) := by
    intro ops hOps
    rw [hub_after]
    have hRun := run_trace_invariant_of_allSteps (R := GapFree)
      (fun _ _ _ hOp hGap => gapFree_step hGap hOp) (gapFree_init epoch capacity maxClients)
      (lagSafe_hub hOps)
    rwa [List.nil_append] at hRun
  obtain ⟨hEarlier, hLater⟩ := allSteps_append.mp hSafe
  constructor
  · intro feed hPos
    rw [show s' = run Gateway.step s later from run_append _ _ _ _, hub_after]
    exact enqueued_run_of_lagged (hGap hEarlier) hPos (lagSafe_hub hLater)
  · intro client x hx
    have hSession : SessionInvariant s' :=
      run_invariant (P := SessionInvariant) (fun _ op hInv => sessionInvariant_step hInv op)
        (sessionInvariant_start config epoch capacity maxClients maxPerClient limits) _
    have hFree := hGap hSafe
    -- sent is a prefix of received, that of enqueued, and that of what is owed
    exact ((hSession.sent client x hx).trans (hFree.sound x.feed).received).trans
      (hFree.owed x.feed)

end Sessions

/-! ## A run that is not lag-safe -/

section Resumed

/-- A gateway that gives every client a queue of one event. -/
abbrev sampleGateway : Gateway := .start ⟨{.bybit}, 65536⟩ 7 1 10 4 (.uniform 100)

/-- A subscribe command, served to its end. -/
def subscribeSteps (symbol : Text) : List GatewayOp :=
  [.incoming 1 (fun _ => .ok ()) .declared (some (.text 120 (.ok
      (.subscribe "r1".toList [⟨.bybit, .linearPerpetual, symbol, [.ticker]⟩])))),
    .updateRoutes 1, .reply 1 true]

/-- Number an event and route it. -/
def publishSteps (time : Nat) : List GatewayOp :=
  [.number (sampleEvent "BTCUSDT".toList time), .route]

/-- The second event finds the queue full. -/
def overrunSteps : List GatewayOp :=
  [.connect 1 true] ++ subscribeSteps "BTCUSDT".toList ++ publishSteps 1 ++ publishSteps 2

/-- The session takes the queued event, serves a command and then the lag. -/
def resumedSteps : List GatewayOp :=
  [.deliver 1 true] ++ subscribeSteps "ETHUSDT".toList ++ publishSteps 3 ++ [.deliver 1 true]

/-- The session serves the lag before the command. -/
def lagSteps : List GatewayOp :=
  [.deliver 1 true, .lag 1 true] ++ subscribeSteps "ETHUSDT".toList ++ publishSteps 3

/-- Two events overrun a queue of one. -/
theorem lagged_overrunSteps :
    0 < ((run (@Gateway.step .ascii) sampleGateway overrunSteps).hub.feeds 0).lagged := by
  decide

/-- The session notices the lag and closes, without an update in between. -/
theorem lagSafe_lagSteps :
    AllSteps (@Gateway.step .ascii) Gateway.LagSafe sampleGateway (overrunSteps ++ lagSteps) := by
  decide

theorem overrun_is_final_lagSteps :
    ((run (@Gateway.step .ascii) sampleGateway (overrunSteps ++ lagSteps)).hub.feeds 0).enqueued =
      ((run (@Gateway.step .ascii) sampleGateway overrunSteps).hub.feeds 0).enqueued := by
  exact (@overrun_is_final .ascii _ _ _ _ _ _ _ _ lagSafe_lagSteps).1 0 lagged_overrunSteps

/-- **Overruns are not final.** The client's queue overran at its second event;
after one more command it is sent the third. -/
theorem overrun_resumes :
    let s := run (@Gateway.step .ascii) sampleGateway overrunSteps
    let s' := run (@Gateway.step .ascii) sampleGateway (overrunSteps ++ resumedSteps)
    let event := fun n => (sampleEvent "BTCUSDT".toList n).intoMarketEvent 7 n
    0 < (s.hub.feeds 0).lagged ∧
    (s.hub.feeds 0).enqueued = [event 1] ∧ (s'.hub.feeds 0).enqueued = [event 1, event 3] ∧
    (s'.sessions 1).map Session.sentEvents = some [event 1, event 3] ∧
    (registration 0 (@gatewaySeen .ascii sampleGateway (overrunSteps ++ resumedSteps))).owed =
      [event 1, event 2, event 3] := by
  decide +kernel

end Resumed

end MarketStreamGateway
