import MarketStreamGateway.Domain
import MarketStreamGateway.Lib.Run

/-!
# Market Stream Gateway — subscription registry

`SubscriptionRegistry` of `gateway.rs`: which client demands which key, how
many clients demand each key, the set of keys demanded at all, and the watch
channel that publishes that set to the upstream connections.

Each operation holds the state mutex from its first read to its last write,
so an interleaving of clients is a list of operations (`RegistryOp`), and a
run folds them (`SubscriptionRegistry.step`).

Reference counts and totals count members of in-memory collections and are
`Nat`; the source's saturating additions guard a wrap that would need 2⁶⁴
clients. The one place where the source depends on the iteration order of a
hash map, the choice of the provider to report, takes that order as an
argument (`ProviderOrder`).
-/

namespace MarketStreamGateway

open Lib

/-- Clients are identified by a UUID of their session. -/
abbrev ClientId := Uuid

/-- The observable result of one client's registry mutation. -/
structure SubscriptionChange where
  added : List SubscriptionKey
  removed : List SubscriptionKey
  activated : List SubscriptionKey
  deactivated : List SubscriptionKey
  clientSubscriptions : Finset SubscriptionKey

/-- The report of an operation that changed nothing. -/
def SubscriptionChange.unchanged (clientSubscriptions : Finset SubscriptionKey) :
    SubscriptionChange :=
  ⟨[], [], [], [], clientSubscriptions⟩

/-- The two refusals, each with its limit and what was asked for. -/
inductive RegistryError where
  | clientLimitExceeded (limit requested : Nat)
  | providerLimitExceeded (provider : Provider) (limit requested : Nat)
  deriving DecidableEq, Repr

/-- Per-provider channel-subscription ceilings. -/
structure ProviderLimits where
  limits : Provider → Option Nat
  fallback : Nat

namespace ProviderLimits

/-- One ceiling applied to every provider. -/
def uniform (limit : Nat) : ProviderLimits := ⟨fun _ => none, limit⟩

/-- A provider without a limit of its own has the common one. -/
def limitFor (l : ProviderLimits) (p : Provider) : Nat := (l.limits p).getD l.fallback

end ProviderLimits

/-- The three tables: what each client holds, how many clients hold each key,
and which keys are held at all. -/
structure RegistryState where
  clients : Finmap fun _ : ClientId => Finset SubscriptionKey
  referenceCounts : Finmap fun _ : SubscriptionKey => Nat
  desired : Finset SubscriptionKey

/-- The registry: its two limits, the state behind the mutex, and the `desired`
watch channel with its value and its version. -/
structure SubscriptionRegistry where
  maxSubscriptionsPerClient : Nat
  providerLimits : ProviderLimits
  state : RegistryState
  desired : Finset SubscriptionKey
  desiredVersion : Nat

/-- An iteration order of a hash map keyed by provider. -/
structure ProviderOrder where
  order : List Provider
  complete : ∀ p, p ∈ order

/-- The order of declaration is one a hash map may have. -/
def ProviderOrder.declared : ProviderOrder := ⟨Provider.all, Provider.mem_all⟩

/-- The keys a client owns; a client without an entry owns none. -/
def RegistryState.clientSet (s : RegistryState) (client : ClientId) : Finset SubscriptionKey :=
  (s.clients.lookup client).getD ∅

/-! ## The loops of the operations -/

/-- How many keys of `p` would be desired after `added`: the keys of `p` desired
now, and those of the added ones that have no reference count. A provider
absent from the source's map counts zero. -/
def providerTotal (s : RegistryState) (added : List SubscriptionKey) (p : Provider) : Nat :=
  (iter s.desired).countP (fun key => key.provider = p) +
    added.countP (fun key => key ∉ s.referenceCounts ∧ key.provider = p)

/-- One round of the counting loop of `add`. -/
def incrementReference (acc : RegistryState × List SubscriptionKey) (key : SubscriptionKey) :
    RegistryState × List SubscriptionKey :=
  let count := (acc.1.referenceCounts.lookup key).getD 0 + 1
  let counted := { acc.1 with referenceCounts := acc.1.referenceCounts.insert key count }
  if count = 1 then
    ({ counted with desired := insert key counted.desired }, acc.2 ++ [key])
  else (counted, acc.2)

/-- The loop of `add` over the keys that are new to the client. -/
def incrementReferences (s : RegistryState) (added : List SubscriptionKey) :
    RegistryState × List SubscriptionKey :=
  added.foldl incrementReference (s, [])

/-- What `decrement_references` leaves behind. `unreferenced` lists the keys at
which its `debug_assert!(false)` fires. -/
structure Decrement where
  state : RegistryState
  deactivated : List SubscriptionKey
  unreferenced : List SubscriptionKey

/-- One round of that loop. A key without a count is a bug, which a
`debug_assert` reports. -/
def decrementReference (acc : Decrement) (key : SubscriptionKey) : Decrement :=
  match acc.state.referenceCounts.lookup key with
  | some count =>
    if count > 1 then
      { acc with
        state.referenceCounts := acc.state.referenceCounts.insert key (count - 1) }
    else
      { acc with
        state.referenceCounts := acc.state.referenceCounts.erase key
        state.desired := acc.state.desired.erase key
        deactivated := acc.deactivated ++ [key] }
  | none => { acc with unreferenced := acc.unreferenced ++ [key] }

/-- The loop of `decrement_references` over the keys a client gives up. -/
def decrementReferences (s : RegistryState) (removed : List SubscriptionKey) : Decrement :=
  removed.foldl decrementReference ⟨s, [], []⟩

/-! ## The operations -/

namespace SubscriptionRegistry

/-- An empty registry, whose snapshot has version zero. -/
def withProviderLimits (maxSubscriptionsPerClient : Nat) (providerLimits : ProviderLimits) :
    SubscriptionRegistry :=
  ⟨maxSubscriptionsPerClient, providerLimits, ⟨∅, ∅, ∅⟩, ∅, 0⟩

/-- The snapshot is replaced only when a key crossed between zero and one. -/
def publishSnapshotIfChanged (r : SubscriptionRegistry) (s : RegistryState)
    (crossed : List SubscriptionKey) : SubscriptionRegistry :=
  { r with
    state := s
    desired := if crossed.isEmpty then r.desired else s.desired
    desiredVersion := if crossed.isEmpty then r.desiredVersion else r.desiredVersion + 1 }

/-- Add subscriptions for a client atomically. -/
def add (r : SubscriptionRegistry) (order : ProviderOrder) (client : ClientId)
    (keys : List SubscriptionKey) :
    Except RegistryError SubscriptionChange × SubscriptionRegistry :=
  let existing := r.state.clientSet client
  let added := iter (keys.toFinset \ existing)
  let requestedTotal := existing.card + added.length
  if requestedTotal > r.maxSubscriptionsPerClient then
    (.error (.clientLimitExceeded r.maxSubscriptionsPerClient requestedTotal), r)
  else if added.isEmpty then (.ok (.unchanged existing), r)
  else
    let total := providerTotal r.state added
    match order.order.find? (fun p => total p > r.providerLimits.limitFor p) with
    | some p =>
      (.error (.providerLimitExceeded p (r.providerLimits.limitFor p) (total p)), r)
    | none =>
      let owned := { r.state with
        clients := r.state.clients.insert client (existing ∪ added.toFinset) }
      let (state, activated) := incrementReferences owned added
      (.ok { SubscriptionChange.unchanged (state.clientSet client) with added, activated },
        r.publishSnapshotIfChanged state activated)

/-- The result of giving up keys: the reported change, the registry after it,
and the keys that tripped the assertion of `decrement_references`. -/
structure Removal where
  change : SubscriptionChange
  registry : SubscriptionRegistry
  unreferenced : List SubscriptionKey

/-- Remove keys owned by a client. Unknown keys are ignored. -/
def remove (r : SubscriptionRegistry) (client : ClientId) (keys : List SubscriptionKey) :
    Removal :=
  let existing := r.state.clientSet client
  let removed := iter (keys.toFinset ∩ existing)
  if removed.isEmpty then ⟨.unchanged existing, r, []⟩
  else
    let clientKeys := existing \ removed.toFinset
    let clients := r.state.clients.insert client clientKeys
    let owned := { r.state with
      clients := if clientKeys = ∅ then clients.erase client else clients }
    let decrement := decrementReferences owned removed
    { change := { SubscriptionChange.unchanged (decrement.state.clientSet client) with
        removed, deactivated := decrement.deactivated }
      registry := r.publishSnapshotIfChanged decrement.state decrement.deactivated
      unreferenced := decrement.unreferenced }

/-- Remove every key owned by a disconnected client in one atomic operation. -/
def cleanupClient (r : SubscriptionRegistry) (client : ClientId) : Removal :=
  match r.state.clients.lookup client with
  | none => ⟨.unchanged ∅, r, []⟩
  | some clientKeys =>
    let removed := iter clientKeys
    let owned := { r.state with clients := r.state.clients.erase client }
    let decrement := decrementReferences owned removed
    { change := { SubscriptionChange.unchanged ∅ with
        removed, deactivated := decrement.deactivated }
      registry := r.publishSnapshotIfChanged decrement.state decrement.deactivated
      unreferenced := decrement.unreferenced }

end SubscriptionRegistry

/-! ## Runs -/

/-- One atomic registry operation issued by a client. -/
inductive RegistryOp where
  | add (order : ProviderOrder) (client : ClientId) (keys : List SubscriptionKey)
  | remove (client : ClientId) (keys : List SubscriptionKey)
  | cleanupClient (client : ClientId)

namespace SubscriptionRegistry

/-- The registry after an operation, whatever it returned. -/
def step (r : SubscriptionRegistry) : RegistryOp → SubscriptionRegistry
  | .add order client keys => (r.add order client keys).2
  | .remove client keys => (r.remove client keys).registry
  | .cleanupClient client => (r.cleanupClient client).registry

/-- The keys at which the operation trips the assertion of
`decrement_references`. -/
def unreferenced (r : SubscriptionRegistry) : RegistryOp → List SubscriptionKey
  | .add _ _ _ => []
  | .remove client keys => (r.remove client keys).unreferenced
  | .cleanupClient client => (r.cleanupClient client).unreferenced

end SubscriptionRegistry

end MarketStreamGateway
