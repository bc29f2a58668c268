import Signet.Core.IdentityStore
import Signet.Kit.OrderedSet

/-!
# The clients, the streams and the identities of a core

The registry keeps a client for each identity, with the groups the client is responsible
for.  A core has a registry, the streams of its clients, its timers and the store of its
identities.

* `ClientRegistry` — a client under a key is the client of that identity.
* `StreamTable` — the streams that are open, and those the core will abort.
* `CoreRuntime` — a core between two calls.
* `forgetGroup`, `unregisterManagedClient` — what takes from it.
-/

namespace Signet
namespace Core

open Kit Schemas

/-! ## The registry -/

structure GroupClient extends ManagedClient where
  groupIds : OrderedSet String
deriving DecidableEq

/-- The clients, by the identity they are for. -/
structure ClientRegistry where
  clients : AssocMap String GroupClient
  keyed : ∀ identityId client, clients.get identityId = some client →
    client.identityId = identityId

namespace ClientRegistry

variable {registry : ClientRegistry}

def empty : ClientRegistry := ⟨AssocMap.empty, by simp⟩

def register (registry : ClientRegistry) (managed : GroupClient) : ClientRegistry where
  clients := registry.clients.set managed.identityId managed
  keyed := by
    intro identityId client hGet
    rw [AssocMap.get_set] at hGet
    split at hGet
    · next hId =>
      cases hGet
      exact hId.symm
    · exact registry.keyed identityId client hGet

def unregister (registry : ClientRegistry) (identityId : String) : ClientRegistry where
  clients := registry.clients.delete identityId
  keyed := by
    intro identityId' client hGet
    rw [AssocMap.get_delete] at hGet
    split at hGet
    · cases hGet
    · exact registry.keyed identityId' client hGet

def get (registry : ClientRegistry) (identityId : String) : Option GroupClient :=
  registry.clients.get identityId

/-- The first client responsible for a group. -/
def getByGroupId (registry : ClientRegistry) (groupId : String) : Option GroupClient :=
  registry.clients.values.find? fun managed => groupId ∈ managed.groupIds

theorem getByGroupId_eq_none {groupId : String} :
    registry.getByGroupId groupId = none ↔
      ∀ identityId client, registry.get identityId = some client → groupId ∉ client.groupIds := by
  unfold getByGroupId
  rw [List.find?_eq_none]
  constructor
  · intro hNone identityId client hGet hGroup
    exact hNone client (AssocMap.mem_values.mpr ⟨identityId, hGet⟩) (decide_eq_true hGroup)
  · intro hAll client hMem hGroup
    obtain ⟨identityId, hGet⟩ := AssocMap.mem_values.mp hMem
    exact hAll identityId client hGet (of_decide_eq_true hGroup)

/-- Take a group from the first client responsible for it. -/
def forgetGroup (registry : ClientRegistry) (groupId : String) : ClientRegistry :=
  match registry.getByGroupId groupId with
  | none => registry
  | some managed =>
    registry.register { managed with groupIds := managed.groupIds.erase groupId }

/-- A client is still responsible for a forgotten group when it was so and is not the
first that was. -/
theorem get_forgetGroup {groupId identityId : String} {client : GroupClient}
    (hGroup : groupId ∈ client.groupIds) :
    (registry.forgetGroup groupId).get identityId = some client ↔
      registry.get identityId = some client ∧
        ∀ first, registry.getByGroupId groupId = some first → first.identityId ≠ identityId := by
  unfold forgetGroup
  cases hFirst : registry.getByGroupId groupId with
  | none => simp
  | some first =>
    simp only [register, get, AssocMap.get_set, Option.some.injEq, forall_eq']
    split
    · next hId =>
      simp only [Option.some.injEq, hId, ne_eq, not_true_eq_false, and_false, iff_false]
      rintro rfl
      simp at hGroup
    · next hId =>
      constructor
      · intro hGet
        exact ⟨hGet, fun hEq => hId hEq.symm⟩
      · exact And.left

end ClientRegistry

/-! ## Streams -/

/-- The streams a core has opened; a handle tells a stream from every other. -/
structure StreamTable where
  streams : List CoreStream
  opened : List CoreStream
  /-- How many streams have been opened. -/
  handles : Nat
  fresh : ∀ stream ∈ opened, stream.handle < handles

namespace StreamTable

/-- A client has opened a stream, and the core keeps it. -/
def openStream (table : StreamTable) (identityId : String) (kind : StreamKind) : StreamTable where
  streams := table.streams ++ [⟨identityId, kind, table.handles⟩]
  opened := table.opened ++ [⟨identityId, kind, table.handles⟩]
  handles := table.handles + 1
  fresh := by
    intro stream hMem
    rcases List.mem_append.mp hMem with hOld | hNew
    · have := table.fresh stream hOld
      omega
    · rw [List.mem_singleton.mp hNew]
      show table.handles < table.handles + 1
      omega

/-- Abort the streams that pass a test, and keep the others. -/
def abort (table : StreamTable) (test : CoreStream → Bool) : StreamTable where
  streams := table.streams.filter fun stream => !test stream
  opened := table.opened.filter fun stream => stream ∉ table.streams.filter test
  handles := table.handles
  fresh := fun stream hMem => table.fresh stream (List.mem_of_mem_filter hMem)

end StreamTable

/-! ## The core -/

/-- A core between two calls. -/
structure CoreRuntime where
  lifecycle : SignetState
  registry : ClientRegistry
  streamTable : StreamTable
  heartbeatTimer : Bool
  livenessTimer : Bool
  identityStore : IdentityStore

namespace CoreRuntime

def forgetGroup (core : CoreRuntime) (groupId : String) : CoreRuntime :=
  { core with registry := core.registry.forgetGroup groupId }

def unregisterManagedClient (core : CoreRuntime) (identityId : String) : CoreRuntime :=
  { core with registry := core.registry.unregister identityId }

/-- `#stopHeartbeat` -/
def stopHeartbeat (core : CoreRuntime) : CoreRuntime :=
  { core with heartbeatTimer := false, livenessTimer := false }

/-- `#resetStartupArtifacts` -/
def resetStartupArtifacts (core : CoreRuntime) : CoreRuntime :=
  { core.stopHeartbeat with
    streamTable := core.streamTable.abort fun _ => true
    registry := .empty }

end CoreRuntime

end Core
end Signet
