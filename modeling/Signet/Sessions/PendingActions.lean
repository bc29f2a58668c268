import Signet.Kit.AssocMap
import Signet.Kit.Json

/-!
# Pending actions awaiting owner confirmation

An in-memory store of queued actions.  Confirming or denying an action removes
it, so an action runs at most once.
-/

namespace Signet
namespace Sessions

open Kit

structure SendPayload where
  groupId : String
  contentType : String
  content : Json
deriving DecidableEq

/-- A queued action awaiting explicit owner approval.  The handler casts the
payload by the action type and reads it for `send_message` only. -/
structure PendingAction where
  actionId : String
  credentialId : String
  actionType : String
  payload : SendPayload
  createdAt : Int
  expiresAt : Int
deriving DecidableEq

/-- The queued actions by id. -/
structure PendingActionStore where
  actions : AssocMap String PendingAction

namespace PendingActionStore

/-- `createPendingActionStore` -/
def empty : PendingActionStore := ⟨.empty⟩

def add (store : PendingActionStore) (action : PendingAction) : PendingActionStore :=
  ⟨store.actions.set action.actionId action⟩

/-- Look up a pending action by ID. -/
def get (store : PendingActionStore) (actionId : String) : Option PendingAction :=
  store.actions.get actionId

def removeAndReturn (store : PendingActionStore) (actionId : String) :
    PendingActionStore × Option PendingAction :=
  match store.actions.get actionId with
  | none => (store, none)
  | some action => (⟨store.actions.delete actionId⟩, some action)

/-- `confirm` -/
def confirm (store : PendingActionStore) (actionId : String) :
    PendingActionStore × Option PendingAction :=
  store.removeAndReturn actionId

/-- `deny` -/
def deny (store : PendingActionStore) (actionId : String) :
    PendingActionStore × Option PendingAction :=
  store.removeAndReturn actionId

/-- Remove all expired actions and return them. -/
def expireStale (store : PendingActionStore) (now : Int) :
    PendingActionStore × List PendingAction :=
  let expired := store.actions.values.filter (fun action => action.expiresAt ≤ now)
  (expired.foldl (fun s action => ⟨s.actions.delete action.actionId⟩) store, expired)

@[simp]
theorem confirm_snd (store : PendingActionStore) (actionId : String) :
    (store.confirm actionId).2 = store.get actionId := by
  unfold confirm removeAndReturn get
  split
  · next h => exact h.symm
  · next action h => exact h.symm

end PendingActionStore

end Sessions
end Signet
