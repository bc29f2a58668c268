import Signet.Kit.AssocMap
import Signet.Kit.JsonReading
import Signet.Schemas.Errors

/-!
# Tracked requests

A request is tracked under the id it is sent with, until its response comes, its timeout
fires, or all are rejected.  The timeout of a request removes what is tracked under its id;
its own promise it settles in any case.
-/

namespace Signet
namespace Sdk

open Kit Schemas

abbrev RequestResult := Except SignetError (Option Json)

/-- `createRequestTracker`: the promise each id waits for, and the armed timeouts. -/
structure RequestTracker where
  pending : AssocMap String Nat
  timers : AssocMap Nat String

def createRequestTracker : RequestTracker := ⟨.empty, .empty⟩

namespace RequestTracker

def track (t : RequestTracker) (request : Nat) (requestId : String) : RequestTracker :=
  ⟨t.pending.set requestId request, t.timers.set request requestId⟩

/-- A pending request is settled; an unknown id is ignored. -/
def resolve (t : RequestTracker) (requestId : String) (result : RequestResult) :
    RequestTracker × List (Nat × RequestResult) :=
  match t.pending.get requestId with
  | none => (t, [])
  | some request =>
    (⟨t.pending.delete requestId, t.timers.delete request⟩, [(request, result)])

/-- All pending requests are settled with an error. -/
def rejectAll (t : RequestTracker) (error : SignetError) :
    RequestTracker × List (Nat × RequestResult) :=
  (⟨.empty, t.pending.values.foldl AssocMap.delete t.timers⟩,
    t.pending.values.map fun request => (request, .error error))

/-- The timeout of a request fires. -/
def expire (t : RequestTracker) (timeoutMs request : Nat) :
    Option (RequestTracker × List (Nat × RequestResult)) :=
  (t.timers.get request).map fun requestId =>
    (⟨t.pending.delete requestId, t.timers.delete request⟩,
      [(request, .error (TimeoutError.create "request" timeoutMs))])

end RequestTracker

end Sdk
end Signet
