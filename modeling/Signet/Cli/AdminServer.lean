import Signet.Cli.ReadElevation
import Signet.Core.Invite
import Signet.Kit.JsonReading
import Signet.Kit.Lines
import Signet.Kit.Turn

/-!
# The admin socket

What is done with the bytes of a connection to the admin socket.  Each chunk is decoded on its
own and put behind what is left of the one before; each complete line is handed to `handleLine`,
which is not awaited.  A line is handled up to its first await; a step is a chunk that comes, or
the end of something a line awaits.

`JSON.parse`, the key manager, the manager of elevated reads and the dispatcher are given as
what they answer.

* `handleLine`, `resume` — a line.
* `adminStep`, `adminMachine` — the steps.
-/

namespace Signet
namespace Cli
namespace Admin

open Kit Schemas

/-! ## Frames -/

/-- The identifier of a request. -/
inductive RpcId where
  | number (value : Int)
  | string (value : String)
deriving DecidableEq, Repr

structure JsonRpcRequest where
  id : RpcId
  method : String
  params : AssocMap String Json
deriving DecidableEq

/-- `AdminAuthFrameSchema`: the token of an auth frame. -/
def adminAuthFrame (value : Json) : Option String :=
  match value.property "type", value.property "token" with
  | some (.string kind), some (.string token) => if kind = "admin_auth" then some token else none
  | _, _ => none

def rpcId : Json → Option RpcId
  | .number value => some (.number value)
  | .string value => some (.string value)
  | _ => none

/-- The parameters of a request; there are none where they are left out. -/
def rpcParams : Option Json → Option (AssocMap String Json)
  | none => some .empty
  | some (.object members) =>
    some (members.foldl (fun params member => params.set member.1 member.2) .empty)
  | some _ => none

/-- `JsonRpcRequestSchema` -/
def jsonRpcRequest (value : Json) : Option JsonRpcRequest :=
  match value.property "jsonrpc", (value.property "id").bind rpcId, value.property "method",
    rpcParams (value.property "params") with
  | some (.string version), some id, some (.string method), some params =>
    if version = "2.0" then some ⟨id, method, params⟩ else none
  | _, _, _, _ => none

namespace JsonRpcErrors

/-- `JSON_RPC_ERRORS` -/
def parseError : Int := -32700
def invalidRequest : Int := -32600
def methodNotFound : Int := -32601
def invalidParams : Int := -32602
def internalError : Int := -32603
def authFailed : Int := -32000
def permissionDenied : Int := -32001
def notFound : Int := -32002

end JsonRpcErrors

def jsonRpcCodeForCategory : ErrorCategory → Int
  | .validation => JsonRpcErrors.invalidParams
  | .auth => JsonRpcErrors.authFailed
  | .permission => JsonRpcErrors.permissionDenied
  | .notFound => JsonRpcErrors.notFound
  | _ => JsonRpcErrors.internalError

/-- What is written to the socket for a line. -/
inductive AdminReply where
  | authenticated
  | success (id : RpcId) (result : Json)
  | error (id : Option RpcId) (code : Int) (message : String) (data : Option SignetError)
deriving DecidableEq

/-! ## Connections -/

/-- The claims of a token the server uses. -/
structure AdminJwtPayload where
  iss : String
  jti : String
deriving DecidableEq, Repr

/-- The part of a handler context that differs from request to request. -/
structure AdminHandlerContext where
  adminKeyFingerprint : String
  adminReadElevation : Option AdminReadElevation
deriving DecidableEq

structure AdminServerDeps where
  /-- `JSON.parse`; `none` where it throws. -/
  parse : String → Option Json
  verifyJwt : String → Except SignetError AdminJwtPayload
  hasMethod : String → Bool
  validate : String → AssocMap String Json → Except SignetError (AssocMap String Json)
  resolveForRequest :
    ResolveAdminReadElevationInput → Except SignetError (Option AdminReadElevation)
  dispatchValidated :
    String → AssocMap String Json → AdminHandlerContext → Except SignetError Json

/-- The variables of a connection, without its buffer. -/
structure ConnectionState where
  authenticated : Bool
  adminFingerprint : Option String
  adminSessionKey : Option String
deriving DecidableEq, Repr

def ConnectionState.initial : ConnectionState := ⟨false, none, none⟩

inductive LineTask where
  | verifying (token : String)
  | elevating (request : JsonRpcRequest) (params : AssocMap String Json)
      (input : ResolveAdminReadElevationInput)
  | dispatching (request : JsonRpcRequest) (params : AssocMap String Json)
      (context : AdminHandlerContext)
deriving DecidableEq

variable (deps : AdminServerDeps)

/-- What the transport itself reads of the parameters is put with the validated ones. -/
def mergeTransportControls (rawParams validatedParams : AssocMap String Json) :
    AssocMap String Json :=
  match rawParams.get "dangerouslyAllowMessageRead" with
  | some (.bool true) => validatedParams.set "dangerouslyAllowMessageRead" (.bool true)
  | some (.string "true") => validatedParams.set "dangerouslyAllowMessageRead" (.string "true")
  | _ => validatedParams

/-- A parsed line before the authentication. -/
def handleAuthFrame (value : Json) : AdminReply ⊕ LineTask :=
  match adminAuthFrame value with
  | none =>
    .inl (.error none JsonRpcErrors.authFailed "Expected admin_auth frame as first message" none)
  | some token => .inr (.verifying token)

/-- The reply to a request that fails. -/
def refuse (request : JsonRpcRequest) (error : SignetError) : AdminReply :=
  .error (some request.id) (jsonRpcCodeForCategory error.category) error.message (some error)

/-- A parsed line after the authentication. -/
def handleRequest (state : ConnectionState) (value : Json) : AdminReply ⊕ LineTask :=
  match jsonRpcRequest value with
  | none => .inl (.error none JsonRpcErrors.invalidRequest "Invalid JSON-RPC request" none)
  | some request =>
    if deps.hasMethod request.method = false then
      .inl (.error (some request.id) JsonRpcErrors.methodNotFound
        ("Method '" ++ request.method ++ "' not found") none)
    else
      match deps.validate request.method request.params with
      | .error error => .inl (refuse request error)
      | .ok params =>
        .inr (.elevating request params
          { method := request.method
            params := mergeTransportControls request.params params
            adminFingerprint := state.adminFingerprint.getD ""
            sessionKey := (state.adminSessionKey.or state.adminFingerprint).getD "" })

/-- A line, up to its reply or its first await. -/
def handleLine (state : ConnectionState) (line : String) : AdminReply ⊕ LineTask :=
  match deps.parse line with
  | none => .inl (.error none JsonRpcErrors.parseError "Parse error" none)
  | some value => if state.authenticated then handleRequest deps state value else handleAuthFrame value

def ConnectionState.of (payload : AdminJwtPayload) : ConnectionState :=
  ⟨true, some payload.iss, some (payload.iss ++ ":" ++ payload.jti)⟩

def verified (state : ConnectionState) (token : String) : ConnectionState × AdminReply :=
  match deps.verifyJwt token with
  | .error error => (state, .error none JsonRpcErrors.authFailed error.message none)
  | .ok payload => (.of payload, .authenticated)

def dispatched (request : JsonRpcRequest) (params : AssocMap String Json)
    (context : AdminHandlerContext) : AdminReply :=
  match deps.dispatchValidated request.method params context with
  | .ok result => .success request.id result
  | .error error => refuse request error

/-- What a line awaits has ended: it is replied to, or awaits something else. -/
def resume (state : ConnectionState) : LineTask → ConnectionState × (AdminReply ⊕ LineTask)
  | .verifying token => ((verified deps state token).1, .inl (verified deps state token).2)
  | .elevating request params input =>
    (state,
      match deps.resolveForRequest input with
      | .error error => .inl (refuse request error)
      | .ok elevation =>
        .inr (.dispatching request params ⟨state.adminFingerprint.getD "", elevation⟩))
  | .dispatching request params context => (state, .inl (dispatched deps request params context))

/-! ## The steps -/

/-- `new TextDecoder().decode`: a byte order mark at the start of the data is left out. -/
def textDecode (data : List UInt8) : List Char :=
  match Utf8.decodeFrom Utf8.idle data with
  | c :: text => if c = Char.ofNat 0xFEFF then text else c :: text
  | [] => []

/-- A connection: its variables, the lines that await something, each under its number, and how
many lines there have been. -/
structure AdminSocket where
  state : ConnectionState
  buffer : List Char
  tasks : AssocMap Nat LineTask
  lines : Nat

def AdminSocket.opened : AdminSocket := ⟨.initial, [], .empty, 0⟩

inductive AdminObservation where
  /-- A line is handed to `handleLine`. -/
  | handled (line : String)
  | replied (line : Nat) (reply : AdminReply)
deriving DecidableEq

abbrev AdminTurn := AdminSocket × List AdminObservation

/-- The line under a number is replied to, or awaits something. -/
def putLine (s : AdminSocket) (number : Nat) : AdminReply ⊕ LineTask → AdminTurn
  | .inl reply => ({ s with tasks := s.tasks.delete number }, [.replied number reply])
  | .inr task => ({ s with tasks := s.tasks.set number task }, [])

/-- A line is handled, and not awaited. -/
def takeLine (s : AdminSocket) (line : String) : AdminTurn :=
  andThen ({ s with lines := s.lines + 1 }, [.handled line]) fun t =>
    putLine t s.lines (handleLine deps s.state line)

/-- The lines of some text that are not empty. -/
def requestLines (lines : List (List Char)) : List String :=
  (lines.map fun line => Core.trimmed (String.ofList line)).filter fun line => line ≠ ""

def takeLines (s : AdminSocket) : List String → AdminTurn
  | [] => (s, [])
  | line :: lines => andThen (takeLine deps s line) fun t => takeLines t lines

/-- A chunk comes. -/
def onData (s : AdminSocket) (data : List UInt8) : AdminTurn :=
  let cut := splitLines (s.buffer ++ textDecode data)
  takeLines deps { s with buffer := cut.2 } (requestLines cut.1)

inductive AdminLabel where
  | data (bytes : List UInt8)
  /-- What a line awaits has ended. -/
  | resumed (line : Nat)
deriving DecidableEq

/-- One step; `none` when the event cannot come in the state. -/
def adminStep (s : AdminSocket) : AdminLabel → Option AdminTurn
  | .data bytes => some (onData deps s bytes)
  | .resumed number => do
      let task ← s.tasks.get number
      let resumed := resume deps s.state task
      some (putLine { s with state := resumed.1 } number resumed.2)

/-- The machine of a connection. -/
def adminMachine : Machine AdminSocket AdminLabel AdminObservation :=
  ⟨.opened, adminStep deps⟩

abbrev AdminOccurrence := Occurrence AdminSocket AdminLabel AdminObservation

end Admin
end Cli
end Signet
