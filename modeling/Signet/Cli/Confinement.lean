import Signet.Cli.EventProjector
import Signet.Ws.Provenance

/-!
# What the projector confines

The websocket server with the production projector.  Message events are
confined to the chats in effect when they are projected; any other event passes
as it is.  A replay sends the projection made when the event was broadcast.

* `projector_confines_messages` — for one call, and for every message frame of
  a run.
* `replay_sends_projections` — what is replayed after an authentication.
-/

namespace Signet
namespace Cli

open Kit Machine Schemas Policy Sessions Ws

variable (parseDate : String → Option Int)

/-- The chat resolver, where one is wired, narrows the chats of the record. -/
def ProjectorWorld.Narrows (world : ProjectorWorld) (credential : CredentialRecord) : Prop :=
  ∀ getChatIds, world.getChatIds = some getChatIds →
    getChatIds credential.credentialId ⊆ credential.config.chatIds

/-- The server runs with the production projector. -/
def UsesProjector (deps : WsServerDeps ProjectorWorld) : Prop :=
  deps.projectEvent = some (createEventProjector parseDate)

variable {parseDate} {deps : WsServerDeps ProjectorWorld}

theorem project_eq (hProjector : UsesProjector parseDate deps) (world : ProjectorWorld)
    (event : SignetEvent) (credential : CredentialRecord) :
    deps.project world event credential = createEventProjector parseDate world event credential := by
  unfold WsServerDeps.project
  rw [hProjector]

theorem projected_message (hProjector : UsesProjector parseDate deps)
    {h : ServerHistory ProjectorWorld} {credentialId : String} {shown : MessageEvent}
    (hSourced : Sourced deps h credentialId (.messageVisible shown)) :
    ∃ message record world, Broadcasted h credentialId (.messageVisible message) ∧
      Answered h record ∧ record.status = .active ∧ (∃ o ∈ h, o.label.world = world) ∧
      createEventProjector parseDate world (.messageVisible message) record =
        some (.messageVisible shown) := by
  rcases hSourced with ⟨original, record, world, hOriginal, hRecord, hActive, hWorld, hProject⟩ |
    hOther
  · rw [project_eq hProjector] at hProject
    obtain ⟨message, rfl⟩ := createEventProjector_source parseDate hProject
    exact ⟨message, record, world, hOriginal, hRecord, hActive, hWorld, hProject⟩
  · exact absurd rfl (hOther shown)

variable (parseDate)

/-- **The projector confines messages.**  What comes out of a message event is
that message, in a chat in effect, hence in a chat of the record unless a
resolver widens it; any other event comes out as it went in.  So every message
frame on a socket is about a chat in effect for the active record it was
projected with. -/
theorem projector_confines_messages :
    (∀ world event credential projected,
      createEventProjector parseDate world event credential = some projected →
        (∃ message shown, event = .messageVisible message ∧
          projected = .messageVisible shown ∧ shown.groupId = message.groupId ∧
          shown.groupId ∈ chatsInEffect world credential ∧
          (world.Narrows credential → shown.groupId ∈ credential.config.chatIds)) ∨
        ((∀ message, event ≠ .messageVisible message) ∧ projected = event)) ∧
      ∀ (deps : WsServerDeps ProjectorWorld) (h : ServerHistory ProjectorWorld)
        (s : Server ProjectorWorld), UsesProjector parseDate deps →
        (serverMachine deps).Runs h s → ∀ id, ∀ frame ∈ s.sequencedOn id, ∀ shown,
          frame.event = .messageVisible shown →
            ∃ record world, Answered h record ∧ record.status = .active ∧
              (∃ o ∈ h, o.label.world = world) ∧
              shown.groupId ∈ chatsInEffect world record ∧
              (world.Narrows record → shown.groupId ∈ record.config.chatIds) := by
  constructor
  · intro world event credential projected hProject
    by_cases hMessage : ∃ message, event = .messageVisible message
    · obtain ⟨message, rfl⟩ := hMessage
      obtain ⟨shown, hShown, hGroup, hChat⟩ := createEventProjector_message parseDate hProject
      refine .inl ⟨message, shown, rfl, hShown, hGroup, hChat, ?_⟩
      intro hNarrow
      exact chatsInEffect_subset hNarrow hChat
    · have hOther : ∀ message, event ≠ .messageVisible message :=
        fun message hEq => hMessage ⟨message, hEq⟩
      rw [createEventProjector_other parseDate hOther] at hProject
      exact .inr ⟨hOther, (Option.some.inj hProject).symm⟩
  · intro deps h s hProjector hRun id frame hFrame shown hShown
    obtain ⟨credentialId, hSourced⟩ := (Server.provenance_of_runs hRun).sent id frame hFrame
    rw [hShown] at hSourced
    obtain ⟨message, record, world, -, hRecord, hActive, hWorld, hProject⟩ :=
      projected_message hProjector hSourced
    obtain ⟨shown', hEq, -, hChat⟩ := createEventProjector_message parseDate hProject
    cases hEq
    refine ⟨record, world, hRecord, hActive, hWorld, hChat, ?_⟩
    intro hNarrow
    exact chatsInEffect_subset hNarrow hChat

/-- A credential for one chat. -/
def confinedRecord (allow : List PermissionScope) : CredentialRecord where
  id := "cred"
  config := { operatorId := "op", chatIds := ["conv"] }
  inboxIds := []
  status := .active
  issuedAt := 0
  expiresAt := 1000
  issuedBy := "admin"
  credentialId := "cred"
  operatorId := "op"
  effectiveScopes := ⟨allow, []⟩
  isExpired := false
  lastHeartbeat := 0

/-- No credential has a reveal, and no resolver is wired. -/
def plainWorld : ProjectorWorld where
  now := 0
  getRevealState := fun _ => none

/-- The content of a revealed message of a chat passes to a credential that is
not for that chat. -/
theorem foreign_reveal_passes :
    ∃ event : SignetEvent, createEventProjector (fun _ => none) plainWorld event
        (confinedRecord [.readMessages]) = some event ∧
      "other" ∈ namedChats event ∧
      "other" ∉ (confinedRecord [.readMessages]).config.chatIds := by
  refine ⟨.messageRevealed ⟨"m", "other", "text", .string "hello", "reveal"⟩, rfl, ?_, ?_⟩
  · decide
  · decide

/-- The server with the production projector, with no readable dates. -/
def projectorDeps : WsServerDeps ProjectorWorld where
  config := sampleServerDeps.config
  projectEvent := some (createEventProjector fun _ => none)
  sha256Hex := fun text => text
  closesSynchronously := true

/-- Events at time zero in a world without reveals. -/
def inPlainWorld (events : List ServerEvent) : List (ServerLabel ProjectorWorld) :=
  events.map fun event => ⟨0, plainWorld, event⟩

def chatMessage : MessageEvent :=
  ⟨"m", "conv", "alice", "text", .string "hello", .visible, "t", none, none⟩

/-- A connection that may read is sent a message and leaves; the next one, whose
record may not read any more, asks for what it has missed. -/
def narrowedReplayEvents : List ServerEvent :=
  [.start none,
   .open, .message 0 (.json (.auth ⟨"token", none⟩ none)),
   .tokenLookedUp 0 (some (.ok (confinedRecord [.readMessages]))), .fingerprinted 1,
   .broadcast "cred" (.messageVisible chatMessage), .closed 0,
   .open, .message 1 (.json (.auth ⟨"token", some 0⟩ none)),
   .tokenLookedUp 2 (some (.ok (confinedRecord [])))]

theorem narrowedReplayEvents_enabled : ((serverMachine projectorDeps).exec .create
    (inPlainWorld narrowedReplayEvents)).isSome = true := by decide

/-- The state in front of the replay. -/
def beforeReplay : Server ProjectorWorld :=
  ((serverMachine projectorDeps).outcome .create _ narrowedReplayEvents_enabled).2

def stepsBeforeReplay : ServerHistory ProjectorWorld :=
  ((serverMachine projectorDeps).outcome .create _ narrowedReplayEvents_enabled).1

theorem beforeReplay_exec : (serverMachine projectorDeps).exec .create
    (inPlainWorld narrowedReplayEvents) = some (stepsBeforeReplay, beforeReplay) :=
  exec_outcome narrowedReplayEvents_enabled

/-- The message that was sent is about a chat of the record. -/
theorem projector_confines_messages_chat :
    ∃ frame ∈ beforeReplay.sequencedOn 0, ∃ shown, frame.event = .messageVisible shown ∧
      ∃ record world, Answered stepsBeforeReplay record ∧ record.status = .active ∧
        (∃ o ∈ stepsBeforeReplay, o.label.world = world) ∧
        shown.groupId ∈ chatsInEffect world record ∧
        (world.Narrows record → shown.groupId ∈ record.config.chatIds) := by
  have hFrame : ⟨1, .messageVisible chatMessage⟩ ∈ beforeReplay.sequencedOn 0 := by
    decide
  refine ⟨_, hFrame, chatMessage, rfl, ?_⟩
  exact (projector_confines_messages fun _ => none).2 projectorDeps stepsBeforeReplay beforeReplay
    rfl (runs_of_exec beforeReplay_exec) 0 _ hFrame chatMessage rfl

/-! ## Replay -/

/-- What a message is projected by has not changed between two moments. -/
structure SameAuthority (message : MessageEvent) (world world' : ProjectorWorld)
    (record record' : CredentialRecord) : Prop where
  scopes : record'.effectiveScopes = record.effectiveScopes
  chats : chatsInEffect world' record' = chatsInEffect world record
  reveals : isRevealedTo parseDate world' message record' =
    isRevealedTo parseDate world message record

/-- **A replay sends projections.**  The message frames that an authentication
puts on its socket are what the projector made, in the world of an earlier step,
of messages broadcast to the credential, with active records that lookups had
answered.  They are not projected again; where the authority is still the same,
projecting again would make no difference. -/
theorem replay_sends_projections {deps : WsServerDeps ProjectorWorld}
    (hProjector : UsesProjector parseDate deps) {h : ServerHistory ProjectorWorld}
    {s t : Server ProjectorWorld} {label : ServerLabel ProjectorWorld} {out : List Returned}
    (hRun : (serverMachine deps).Runs h s) (hStep : serverStep deps s label = some (t, out))
    {task : Nat} {handshake : Handshake} (hEvent : label.event = .fingerprinted task)
    (hTask : s.tasks.get task = some (.authFingerprint handshake)) :
    ∃ new, t.sequencedOn handshake.conn = s.sequencedOn handshake.conn ++ new ∧
      ∀ frame ∈ new, ∀ shown, frame.event = .messageVisible shown →
        ∃ message record world,
          Broadcasted h handshake.credential.credentialId (.messageVisible message) ∧
          Answered h record ∧ record.status = .active ∧ (∃ o ∈ h, o.label.world = world) ∧
          createEventProjector parseDate world (.messageVisible message) record =
            some frame.event ∧
          (SameAuthority parseDate message world label.world record handshake.credential →
            createEventProjector parseDate label.world (.messageVisible message)
              handshake.credential = some frame.event) := by
  have hState : t = (s.take task).finishHandshake deps label.now handshake := by
    obtain ⟨now, world, event⟩ := label
    dsimp only at hEvent
    subst hEvent
    unfold serverStep quietStep at hStep
    simp only [hTask, Option.map_some, Option.some.injEq, Prod.mk.injEq] at hStep
    exact hStep.1.symm
  obtain ⟨new, hNew, hFrames⟩ :=
    Server.sequencedOn_finishHandshake deps label.now (s.take task) handshake
  refine ⟨new, by rw [hState]; exact hNew, ?_⟩
  intro frame hFrame shown hShown
  rcases hFrames frame hFrame with hReplay | hRecovery
  · have hSourced := (Server.provenance_of_runs hRun).handshakes task handshake hTask frame hReplay
    rw [hShown] at hSourced
    obtain ⟨message, record, world, hOriginal, hRecord, hActive, hWorld, hProject⟩ :=
      projected_message hProjector hSourced
    rw [← hShown] at hProject
    refine ⟨message, record, world, hOriginal, hRecord, hActive, hWorld, hProject, ?_⟩
    intro hSame
    rw [← hProject]
    refine createEventProjector_congr parseDate hSame.scopes hSame.chats ?_
    rintro message' ⟨⟩
    exact hSame.reveals
  · rw [hShown] at hRecovery
    cases hRecovery

/-- The authentication that is replayed to. -/
def narrowedHandshake : Handshake :=
  ⟨1, ⟨"token", some 0⟩, confinedRecord [],
    ⟨some 0, false, [⟨1, .messageVisible chatMessage⟩]⟩⟩

theorem narrowedHandshake_awaits :
    beforeReplay.tasks.get 3 = some (.authFingerprint narrowedHandshake) := by decide

theorem narrowedReplay_step : ∃ t, serverStep projectorDeps beforeReplay
    ⟨0, plainWorld, .fingerprinted 3⟩ = some (t, []) ∧
      t = (beforeReplay.take 3).finishHandshake projectorDeps 0 narrowedHandshake := by
  refine ⟨_, ?_, rfl⟩
  unfold serverStep quietStep
  simp only [narrowedHandshake_awaits, Option.map_some]

/-- What is replayed is what was projected before. -/
theorem replay_sends_projections_narrowed :
    ∃ t new, serverStep projectorDeps beforeReplay ⟨0, plainWorld, .fingerprinted 3⟩ =
        some (t, []) ∧
      t.sequencedOn 1 = beforeReplay.sequencedOn 1 ++ new ∧
      ∀ frame ∈ new, ∀ shown, frame.event = .messageVisible shown →
        ∃ message record world, Broadcasted stepsBeforeReplay "cred" (.messageVisible message) ∧
          Answered stepsBeforeReplay record ∧ record.status = .active ∧
          (∃ o ∈ stepsBeforeReplay, o.label.world = world) ∧
          createEventProjector (fun _ => none) world (.messageVisible message) record =
            some frame.event := by
  obtain ⟨t, hStep, -⟩ := narrowedReplay_step
  have hUses : UsesProjector (fun _ => none) projectorDeps := rfl
  obtain ⟨new, hNew, hFrames⟩ := replay_sends_projections (fun _ => none) hUses
    (runs_of_exec beforeReplay_exec) hStep rfl narrowedHandshake_awaits
  refine ⟨t, new, hStep, hNew, ?_⟩
  intro frame hFrame shown hShown
  obtain ⟨message, record, world, hOriginal, hRecord, hActive, hWorld, hProject, -⟩ :=
    hFrames frame hFrame shown hShown
  exact ⟨message, record, world, hOriginal, hRecord, hActive, hWorld, hProject⟩

/-- The message goes out once more, to a record that may not read it: for no
broadcast message does the projector emit anything any more. -/
theorem message_replayed_after_narrowing :
    ∃ t, serverStep projectorDeps beforeReplay ⟨0, plainWorld, .fingerprinted 3⟩ =
        some (t, []) ∧
      narrowedHandshake.credential = confinedRecord [] ∧
      beforeReplay.sequencedOn 1 = [] ∧
      t.sequencedOn 1 = [⟨1, .messageVisible chatMessage⟩] ∧
      ∀ message, Broadcasted stepsBeforeReplay "cred" (.messageVisible message) →
        createEventProjector (fun _ => none) plainWorld (.messageVisible message)
          (confinedRecord []) = none := by
  obtain ⟨t, hStep, hState⟩ := narrowedReplay_step
  refine ⟨t, hStep, rfl, by decide, by rw [hState]; decide, ?_⟩
  rintro message ⟨o, ho, hEvent⟩
  have hLabel : o.label ∈ inPlainWorld narrowedReplayEvents := by
    rw [← exec_labels beforeReplay_exec]
    exact List.mem_map_of_mem ho
  -- one message was broadcast
  have hMessage : message = chatMessage := by
    obtain ⟨event, hMem, hEq⟩ := List.mem_map.mp hLabel
    have hBroadcast : event = .broadcast "cred" (.messageVisible message) := by
      rw [← hEvent, ← hEq]
    rw [hBroadcast] at hMem
    simpa [narrowedReplayEvents] using hMem
  rw [hMessage]
  decide

end Cli
end Signet
