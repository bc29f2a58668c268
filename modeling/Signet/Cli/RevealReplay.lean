import Signet.Cli.HarnessSystem

/-!
# What a reveal replays

A `reveal_content` request records the reveal, awaits the message history and
broadcasts some of its messages.  Which ones is decided in three places: the
reveal state matches them, the pipeline filters them by chat, and the pipeline
drops every historical message of a credential without `read-history`, revealed
or not.

* `ActivelyRevealed` — an unexpired reveal of the credential is for the message.
* `Replayed` — what the handler asks of a message, in the words of the scopes.
* `reveal_replay_exact` — the broadcasts are the replayed messages of the list.
-/

namespace Signet
namespace Cli

open Kit Schemas Policy Sessions

variable (deps : HandlerDeps)

/-- The reveals recorded for a credential, oldest first. -/
def revealsOf (store : CredentialStore) (credentialId : String) : List RevealEntry :=
  ((store.revealStates.get credentialId).getD createRevealStateStore).entries

/-- An unexpired reveal of the credential matches the message. -/
def ActivelyRevealed (now : Int) (store : CredentialStore) (credentialId : String)
    (msg : ReplayMessage) : Prop :=
  ∃ entry ∈ revealsOf store credentialId,
    RevealStateStore.Reveals deps.parseDate now msg.messageId msg.groupId msg.threadId
      msg.senderInboxId msg.contentType msg.sentAt entry

instance (now : Int) (store : CredentialStore) (credentialId : String) (msg : ReplayMessage) :
    Decidable (ActivelyRevealed deps now store credentialId msg) :=
  decidable_of_iff _ RevealStateStore.isRevealed_iff

def RevealedInChat (now : Int) (store : CredentialStore) (credential : CredentialRecord)
    (msg : ReplayMessage) : Prop :=
  msg.groupId ∈ credential.config.chatIds ∧
    ActivelyRevealed deps now store credential.credentialId msg

instance (now : Int) (store : CredentialStore) (credential : CredentialRecord)
    (msg : ReplayMessage) : Decidable (RevealedInChat deps now store credential msg) :=
  inferInstanceAs (Decidable (_ ∧ _))

/-- The message is revealed, and the credential may read history. -/
def Replayed (now : Int) (store : CredentialStore) (credential : CredentialRecord)
    (msg : ReplayMessage) : Prop :=
  RevealedInChat deps now store credential msg ∧
    PermissionScope.readHistory ∈ resolveScopeSet credential.effectiveScopes

instance (now : Int) (store : CredentialStore) (credential : CredentialRecord)
    (msg : ReplayMessage) : Decidable (Replayed deps now store credential msg) :=
  inferInstanceAs (Decidable (_ ∧ _))

def revealEvent (access : RevealAccess) (msg : ReplayMessage) : SignetEvent :=
  .messageRevealed
    { messageId := msg.messageId
      groupId := msg.groupId
      contentType := msg.contentType
      content := msg.content
      revealId := access.revealId }

section

variable (now : Int) (store : CredentialStore) (access : RevealAccess)

/-- One turn of the replay loop. -/
theorem replayedEvent_eq (credential : CredentialRecord) (msg : ReplayMessage) :
    replayedEvent deps now store access credential msg =
      if Replayed deps now store credential msg then some (revealEvent access msg)
      else none := by
  unfold replayedEvent
  simp only [Bool.not_eq_true']
  split
  · next hRevealed =>
    have hNot : ¬ ActivelyRevealed deps now store credential.credentialId msg := by
      intro hActive
      rw [RevealStateStore.isRevealed_iff.mpr hActive] at hRevealed
      cases hRevealed
    rw [if_neg fun h => hNot h.1.2]
  · next hRevealed =>
    rw [Bool.not_eq_false] at hRevealed
    have hActive : ActivelyRevealed deps now store credential.credentialId msg :=
      RevealStateStore.isRevealed_iff.mp hRevealed
    -- the reveal opens the visibility stage, so chat and history scope decide
    split
    · next hReplayed =>
      have hGates := And.intro hReplayed.1.1 (And.intro (List.mem_singleton.mpr
        (rfl : msg.contentType = msg.contentType)) hReplayed.2)
      rw [Option.map_eq_some_iff]
      refine ⟨_, Option.some_get (projectMessage_isSome_iff.mpr
        ⟨hGates.1, hGates.2.1, Or.inr rfl, fun _ => hGates.2.2⟩) |>.symm, ?_⟩
      rw [projectMessage_content (Option.some_get _).symm]
      rfl
    · next hWithheld =>
      rw [Option.map_eq_none_iff, ← Option.not_isSome_iff_eq_none, projectMessage_isSome_iff]
      rintro ⟨hChat, -, -, hHistory⟩
      exact hWithheld ⟨⟨hChat, hActive⟩, hHistory rfl⟩

theorem filterMap_replayedEvent (credential : CredentialRecord) (messages : List ReplayMessage) :
    messages.filterMap (replayedEvent deps now store access credential) =
      (messages.filter (Replayed deps now store credential)).map (revealEvent access) := by
  induction messages with
  | nil => rfl
  | cons msg messages ih =>
    rw [List.filterMap_cons, replayedEvent_eq]
    by_cases hReplayed : Replayed deps now store credential msg
    · simp only [hReplayed, if_true, ih, List.filter_cons, decide_true, List.map_cons]
    · simp only [hReplayed, if_false, ih, List.filter_cons, decide_false,
        Bool.false_eq_true]

end

def grantedAccess (now : Int) (reveal : RevealRequest) : RevealAccess where
  revealId := reveal.revealId
  grantedAt := now
  grantedBy := reveal.requestedBy
  expiresAt := reveal.expiresAt

theorem handleRevealContent_records {now : Int} {state state' : HandlerState}
    {reveal : RevealRequest} {credential : CredentialRecord} {effects : List Effect}
    {stage : HandlerStage}
    (hStart : handleRevealContent deps now state reveal credential =
      (state', effects, .await stage)) :
    effects = [] ∧ stage = .listing (grantedAccess now reveal) credential ∧
      revealsOf state'.store credential.credentialId =
        revealsOf state.store credential.credentialId ++ [⟨grantedAccess now reveal, reveal⟩] := by
  unfold handleRevealContent at hStart
  split at hStart
  · cases hStart
  · simp only at hStart
    split at hStart
    · cases hStart
    · next reveals hOpened =>
      split at hStart
      · simp only [Prod.mk.injEq, Progress.await.injEq] at hStart
        obtain ⟨rfl, rfl, rfl⟩ := hStart
        refine ⟨rfl, rfl, ?_⟩
        have hSame : ((getRevealState state.store credential.credentialId).1.revealStates.get
              credential.credentialId).getD createRevealStateStore =
            (state.store.revealStates.get credential.credentialId).getD
              createRevealStateStore := by
          unfold getRevealState
          split
          · rfl
          · split
            · next _ _ hSome => rw [hSome]
            · next _ _ hNone => simp [hNone]
        simp only [revealsOf, recordReveal, AssocMap.get_set, if_true, Option.getD_some,
          RevealStateStore.record, hSame]
        rfl
      · cases hStart

/-- **What a reveal replays.**  A request that gets to the history broadcasts,
once each and in the order of the list, the messages of the chats of its
credential that an unexpired reveal matches, provided that the credential may
read history. -/
theorem reveal_replay_exact {now : Int} {state state' : HandlerState}
    {reveal : RevealRequest} {credential : CredentialRecord} {effects : List Effect}
    {stage : HandlerStage}
    (hStart : handleRevealContent deps now state reveal credential =
      (state', effects, .await stage)) :
    effects = [] ∧
      revealsOf state'.store credential.credentialId =
        revealsOf state.store credential.credentialId ++ [⟨grantedAccess now reveal, reveal⟩] ∧
      ∀ (later : Int) (answered : HandlerState) (messages : List ReplayMessage),
        resume deps later answered stage (.messages (.ok messages)) =
          some (answered,
            (messages.filter (Replayed deps later answered.store credential)).map
              fun msg => .broadcast credential.credentialId
                (revealEvent (grantedAccess now reveal) msg),
            .done (.ok (.revealed (grantedAccess now reveal)))) := by
  obtain ⟨rfl, rfl, hRecorded⟩ := handleRevealContent_records deps hStart
  refine ⟨rfl, hRecorded, ?_⟩
  intro later answered messages
  simp only [resume, filterMap_replayedEvent, List.map_map]
  rfl

/-! ## A reveal with and without `read-history` -/

def chatCredential (allow : List PermissionScope) : CredentialRecord :=
  toCredentialRecord 0 (newRecord sampleDeps.hash 0 1000 1000
    { operatorId := "op", chatIds := ["conv"], allow := some allow } {} ⟨"cred", "token"⟩)

/-- The store after the issuance of that credential. -/
def chatStore (allow : List PermissionScope) : HandlerState :=
  ⟨upsertRecord .empty (newRecord sampleDeps.hash 0 1000 1000
    { operatorId := "op", chatIds := ["conv"], allow := some allow } {} ⟨"cred", "token"⟩),
    .empty⟩

/-- A permanent reveal of everything one sender wrote in the chat. -/
def senderReveal : RevealRequest := ⟨"reveal", "conv", .sender, "alice", "owner", none⟩

/-- Two messages of the chat, the first of them by that sender. -/
def chatHistory : List ReplayMessage :=
  [⟨"m1", "conv", "alice", "text", .string "hello", "t1", none⟩,
    ⟨"m2", "conv", "bob", "text", .string "hi", "t2", none⟩]

/-- With `read-history`, the sender's message is replayed. -/
theorem reveal_replay_exact_sender :
    ∃ state', handleRevealContent sampleDeps 20 (chatStore [.readHistory]) senderReveal
        (chatCredential [.readHistory]) =
          (state', [], .await (.listing (grantedAccess 20 senderReveal)
            (chatCredential [.readHistory]))) ∧
      resume sampleDeps 30 state' (.listing (grantedAccess 20 senderReveal)
          (chatCredential [.readHistory])) (.messages (.ok chatHistory)) =
        some (state', (chatHistory.filter (Replayed sampleDeps 30 state'.store
            (chatCredential [.readHistory]))).map
              fun msg => .broadcast "cred" (revealEvent (grantedAccess 20 senderReveal) msg),
          .done (.ok (.revealed (grantedAccess 20 senderReveal)))) ∧
      (chatHistory.filter (Replayed sampleDeps 30 state'.store
        (chatCredential [.readHistory]))).map ReplayMessage.messageId = ["m1"] := by
  refine ⟨_, rfl, ?_, by decide⟩
  have hExact := reveal_replay_exact sampleDeps
    (show handleRevealContent sampleDeps 20 (chatStore [.readHistory]) senderReveal
      (chatCredential [.readHistory]) = _ from rfl)
  exact hExact.2.2 30 _ chatHistory

/-- Without `read-history` the revealed message of the chat is not replayed, nor
anything else. -/
theorem revealed_history_withheld :
    ∃ state', handleRevealContent sampleDeps 20 (chatStore [.readMessages]) senderReveal
        (chatCredential [.readMessages]) =
          (state', [], .await (.listing (grantedAccess 20 senderReveal)
            (chatCredential [.readMessages]))) ∧
      (∃ msg ∈ chatHistory, RevealedInChat sampleDeps 30 state'.store
        (chatCredential [.readMessages]) msg) ∧
      resume sampleDeps 30 state' (.listing (grantedAccess 20 senderReveal)
          (chatCredential [.readMessages])) (.messages (.ok chatHistory)) =
        some (state', [], .done (.ok (.revealed (grantedAccess 20 senderReveal)))) := by
  refine ⟨_, rfl, ⟨_, List.mem_cons_self, by decide⟩, ?_⟩
  rfl

end Cli
end Signet
