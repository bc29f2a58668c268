import Signet.Schemas.Events

/-!
# The projection pipeline

A raw message goes through the scope filter, the content type filter, the
visibility resolver and the content projector, and comes out as a message event
or is dropped.  Pure throughout.
-/

namespace Signet
namespace Policy

open Kit Schemas

/-- A raw message as received from the network, already decoded. -/
structure RawMessage where
  messageId : String
  groupId : String
  senderInboxId : String
  contentType : String
  content : Json
  sentAt : String
  threadId : Option String
  sealId : Option String
  isHistorical : Bool := false
deriving DecidableEq

/-- Stage 1: whether the message's group is in the scoped chat ids. -/
def isInScope (groupId : String) (chatIds : List String) : Bool := decide (groupId ∈ chatIds)

def isContentTypeAllowed (contentType : String) (allowlist : List String) : Bool :=
  decide (contentType ∈ allowlist)

def resolveVisibility (scopes : OrderedSet PermissionScope) (isRevealed : Bool) :
    MessageVisibility :=
  if PermissionScope.readMessages ∈ scopes then .visible
  else if isRevealed then .revealed
  else .hidden

/-- Stage 4: apply redaction. -/
def projectContent (content : Json) (visibility : MessageVisibility) : Json :=
  match visibility with
  | .visible | .historical | .revealed => content
  | .redacted | .hidden => .null

/-- Project a raw message; `none` drops it. -/
def projectMessage (message : RawMessage) (scopes : OrderedSet PermissionScope)
    (chatIds effectiveAllowlist : List String) (isRevealed : Bool) : Option MessageEvent :=
  if !isInScope message.groupId chatIds then none
  else if !isContentTypeAllowed message.contentType effectiveAllowlist then none
  else
    let baseVisibility := resolveVisibility scopes isRevealed
    if baseVisibility = .hidden then none
    -- historical messages need the read-history scope
    else if message.isHistorical ∧ PermissionScope.readHistory ∉ scopes then none
    else
      let visibility :=
        if message.isHistorical ∧ baseVisibility = .visible then .historical else baseVisibility
      some
        { messageId := message.messageId
          groupId := message.groupId
          senderInboxId := message.senderInboxId
          contentType := message.contentType
          content := projectContent message.content visibility
          visibility := visibility
          sentAt := message.sentAt
          sealId := message.sealId
          threadId := message.threadId }

variable {isRevealed : Bool} {chatIds effectiveAllowlist : List String}
  {scopes : OrderedSet PermissionScope} {message : RawMessage}

theorem projectMessage_authorized {event : MessageEvent}
    (h : projectMessage message scopes chatIds effectiveAllowlist isRevealed = some event) :
    message.groupId ∈ chatIds ∧
      (PermissionScope.readMessages ∈ scopes ∨ isRevealed = true) := by
  unfold projectMessage at h
  split at h
  · cases h
  · next hScope =>
    split at h
    · cases h
    · simp only at h
      split at h
      · cases h
      · next hVisible =>
        refine ⟨by simpa [isInScope] using hScope, ?_⟩
        by_contra hNeither
        rw [not_or] at hNeither
        apply hVisible
        simp [resolveVisibility, hNeither.1, hNeither.2]

theorem projectMessage_isSome_iff :
    (projectMessage message scopes chatIds effectiveAllowlist isRevealed).isSome = true ↔
      message.groupId ∈ chatIds ∧ message.contentType ∈ effectiveAllowlist ∧
        (PermissionScope.readMessages ∈ scopes ∨ isRevealed = true) ∧
        (message.isHistorical = true → PermissionScope.readHistory ∈ scopes) := by
  have hHidden : resolveVisibility scopes isRevealed = .hidden ↔
      ¬ (PermissionScope.readMessages ∈ scopes ∨ isRevealed = true) := by
    unfold resolveVisibility
    by_cases hRead : PermissionScope.readMessages ∈ scopes
    · simp [hRead]
    · cases isRevealed <;> simp [hRead]
  unfold projectMessage isInScope isContentTypeAllowed
  simp only [Bool.not_eq_true', decide_eq_false_iff_not, hHidden]
  split
  · next hScope => simp [hScope]
  · next hScope =>
    split
    · next hType => simp [hType]
    · next hType =>
      split
      · next hVisible => exact iff_of_false (by simp) fun h => hVisible h.2.2.1
      · next hVisible =>
        split
        · next hGate => exact iff_of_false (by simp) fun h => hGate.2 (h.2.2.2 hGate.1)
        · next hGate =>
          refine iff_of_true rfl ⟨not_not.mp hScope, not_not.mp hType, not_not.mp hVisible, ?_⟩
          intro hHistorical
          by_contra hAbsent
          exact hGate ⟨hHistorical, hAbsent⟩

theorem projectMessage_content {event : MessageEvent}
    (h : projectMessage message scopes chatIds effectiveAllowlist isRevealed = some event) :
    event.content = message.content := by
  have hShown : ∀ visibility : MessageVisibility, visibility ≠ .hidden →
      visibility ≠ .redacted → projectContent message.content visibility = message.content := by
    intro visibility hHidden hRedacted
    cases visibility with
    | visible | historical | revealed => rfl
    | hidden => exact absurd rfl hHidden
    | redacted => exact absurd rfl hRedacted
  -- the resolver never answers `redacted`
  have hResolved : resolveVisibility scopes isRevealed ≠ .redacted := by
    unfold resolveVisibility
    split
    · simp
    · split <;> simp
  unfold projectMessage at h
  split at h
  · cases h
  · split at h
    · cases h
    · simp only at h
      split at h
      · cases h
      · next hVisible =>
        split at h
        · cases h
        · simp only [Option.some.injEq] at h
          subst h
          refine hShown _ ?_ ?_
          · split
            · simp
            · exact hVisible
          · split
            · simp
            · exact hResolved

end Policy
end Signet
