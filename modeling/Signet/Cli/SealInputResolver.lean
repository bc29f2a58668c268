import Signet.Cli.ReadDisclosureStore
import Signet.Policy.Permissions
import Signet.Sessions.OperatorManager
import Signet.Sessions.Service
import Signet.Verifier.Payload

/-!
# Where the input of a seal comes from

The production resolver reads the credential and its operator, checks that the chat
is in scope, and adds the admin access that is disclosed for the chat.  The lookup of
that access includes expired entries while a refresh of the chat is being rolled
back.

* `ReadDisclosureRollbackTracker` — overlapping rollback windows per chat.
* `lookupAdminAccess` — the admin access disclosed for a chat.
* `resolveSealInput` — the input for a credential and chat.
-/

namespace Signet
namespace Cli

open Kit Schemas Policy Sessions Seals

/-- Overlapping seal-refresh rollback windows, counted per chat. -/
abbrev ReadDisclosureRollbackTracker := AssocMap String Nat

namespace ReadDisclosureRollbackTracker

/-- `enter` -/
def enter (counts : ReadDisclosureRollbackTracker) (chatIds : List String) :
    ReadDisclosureRollbackTracker :=
  (collectUniqueChatIds chatIds).items.foldl (fun (counts : AssocMap String Nat) chatId =>
    counts.set chatId ((counts.get chatId).getD 0 + 1)) counts

/-- `leave` -/
def leave (counts : ReadDisclosureRollbackTracker) (chatIds : List String) :
    ReadDisclosureRollbackTracker :=
  (collectUniqueChatIds chatIds).items.foldl (fun (counts : AssocMap String Nat) chatId =>
    let next := (counts.get chatId).getD 0 - 1
    if next > 0 then counts.set chatId next else counts.delete chatId) counts

/-- `has` -/
def has (counts : AssocMap String Nat) (chatId : String) : Bool :=
  decide ((counts.get chatId).getD 0 > 0)

end ReadDisclosureRollbackTracker

/-- The admin access disclosed for a chat, as a seal carries it. -/
def lookupAdminAccess (now : Int) (rollbacks : ReadDisclosureRollbackTracker)
    (store : AdminReadDisclosureStore) (chatId : String) :
    Option AdminAccess × AdminReadDisclosureStore :=
  let answer :=
    if ReadDisclosureRollbackTracker.has rollbacks chatId then store.peek now chatId
    else store.get now chatId
  (answer.1.map fun disclosure =>
    ⟨disclosure.operatorId, Verifier.toISOString disclosure.expiresAt⟩, answer.2)

/-- A claim the operator has made. -/
def declaredClaim : ClaimProvenanceRecord := { source := .declared }

/-- Provenance metadata for the claims on runtime-issued seals: the trust tier is
verified, the disclosures of the operator are declared. -/
def buildSealProvenanceMap (operatorDisclosures : Option OperatorDisclosures) :
    AssocMap String ClaimProvenanceRecord :=
  let disclosures := operatorDisclosures.getD {}
  let mark (provenance : AssocMap String ClaimProvenanceRecord) (field : String)
      (declared : Bool) : AssocMap String ClaimProvenanceRecord :=
    if declared then provenance.set field declaredClaim else provenance
  let provenance := AssocMap.empty.set "trustTier" { source := .verified }
  let provenance := mark provenance "inferenceMode" disclosures.inferenceMode.isSome
  let provenance := mark provenance "inferenceProviders" disclosures.inferenceProviders.isSome
  let provenance := mark provenance "contentEgressScope" disclosures.contentEgressScope.isSome
  let provenance := mark provenance "retentionAtProvider" disclosures.retentionAtProvider.isSome
  mark provenance "hostingMode" disclosures.hostingMode.isSome

/-- The resolver once it has both records: the input for the credential and chat. -/
def resolveSealInput (trustTier : TrustTier) (credential : CredentialRecord)
    (operator : OperatorRecord) (credentialId chatId : String)
    (adminAccess : Option AdminAccess) : Except SignetError SealInput :=
  match checkChatInScope chatId credential.config.chatIds with
  | .error error => .error (PermissionError.create error.message
      (some (error.context.getD [] ++ [("credentialId", .text credentialId)])))
  | .ok () =>
    .ok
      { credentialId := credentialId
        operatorId := credential.config.operatorId
        chatId := chatId
        scopeMode := operator.config.scopeMode
        permissions := ⟨credential.config.allow.getD [], credential.config.deny.getD []⟩
        adminAccess := adminAccess
        trustTier := some trustTier
        operatorDisclosures := operator.config.operatorDisclosures
        provenanceMap := some (buildSealProvenanceMap operator.config.operatorDisclosures) }

/-- A resolved input is for the credential and chat it was asked for, and carries the
admin access that was looked up. -/
theorem resolveSealInput_ok {trustTier : TrustTier} {credential : CredentialRecord}
    {operator : OperatorRecord} {credentialId chatId : String} {adminAccess : Option AdminAccess}
    {input : SealInput}
    (h : resolveSealInput trustTier credential operator credentialId chatId adminAccess =
      .ok input) :
    input.credentialId = credentialId ∧ input.chatId = chatId ∧
      input.adminAccess = adminAccess := by
  unfold resolveSealInput at h
  split at h
  · cases h
  · cases h
    exact ⟨rfl, rfl, rfl⟩

end Cli
end Signet
