import Signet.Kit.OrderedSet

/-!
# Permission scopes and deny-wins resolution

The thirty permission scopes, the allow/deny scope set of a credential, and its
resolution to the set of scopes that are effectively allowed: a scope counts if
it is in `allow` and not in `deny`.
-/

namespace Signet
namespace Schemas

open Kit

inductive PermissionScope where
  -- messaging
  | send
  | reply
  | react
  | readReceipt
  | attachment
  -- group management
  | addMember
  | removeMember
  | promoteAdmin
  | demoteAdmin
  | updatePermission
  -- metadata
  | updateName
  | updateDescription
  | updateImage
  -- access
  | invite
  | join
  | leave
  | createGroup
  | createDm
  -- observation
  | readMessages
  | readHistory
  | listMembers
  | listConversations
  | readPermissions
  | streamMessages
  | streamConversations
  -- egress
  | forwardToProvider
  | storeExcerpts
  | useForMemory
  | quoteRevealed
  | summarize
deriving DecidableEq, Repr

/-- The kebab-case name of a scope on the wire. -/
def PermissionScope.value : PermissionScope → String
  | .send => "send"
  | .reply => "reply"
  | .react => "react"
  | .readReceipt => "read-receipt"
  | .attachment => "attachment"
  | .addMember => "add-member"
  | .removeMember => "remove-member"
  | .promoteAdmin => "promote-admin"
  | .demoteAdmin => "demote-admin"
  | .updatePermission => "update-permission"
  | .updateName => "update-name"
  | .updateDescription => "update-description"
  | .updateImage => "update-image"
  | .invite => "invite"
  | .join => "join"
  | .leave => "leave"
  | .createGroup => "create-group"
  | .createDm => "create-dm"
  | .readMessages => "read-messages"
  | .readHistory => "read-history"
  | .listMembers => "list-members"
  | .listConversations => "list-conversations"
  | .readPermissions => "read-permissions"
  | .streamMessages => "stream-messages"
  | .streamConversations => "stream-conversations"
  | .forwardToProvider => "forward-to-provider"
  | .storeExcerpts => "store-excerpts"
  | .useForMemory => "use-for-memory"
  | .quoteRevealed => "quote-revealed"
  | .summarize => "summarize"

/-- A scope is known by its wire name. -/
theorem PermissionScope.value_injective {a b : PermissionScope} (h : a.value = b.value) :
    a = b := by
  -- by the numbers of the constructors
  have hNumbers : ∀ i < 30, ∀ j < 30,
      (PermissionScope.ofNat i).value = (PermissionScope.ofNat j).value → i = j := by
    decide
  have hOfNat : ∀ scope : PermissionScope,
      scope.ctorIdx < 30 ∧ PermissionScope.ofNat scope.ctorIdx = scope := by
    intro scope
    cases scope <;> decide
  obtain ⟨hLt, hEq⟩ := hOfNat a
  obtain ⟨hLt', hEq'⟩ := hOfNat b
  have hSame := hNumbers a.ctorIdx hLt b.ctorIdx hLt' (by rw [hEq, hEq', h])
  rw [← hEq, ← hEq', hSame]

structure ScopeSet where
  allow : List PermissionScope
  deny : List PermissionScope
deriving DecidableEq, Repr

def resolveScopeSet (scopeSet : ScopeSet) : OrderedSet PermissionScope :=
  let denied := OrderedSet.ofList scopeSet.deny
  scopeSet.allow.foldl
    (fun result scope => if scope ∈ denied then result else result.add scope)
    OrderedSet.empty

/-- The side of a scope set a scope counts on. -/
inductive Permission where
  | allow
  | deny
deriving DecidableEq, Repr

/-- The wire form of a side. -/
def Permission.value : Permission → String
  | .allow => "allow"
  | .deny => "deny"

structure ScopeChange where
  scope : PermissionScope
  fromSide : Permission
  toSide : Permission
deriving DecidableEq, Repr

structure PolicyDelta where
  added : List PermissionScope
  removed : List PermissionScope
  changed : List ScopeChange
deriving DecidableEq, Repr

private theorem mem_foldl_resolve (denied : OrderedSet PermissionScope)
    (l : List PermissionScope) (acc : OrderedSet PermissionScope) (p : PermissionScope) :
    p ∈ l.foldl (fun result scope =>
        if scope ∈ denied then result else result.add scope) acc ↔
      p ∈ acc ∨ (p ∈ l ∧ p ∉ denied) := by
  induction l generalizing acc with
  | nil => simp
  | cons q l ih =>
    rw [List.foldl_cons, ih]
    by_cases hq : q ∈ denied
    · simp only [if_pos hq, List.mem_cons]
      constructor
      · rintro (h | ⟨h, hp⟩)
        · exact Or.inl h
        · exact Or.inr ⟨Or.inr h, hp⟩
      · rintro (h | ⟨rfl | h, hp⟩)
        · exact Or.inl h
        · exact absurd hq hp
        · exact Or.inr ⟨h, hp⟩
    · simp only [if_neg hq, OrderedSet.mem_add, List.mem_cons]
      constructor
      · rintro ((rfl | h) | ⟨h, hp⟩)
        · exact Or.inr ⟨Or.inl rfl, hq⟩
        · exact Or.inl h
        · exact Or.inr ⟨Or.inr h, hp⟩
      · rintro (h | ⟨rfl | h, hp⟩)
        · exact Or.inl (Or.inr h)
        · exact Or.inl (Or.inl rfl)
        · exact Or.inr ⟨h, hp⟩

@[simp]
theorem mem_resolveScopeSet {scopeSet : ScopeSet} {p : PermissionScope} :
    p ∈ resolveScopeSet scopeSet ↔ p ∈ scopeSet.allow ∧ p ∉ scopeSet.deny := by
  unfold resolveScopeSet
  rw [mem_foldl_resolve]
  simp

end Schemas
end Signet
