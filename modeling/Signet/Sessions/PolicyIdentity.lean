import Mathlib.Algebra.Group.Nat.Defs
import Mathlib.Data.List.Perm.Basic
import Signet.Kit.JsonText
import Signet.Kit.StableSort
import Signet.Schemas.ResourceId
import Signet.Sessions.PolicyHash

/-!
# Which policies share a hash

`packages/sessions/src/policy-hash.ts` sorts the two scope lists and the chat ids with
`localeCompare` and hashes the text of the result.  The sort is stable and the collation may rank
different strings as equal, so what is left of the order of a list is the sequence of each class of
strings that the collation ties.

* `policyText_eq_iff` — two policies have one text exactly when their three lists have the same
  ties.
* `policyHash_identifies_iff` — so rearranging a policy keeps its hash exactly when no tied
  strings change places.
-/

namespace Signet
namespace Sessions

open Kit Schemas

/-! ## The digits of a hash -/

theorem digitChar_injective : ∀ n < 16, ∀ m < 16, Nat.digitChar n = Nat.digitChar m → n = m := by
  decide

/-- `toString(16)` tells numbers apart. -/
theorem toDigits_injective {n m : Nat} (h : Nat.toDigits 16 n = Nat.toDigits 16 m) : n = m := by
  induction n using Nat.strong_induction_on generalizing m with
  | _ n ih =>
    have hBase : 1 < 16 := by omega
    rw [@Nat.toDigits_eq_if 16 n hBase, @Nat.toDigits_eq_if 16 m hBase] at h
    by_cases hn : n < 16
    · by_cases hm : m < 16
      · rw [if_pos hn, if_pos hm, List.cons.injEq] at h
        exact digitChar_injective n hn m hm h.1
      · -- a number of two digits has another length
        rw [if_pos hn, if_neg hm] at h
        have hLength := congrArg List.length h
        have hPos : 0 < (Nat.toDigits 16 (m / 16)).length := Nat.length_toDigits_pos
        simp only [List.length_append, List.length_singleton] at hLength
        omega
    · by_cases hm : m < 16
      · rw [if_neg hn, if_pos hm] at h
        have hLength := congrArg List.length h
        have hPos : 0 < (Nat.toDigits 16 (n / 16)).length := Nat.length_toDigits_pos
        simp only [List.length_append, List.length_singleton] at hLength
        omega
      · rw [if_neg hn, if_neg hm] at h
        obtain ⟨hHigh, hLow⟩ := List.append_inj' h rfl
        have hQuotient : n / 16 = m / 16 := ih (n / 16) (by omega) hHigh
        have hRemainder : n % 16 = m % 16 :=
          digitChar_injective _ (by omega) _ (by omega) (List.cons.inj hLow).1
        omega

/-! ## The text of a policy -/

structure CredentialPolicy where
  scopes : ScopeSet
  chatIds : List String

def policyText (env : HashEnv) (policy : CredentialPolicy) : String :=
  canonicalize env (.object [("scopes", scopeSetJson policy.scopes),
    ("chatIds", .array (policy.chatIds.map .string))])

def policyHash (env : HashEnv) (policy : CredentialPolicy) : String :=
  computePolicyHash env policy.scopes policy.chatIds

/-- `JSON.stringify(left).localeCompare(JSON.stringify(right)) <= 0`, for two strings. -/
def ranksBelow (env : HashEnv) (left right : String) : Prop :=
  env.localeLe (Json.string left).stringify (Json.string right).stringify = true

instance (env : HashEnv) : DecidableRel (ranksBelow env) :=
  fun _ _ => inferInstanceAs (Decidable (env.localeLe _ _ = true))

/-- The collation is a total preorder; it may rank different strings as equal. -/
structure TotalPreorder (le : String → String → Bool) : Prop where
  total : ∀ a b, le a b = true ∨ le b a = true
  trans : ∀ a b c, le a b = true → le b c = true → le a c = true

variable {p q : CredentialPolicy} {env : HashEnv} {key key' : String}

theorem total_ranksBelow (hLocale : TotalPreorder env.localeLe) :
    Std.Total (ranksBelow env) :=
  ⟨fun _ _ => hLocale.total _ _⟩

theorem trans_ranksBelow (hLocale : TotalPreorder env.localeLe) :
    IsTrans String (ranksBelow env) :=
  ⟨fun _ _ _ hab hbc => hLocale.trans _ _ _ hab hbc⟩

theorem normalize_strings (env : HashEnv) (l : List String) :
    normalize env (.array (l.map .string)) =
      .array ((l.insertionSort (ranksBelow env)).map .string) := by
  have hItems : normalizeItems env (l.map .string) = l.map .string := by
    induction l with
    | nil => rfl
    | cons text l ih => simp [normalizeItems, normalize, ih]
  unfold normalize
  rw [hItems]
  congr 1
  exact (List.map_insertionSort _ _ Json.string l fun _ _ _ _ => Iff.rfl).symm

/-- An object of two members, in the order of their keys. -/
theorem normalize_pair (env : HashEnv) (hKeys : key ≤ key') (value value' : Json) :
    normalize env (.object [(key, value), (key', value')]) =
      .object [(key, normalize env value), (key', normalize env value')] := by
  rw [normalize]
  simp [normalizeMembers, hKeys]

/-- An object of two members that stand the other way round. -/
theorem normalize_pair_swapped (env : HashEnv) (hKeys : ¬ key ≤ key') (value value' : Json) :
    normalize env (.object [(key, value), (key', value')]) =
      .object [(key', normalize env value'), (key, normalize env value)] := by
  rw [normalize]
  simp [normalizeMembers, hKeys]

theorem policyText_eq (env : HashEnv) (policy : CredentialPolicy) :
    policyText env policy =
      (Json.object
        [("chatIds", .array ((policy.chatIds.insertionSort (ranksBelow env)).map .string)),
          ("scopes", .object
            [("allow", .array (((policy.scopes.allow.map PermissionScope.value).insertionSort
              (ranksBelow env)).map .string)),
            ("deny", .array (((policy.scopes.deny.map PermissionScope.value).insertionSort
              (ranksBelow env)).map .string))])]).stringify := by
  have hScopes : normalize env (scopeSetJson policy.scopes) = .object
      [("allow", .array (((policy.scopes.allow.map PermissionScope.value).insertionSort
          (ranksBelow env)).map .string)),
        ("deny", .array (((policy.scopes.deny.map PermissionScope.value).insertionSort
          (ranksBelow env)).map .string))] := by
    unfold scopeSetJson
    rw [normalize_pair env (by decide), ← normalize_strings, ← normalize_strings, List.map_map,
      List.map_map]
    rfl
  unfold policyText canonicalize
  rw [normalize_pair_swapped env (by decide), ← normalize_strings, ← hScopes]

/-- Two policies list the same scopes and chats, and those that the collation ties in the same
sequence. -/
structure SameTiedOrder (env : HashEnv) (p q : CredentialPolicy) : Prop where
  allow : SameTies (ranksBelow env) (p.scopes.allow.map PermissionScope.value)
    (q.scopes.allow.map PermissionScope.value)
  deny : SameTies (ranksBelow env) (p.scopes.deny.map PermissionScope.value)
    (q.scopes.deny.map PermissionScope.value)
  chatIds : SameTies (ranksBelow env) p.chatIds q.chatIds

/-- The three lists of a policy are rearrangements of those of another. -/
structure Rearranged (p q : CredentialPolicy) : Prop where
  allow : p.scopes.allow.Perm q.scopes.allow
  deny : p.scopes.deny.Perm q.scopes.deny
  chatIds : p.chatIds.Perm q.chatIds

/-- **What a text keeps of a policy.** -/
theorem policyText_eq_iff (hLocale : TotalPreorder env.localeLe) (p q : CredentialPolicy) :
    policyText env p = policyText env q ↔ SameTiedOrder env p q := by
  have := total_ranksBelow hLocale
  have := trans_ranksBelow hLocale
  have hStrings : Function.Injective Json.string := fun _ _ hEq => Json.string.inj hEq
  rw [policyText_eq, policyText_eq]
  constructor
  · intro hText
    -- the text determines the three sorted lists, and a stable sort forgets all but the ties
    have hJson := Json.stringify_injective hText
    simp only [Json.object.injEq, Json.array.injEq, List.cons.injEq, Prod.mk.injEq, true_and,
      and_true] at hJson
    obtain ⟨hChats, hAllow, hDeny⟩ := hJson
    constructor
    · exact (insertionSort_eq_iff _ _ _).mp (hStrings.list_map hAllow)
    · exact (insertionSort_eq_iff _ _ _).mp (hStrings.list_map hDeny)
    · exact (insertionSort_eq_iff _ _ _).mp (hStrings.list_map hChats)
  · intro h
    rw [(insertionSort_eq_iff _ _ _).mpr h.allow, (insertionSort_eq_iff _ _ _).mpr h.deny,
      (insertionSort_eq_iff _ _ _).mpr h.chatIds]

theorem policyHash_eq_iff (hHash : env.bunHash (policyText env p) = env.bunHash (policyText env q) →
      policyText env p = policyText env q) :
    policyHash env p = policyHash env q ↔ policyText env p = policyText env q := by
  have hDigits : ∀ policy, policyHash env policy =
      String.ofList (Nat.toDigits 16 (env.bunHash (policyText env policy))) := fun _ => rfl
  rw [hDigits, hDigits]
  constructor
  · intro hEq
    exact hHash (toDigits_injective (String.ofList_injective hEq))
  · intro hEq
    rw [hEq]

/-- Policies with one text are rearrangements of each other. -/
theorem rearranged_of_sameTiedOrder (hLocale : TotalPreorder env.localeLe)
    (h : SameTiedOrder env p q) : Rearranged p q := by
  have := total_ranksBelow hLocale
  have := trans_ranksBelow hLocale
  have hValues : Function.Injective PermissionScope.value :=
    fun _ _ hEq => PermissionScope.value_injective hEq
  constructor
  · exact (List.map_perm_map_iff hValues).mp (SameTies.perm _ h.allow)
  · exact (List.map_perm_map_iff hValues).mp (SameTies.perm _ h.deny)
  · exact SameTies.perm _ h.chatIds

/-- **A hash identifies a policy up to order exactly when the order of tied strings does not
change.** -/
theorem policyHash_identifies_iff (env : HashEnv) (hLocale : TotalPreorder env.localeLe)
    (p q : CredentialPolicy)
    (hHash : env.bunHash (policyText env p) = env.bunHash (policyText env q) →
      policyText env p = policyText env q) :
    (policyHash env p = policyHash env q ↔ Rearranged p q) ↔
      (Rearranged p q → SameTiedOrder env p q) := by
  rw [policyHash_eq_iff hHash, policyText_eq_iff hLocale]
  constructor
  · intro hIdentifies hRearranged
    exact hIdentifies.mpr hRearranged
  · intro hTies
    constructor
    · exact rearranged_of_sameTiedOrder hLocale
    · exact hTies

/-- A collation that ranks no two strings as equal leaves nothing of the order. -/
theorem sameTiedOrder_of_rearranged (hLocale : TotalPreorder env.localeLe)
    (hApart : ∀ a b, env.localeLe a b = true → env.localeLe b a = true → a = b)
    (h : Rearranged p q) : SameTiedOrder env p q := by
  have := total_ranksBelow hLocale
  have := trans_ranksBelow hLocale
  have hStrings : ∀ a b, Tied (ranksBelow env) a b → a = b := by
    rintro a b ⟨hab, hba⟩
    exact Json.string.inj (Json.stringify_injective (hApart _ _ hab hba))
  constructor
  · exact sameTies_of_perm _ hStrings (h.allow.map _)
  · exact sameTies_of_perm _ hStrings (h.deny.map _)
  · exact sameTies_of_perm _ hStrings h.chatIds

/-! ## Two chats -/

/-- A host whose collation ties all strings, with a rolling hash. -/
def tyingHost : HashEnv where
  bunHash text := text.toList.foldl (fun hash c => (31 * hash + c.toNat) % 2 ^ 64) 7
  localeLe _ _ := true

/-- A host that collates by the code points. -/
def plainHost : HashEnv where
  bunHash := tyingHost.bunHash
  localeLe left right := decide (left ≤ right)

def twoChats : CredentialPolicy :=
  ⟨⟨[.send, .reply], []⟩, ["conv_0123456789abcdef", "conv_fedcba9876543210"]⟩

/-- The same credential with its lists turned around. -/
def twoChatsReversed : CredentialPolicy :=
  ⟨⟨[.reply, .send], []⟩, ["conv_fedcba9876543210", "conv_0123456789abcdef"]⟩

theorem rearranged_twoChats : Rearranged twoChats twoChatsReversed :=
  ⟨by decide, by decide, by decide⟩

theorem totalPreorder_tying : TotalPreorder tyingHost.localeLe :=
  ⟨fun _ _ => .inl rfl, fun _ _ _ _ _ => rfl⟩

theorem totalPreorder_plain : TotalPreorder plainHost.localeLe := by
  constructor
  · intro a b
    simpa [plainHost] using String.le_total a b
  · intro a b c hab hbc
    simp only [plainHost, decide_eq_true_eq] at hab hbc ⊢
    exact String.le_trans hab hbc

set_option maxRecDepth 20000 in
/-- Rearranging tied chats changes the hash. -/
theorem tied_chats_change_hash :
    ¬ ∀ (env : HashEnv), TotalPreorder env.localeLe → ∀ p q : CredentialPolicy,
      (∀ chatId ∈ p.chatIds ++ q.chatIds, isResourceId .conversation chatId = true) →
      (env.bunHash (policyText env p) = env.bunHash (policyText env q) →
        policyText env p = policyText env q) →
      (policyHash env p = policyHash env q ↔ Rearranged p q) := by
  intro hLaw
  have hDiffers : tyingHost.bunHash (policyText tyingHost twoChats) ≠
      tyingHost.bunHash (policyText tyingHost twoChatsReversed) := by decide
  have hHashes := (hLaw tyingHost totalPreorder_tying twoChats twoChatsReversed
    (List.all_eq_true.mp (by decide)) (fun hEq => absurd hEq hDiffers)).mpr rearranged_twoChats
  exact hDiffers (toDigits_injective (String.ofList_injective hHashes))

/-- Where the collation tells the strings apart, turning the lists around keeps the hash. -/
theorem policyHash_identifies_iff_sample :
    policyHash plainHost twoChats = policyHash plainHost twoChatsReversed ↔
      Rearranged twoChats twoChatsReversed := by
  have hApart : ∀ a b, plainHost.localeLe a b = true → plainHost.localeLe b a = true → a = b := by
    intro a b hab hba
    simp only [plainHost, decide_eq_true_eq] at hab hba
    exact String.le_antisymm hab hba
  have hTies : SameTiedOrder plainHost twoChats twoChatsReversed :=
    sameTiedOrder_of_rearranged totalPreorder_plain hApart rearranged_twoChats
  have hText := (policyText_eq_iff totalPreorder_plain twoChats twoChatsReversed).mpr hTies
  exact (policyHash_identifies_iff plainHost totalPreorder_plain twoChats twoChatsReversed
    fun _ => hText).mpr fun _ => hTies

end Sessions
end Signet
