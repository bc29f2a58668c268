import Signet.Kit.JsonText
import Signet.Seals.Build

/-!
# Seals on the wire

A seal travels as JSON, and its dates as texts.  What is signed and what the
verifier compares is the canonical text of a payload: the compact text of its
JSON form with the keys sorted.  That text determines the payload, up to the
order of the keys in its provenance map.

* `WirePayload`, `WireChain`, `WireEnvelope` — a seal as it is received.
* `canonicalize` — the canonical text; its bytes are the UTF-8 of it.
* `canonicalize_eq_iff` — two payloads have one canonical text exactly when they are
  the same.
-/

namespace Signet
namespace Verifier

open Kit Schemas Seals

/-! ## Dates -/

/-- A number with leading zeros. -/
def padded (width n : Nat) : String :=
  String.ofList (List.replicate (width - (toString n).length) '0') ++ toString n

/-- The year, month and day of a day counted from the first of 1970. -/
def civilOfDays (days : Int) : Int × Nat × Nat :=
  let shifted := days + 719468
  let era := shifted / 146097
  let dayOfEra := (shifted - era * 146097).toNat
  let yearOfEra := (dayOfEra - dayOfEra / 1460 + dayOfEra / 36524 - dayOfEra / 146096) / 365
  let dayOfYear := dayOfEra - (365 * yearOfEra + yearOfEra / 4 - yearOfEra / 100)
  let shiftedMonth := (5 * dayOfYear + 2) / 153
  let day := dayOfYear - (153 * shiftedMonth + 2) / 5 + 1
  let month := if shiftedMonth < 10 then shiftedMonth + 3 else shiftedMonth - 9
  (yearOfEra + era * 400 + (if month ≤ 2 then 1 else 0), month, day)

/-- The year of a date text: four digits, or a sign and six. -/
def isoYear (year : Int) : String :=
  if 0 ≤ year ∧ year ≤ 9999 then padded 4 year.toNat
  else (if year < 0 then "-" else "+") ++ padded 6 year.natAbs

/-- `toISOString` -/
def toISOString (ms : Int) : String :=
  let (year, month, day) := civilOfDays (ms / 86400000)
  let time := (ms % 86400000).toNat
  isoYear year ++ "-" ++ padded 2 month ++ "-" ++ padded 2 day ++ "T"
    ++ padded 2 (time / 3600000) ++ ":" ++ padded 2 (time / 60000 % 60) ++ ":"
    ++ padded 2 (time / 1000 % 60) ++ "." ++ padded 3 (time % 1000) ++ "Z"

theorem toISOString_ne_empty (ms : Int) : toISOString ms ≠ "" := by
  intro h
  have hLength := congrArg String.length h
  simp [toISOString] at hLength

/-! ## Payloads -/

/-- The payload of a seal as it is received. -/
structure WirePayload where
  sealId : String
  credentialId : String
  operatorId : String
  chatId : String
  scopeMode : ScopeMode
  permissions : ScopeSet
  adminAccess : Option AdminAccess
  issuedAt : String
  /-- The literal `true`, or absent. -/
  bypassed : Bool
  trustTier : Option TrustTier
  operatorDisclosures : Option OperatorDisclosures
  provenanceMap : Option (AssocMap String ClaimProvenanceRecord)
deriving DecidableEq

/-- A seal chain as it is received. -/
structure WireChain where
  current : WirePayload
  previous : Option WirePayload
  delta : SealDelta
deriving DecidableEq

/-- A signed envelope as it is received; the algorithm is always Ed25519. -/
structure WireEnvelope where
  chain : WireChain
  signature : String
  keyId : String
deriving DecidableEq

def wirePayload (payload : SealPayload) : WirePayload where
  sealId := payload.sealId
  credentialId := payload.credentialId
  operatorId := payload.operatorId
  chatId := payload.chatId
  scopeMode := payload.scopeMode
  permissions := payload.permissions
  adminAccess := payload.adminAccess
  issuedAt := toISOString payload.issuedAt
  bypassed := payload.bypassed
  trustTier := payload.trustTier
  operatorDisclosures := payload.operatorDisclosures
  provenanceMap := payload.provenanceMap

def wireChain (chain : SealChain) : WireChain where
  current := wirePayload chain.current
  previous := chain.previous.map wirePayload
  delta := chain.delta

def wireEnvelope (envelope : SealEnvelope) : WireEnvelope where
  chain := wireChain envelope.chain
  signature := envelope.signature
  keyId := envelope.keyId

def scopeModeValue : ScopeMode → String
  | .perChat => "per-chat"
  | .shared => "shared"

def trustTierValue : TrustTier → String
  | .unverified => "unverified"
  | .sourceVerified => "source-verified"
  | .reproduciblyVerified => "reproducibly-verified"
  | .runtimeAttested => "runtime-attested"

def scopesJson (scopes : List PermissionScope) : Json :=
  .array (scopes.map fun scope => .string scope.value)

def scopeSetJson (scopeSet : ScopeSet) : Json :=
  Json.ofMembers [("allow", some (scopesJson scopeSet.allow)),
    ("deny", some (scopesJson scopeSet.deny))]

/-- The fields of a payload; an `undefined` one has no JSON. -/
def payloadMembers (payload : WirePayload) : List (String × Option Json) :=
  [("sealId", some (.string payload.sealId)),
    ("credentialId", some (.string payload.credentialId)),
    ("operatorId", some (.string payload.operatorId)),
    ("chatId", some (.string payload.chatId)),
    ("scopeMode", some (.string (scopeModeValue payload.scopeMode))),
    ("permissions", some (scopeSetJson payload.permissions)),
    ("adminAccess", payload.adminAccess.map adminAccessJson),
    ("issuedAt", some (.string payload.issuedAt)),
    ("bypassed", if payload.bypassed then some (.bool true) else none),
    ("trustTier", payload.trustTier.map fun tier => .string (trustTierValue tier)),
    ("operatorDisclosures", payload.operatorDisclosures.map operatorDisclosuresJson),
    ("provenanceMap", payload.provenanceMap.map provenanceMapJson)]

def payloadJson (payload : WirePayload) : Json := Json.ofMembers (payloadMembers payload)

/-- `canonicalize` -/
def canonicalize (value : Json) : String := (sortKeys value).stringify

/-! ## Sorted keys -/

/-- The value under a key of an object. -/
def memberOf (key : String) : Json → Option Json
  | .object members => members.lookup key
  | _ => none

/-- The order of distinct keys does not matter to a lookup. -/
theorem lookup_perm {l l' : List (String × Json)} (hPerm : l.Perm l')
    (hNodup : (l.map Prod.fst).Nodup) (key : String) : l'.lookup key = l.lookup key := by
  have hNodup' : (l'.map Prod.fst).Nodup := (hPerm.map Prod.fst).nodup hNodup
  have hSame : ∀ value, (⟨l', hNodup'⟩ : AssocMap String Json).get key = some value ↔
      (⟨l, hNodup⟩ : AssocMap String Json).get key = some value := by
    intro value
    rw [AssocMap.get_eq_some_iff, AssocMap.get_eq_some_iff]
    exact hPerm.mem_iff.symm
  exact Option.ext hSame

theorem keys_sortMembers (members : List (String × Json)) :
    (sortMembers members).map Prod.fst = members.map Prod.fst := by
  induction members with
  | nil => rfl
  | cons entry members ih =>
    obtain ⟨key, value⟩ := entry
    simp [sortMembers, ih]

theorem lookup_sortMembers (members : List (String × Json)) (key : String) :
    (sortMembers members).lookup key = (members.lookup key).map sortKeys := by
  induction members with
  | nil => rfl
  | cons entry members ih =>
    obtain ⟨key', value⟩ := entry
    by_cases hKey : key = key'
    · simp [sortMembers, hKey]
    · simp [sortMembers, List.lookup_cons, beq_eq_false_iff_ne.mpr hKey, ih]

theorem memberOf_sortKeys {members : List (String × Json)}
    (hNodup : (members.map Prod.fst).Nodup) (key : String) :
    memberOf key (sortKeys (.object members)) = (members.lookup key).map sortKeys := by
  have hPerm := (sortMembers members).perm_insertionSort fun left right => left.1 ≤ right.1
  have hKeys : ((sortMembers members).map Prod.fst).Nodup := by
    rw [keys_sortMembers]
    exact hNodup
  have hSorted : memberOf key (sortKeys (.object members)) =
      ((sortMembers members).insertionSort fun left right => left.1 ≤ right.1).lookup key := rfl
  rw [hSorted, lookup_perm hPerm.symm hKeys, lookup_sortMembers]

theorem keys_present (members : List (String × Option Json)) :
    ((members.filterMap fun m => m.2.map fun value => (m.1, value)).map Prod.fst).Sublist
      (members.map Prod.fst) := by
  induction members with
  | nil => exact .slnil
  | cons entry members ih =>
    obtain ⟨key, value⟩ := entry
    cases value with
    | none => exact ih.cons key
    | some value => exact ih.cons_cons key

variable {members : List (String × Option Json)} {α : Type}
  {a b : AssocMap String ClaimProvenanceRecord}

theorem lookup_present (hNodup : (members.map Prod.fst).Nodup) (key : String) :
    (members.filterMap fun m => m.2.map fun value => (m.1, value)).lookup key =
      (members.lookup key).join := by
  induction members with
  | nil => rfl
  | cons entry members ih =>
    obtain ⟨key', value⟩ := entry
    rw [List.map_cons, List.nodup_cons] at hNodup
    have hRest := ih hNodup.2
    by_cases hKey : key = key'
    · subst hKey
      cases value with
      | some value => simp
      | none =>
        -- the key is not listed again
        have hAbsent : members.lookup key = none := by
          rw [List.lookup_eq_none_iff]
          intro entry hMem
          simp only [bne_iff_ne, ne_eq]
          intro hEq
          exact hNodup.1 (List.mem_map.mpr ⟨entry, hMem, hEq.symm⟩)
        rw [hAbsent] at hRest
        simpa using hRest
    · cases value with
      | some value => simp [List.lookup_cons, beq_eq_false_iff_ne.mpr hKey, hRest]
      | none => simp [List.lookup_cons, beq_eq_false_iff_ne.mpr hKey, hRest]

/-- What an object built from its fields reads under a key, once sorted. -/
theorem memberOf_ofMembers (hNodup : (members.map Prod.fst).Nodup) (key : String) :
    memberOf key (sortKeys (Json.ofMembers members)) =
      ((members.lookup key).join).map sortKeys := by
  unfold Json.ofMembers
  rw [memberOf_sortKeys (hNodup.sublist (keys_present members)), lookup_present hNodup]

theorem field_eq {members' : List (String × Option Json)}
    (h : sortKeys (Json.ofMembers members) = sortKeys (Json.ofMembers members'))
    (hKeys : members'.map Prod.fst = members.map Prod.fst) (hNodup : (members.map Prod.fst).Nodup)
    (key : String) :
    ((members.lookup key).join).map sortKeys = ((members'.lookup key).join).map sortKeys := by
  rw [← memberOf_ofMembers hNodup, h, memberOf_ofMembers (by rw [hKeys]; exact hNodup)]

/-! ## A canonical text determines its payload -/

theorem scopeModeValue_injective {a b : ScopeMode} (h : scopeModeValue a = scopeModeValue b) :
    a = b := by
  cases a <;> cases b <;> first | rfl | simp [scopeModeValue] at h

theorem trustTierValue_injective {a b : TrustTier} (h : trustTierValue a = trustTierValue b) :
    a = b := by
  cases a <;> cases b <;> first | rfl | simp [trustTierValue] at h

theorem inferenceModeValue_injective {a b : InferenceMode}
    (h : inferenceModeValue a = inferenceModeValue b) : a = b := by
  cases a <;> cases b <;> first | rfl | simp [inferenceModeValue] at h

theorem contentEgressScopeValue_injective {a b : ContentEgressScope}
    (h : contentEgressScopeValue a = contentEgressScopeValue b) : a = b := by
  cases a <;> cases b <;> first | rfl | simp [contentEgressScopeValue] at h

theorem hostingModeValue_injective {a b : HostingMode}
    (h : hostingModeValue a = hostingModeValue b) : a = b := by
  cases a <;> cases b <;> first | rfl | simp [hostingModeValue] at h

theorem claimProvenanceValue_injective {a b : ClaimProvenance}
    (h : claimProvenanceValue a = claimProvenanceValue b) : a = b := by
  cases a <;> cases b <;> first | rfl | simp [claimProvenanceValue] at h

/-- Texts in a list are their own canonical form. -/
theorem sortItems_strings (f : α → String) (l : List α) :
    sortItems (l.map fun a => .string (f a)) = l.map fun a => .string (f a) := by
  induction l with
  | nil => rfl
  | cons a l ih => simp [sortItems, sortKeys, ih]

theorem strings_injective {f : α → String} (hf : ∀ a b, f a = f b → a = b) {l l' : List α}
    (h : sortKeys (.array (l.map fun a => .string (f a))) =
      sortKeys (.array (l'.map fun a => .string (f a)))) : l = l' := by
  unfold sortKeys at h
  rw [sortItems_strings, sortItems_strings] at h
  have hItems := Json.array.inj h
  refine List.map_injective_iff.mpr ?_ hItems
  intro a b hEq
  exact hf a b (Json.string.inj hEq)

/-- The record of an optional field. -/
theorem option_map_injective {f : α → Json} (hf : ∀ a b, sortKeys (f a) = sortKeys (f b) → a = b)
    {a b : Option α} (h : (a.map f).map sortKeys = (b.map f).map sortKeys) : a = b := by
  cases a with
  | none =>
    cases b with
    | none => rfl
    | some b => cases h
  | some a =>
    cases b with
    | none => cases h
    | some b => rw [hf a b (Option.some.inj h)]

theorem text_injective {f : α → String} (hf : ∀ a b, f a = f b → a = b) (a b : α)
    (h : sortKeys (.string (f a)) = sortKeys (.string (f b))) : a = b := by
  have hText : Json.string (f a) = Json.string (f b) := h
  exact hf a b (Json.string.inj hText)

theorem scopeSetJson_injective {a b : ScopeSet}
    (h : sortKeys (scopeSetJson a) = sortKeys (scopeSetJson b)) : a = b := by
  unfold scopeSetJson at h
  have hField := field_eq h rfl (by simp)
  have hAllow := strings_injective (fun _ _ => PermissionScope.value_injective)
    (Option.some.inj (hField "allow"))
  have hDeny := strings_injective (fun _ _ => PermissionScope.value_injective)
    (Option.some.inj (hField "deny"))
  cases a
  cases b
  simp_all

theorem adminAccessJson_injective (a b : AdminAccess)
    (h : sortKeys (adminAccessJson a) = sortKeys (adminAccessJson b)) : a = b := by
  have hMembers : ∀ access : AdminAccess, adminAccessJson access = Json.ofMembers
      [("operatorId", some (.string access.operatorId)),
        ("expiresAt", some (.string access.expiresAt))] := fun _ => rfl
  rw [hMembers, hMembers] at h
  have hField := field_eq h rfl (by simp)
  have hOperator := text_injective (fun _ _ => id) _ _ (Option.some.inj (hField "operatorId"))
  have hExpires := text_injective (fun _ _ => id) _ _ (Option.some.inj (hField "expiresAt"))
  cases a
  cases b
  simp_all

theorem operatorDisclosuresJson_injective (a b : OperatorDisclosures)
    (h : sortKeys (operatorDisclosuresJson a) = sortKeys (operatorDisclosuresJson b)) :
    a = b := by
  unfold operatorDisclosuresJson at h
  have hField := field_eq h rfl (by simp)
  have hMode := option_map_injective (text_injective fun _ _ => inferenceModeValue_injective)
    (hField "inferenceMode")
  have hProviders := option_map_injective
    (fun _ _ => strings_injective (f := id) fun _ _ hEq => hEq) (hField "inferenceProviders")
  have hEgress := option_map_injective
    (text_injective fun _ _ => contentEgressScopeValue_injective) (hField "contentEgressScope")
  have hRetention := option_map_injective (text_injective fun _ _ => id)
    (hField "retentionAtProvider")
  have hHosting := option_map_injective (text_injective fun _ _ => hostingModeValue_injective)
    (hField "hostingMode")
  cases a
  cases b
  simp_all

theorem claimProvenanceJson_injective (a b : ClaimProvenanceRecord)
    (h : sortKeys (claimProvenanceJson a) = sortKeys (claimProvenanceJson b)) : a = b := by
  unfold claimProvenanceJson at h
  have hField := field_eq h rfl (by simp)
  have hSource := text_injective (fun _ _ => claimProvenanceValue_injective) _ _
    (Option.some.inj (hField "source"))
  have hBy := option_map_injective (text_injective fun _ _ => id) (hField "attestedBy")
  have hAt := option_map_injective (text_injective fun _ _ => id) (hField "attestedAt")
  have hExpires := option_map_injective (text_injective fun _ _ => id) (hField "expiresAt")
  cases a
  cases b
  simp_all

theorem provenanceMapJson_injective
    (h : sortKeys (provenanceMapJson a) = sortKeys (provenanceMapJson b)) (key : String) :
    a.get key = b.get key := by
  have hMember : ∀ map : AssocMap String ClaimProvenanceRecord,
      memberOf key (sortKeys (provenanceMapJson map)) =
        ((map.get key).map claimProvenanceJson).map sortKeys := by
    intro map
    have hNodup : ((map.entries.map fun entry =>
        (entry.1, claimProvenanceJson entry.2)).map Prod.fst).Nodup := by
      simpa [List.map_map, Function.comp_def] using map.nodup
    unfold provenanceMapJson
    rw [memberOf_sortKeys hNodup]
    unfold AssocMap.get
    congr 1
    induction map.entries with
    | nil => rfl
    | cons entry entries ih =>
      obtain ⟨key', record⟩ := entry
      by_cases hKey : key = key'
      · simp [hKey]
      · simp [List.lookup_cons, beq_eq_false_iff_ne.mpr hKey, ih]
  have hSame := congrArg (memberOf key) h
  rw [hMember, hMember] at hSame
  exact option_map_injective claimProvenanceJson_injective hSame

/-- Two payloads that differ in the order of the keys of their provenance maps
at most. -/
structure WirePayload.Same (p q : WirePayload) : Prop where
  sealId : p.sealId = q.sealId
  credentialId : p.credentialId = q.credentialId
  operatorId : p.operatorId = q.operatorId
  chatId : p.chatId = q.chatId
  scopeMode : p.scopeMode = q.scopeMode
  permissions : p.permissions = q.permissions
  adminAccess : p.adminAccess = q.adminAccess
  issuedAt : p.issuedAt = q.issuedAt
  bypassed : p.bypassed = q.bypassed
  trustTier : p.trustTier = q.trustTier
  operatorDisclosures : p.operatorDisclosures = q.operatorDisclosures
  provenanceMap : ∀ key, p.provenanceMap.map (fun map => map.get key) =
    q.provenanceMap.map fun map => map.get key

/-- **Canonicalization is injective.** -/
theorem canonicalize_payloadJson {p q : WirePayload}
    (h : canonicalize (payloadJson p) = canonicalize (payloadJson q)) : p.Same q := by
  have hSorted : sortKeys (payloadJson p) = sortKeys (payloadJson q) :=
    Json.stringify_injective h
  have hField := field_eq hSorted rfl (by simp [payloadMembers])
  -- a field that is a text
  have hText : ∀ (key : String) {a b : String},
      ((payloadMembers p).lookup key).join = some (.string a) →
      ((payloadMembers q).lookup key).join = some (.string b) → a = b := by
    intro key a b hp hq
    have hKey := hField key
    rw [hp, hq] at hKey
    exact text_injective (fun _ _ => id) _ _ (Option.some.inj hKey)
  refine ⟨hText "sealId" rfl rfl, hText "credentialId" rfl rfl, hText "operatorId" rfl rfl,
    hText "chatId" rfl rfl, scopeModeValue_injective (hText "scopeMode" rfl rfl),
    scopeSetJson_injective (Option.some.inj (hField "permissions")),
    option_map_injective adminAccessJson_injective (hField "adminAccess"),
    hText "issuedAt" rfl rfl, ?_,
    option_map_injective (text_injective fun _ _ => trustTierValue_injective)
      (hField "trustTier"),
    option_map_injective operatorDisclosuresJson_injective (hField "operatorDisclosures"), ?_⟩
  · have hBypassed : (if p.bypassed then some (Json.bool true) else none).map sortKeys =
        (if q.bypassed then some (Json.bool true) else none).map sortKeys := hField "bypassed"
    cases hp : p.bypassed <;> cases hq : q.bypassed <;> simp_all
  · intro key
    have hMap : (p.provenanceMap.map provenanceMapJson).map sortKeys =
        (q.provenanceMap.map provenanceMapJson).map sortKeys := hField "provenanceMap"
    cases hp : p.provenanceMap with
    | none =>
      cases hq : q.provenanceMap with
      | none => rfl
      | some map' =>
        rw [hp, hq] at hMap
        cases hMap
    | some map =>
      cases hq : q.provenanceMap with
      | none =>
        rw [hp, hq] at hMap
        cases hMap
      | some map' =>
        rw [hp, hq] at hMap
        have hSame := provenanceMapJson_injective (Option.some.inj hMap) key
        exact congrArg some hSame

/-! ## A payload determines its canonical text -/

theorem sortMembers_present (members : List (String × Option Json)) :
    sortMembers (members.filterMap fun m => m.2.map fun value => (m.1, value)) =
      (members.map fun m => (m.1, m.2.map sortKeys)).filterMap fun m =>
        m.2.map fun value => (m.1, value) := by
  induction members with
  | nil => rfl
  | cons entry members ih =>
    obtain ⟨key, value⟩ := entry
    cases value with
    | none => simpa using ih
    | some value => simpa [sortMembers] using ih

theorem sortMembers_eq_map (members : List (String × Json)) :
    sortMembers members = members.map fun m => (m.1, sortKeys m.2) := by
  induction members with
  | nil => rfl
  | cons entry members ih =>
    obtain ⟨key, value⟩ := entry
    rw [sortMembers, ih, List.map_cons]

/-- Maps that read the same have the same canonical form. -/
theorem sortKeys_provenanceMapJson (h : ∀ key, a.get key = b.get key) :
    sortKeys (provenanceMapJson a) = sortKeys (provenanceMapJson b) := by
  have hPerm : a.entries.Perm b.entries := by
    rw [List.perm_ext_iff_of_nodup (a.nodup.of_map _) (b.nodup.of_map _)]
    rintro ⟨key, record⟩
    rw [← AssocMap.get_eq_some_iff, ← AssocMap.get_eq_some_iff, h]
  have hMembers := (hPerm.map fun entry => (entry.1, claimProvenanceJson entry.2)).map
    fun m => (m.1, sortKeys m.2)
  rw [← sortMembers_eq_map, ← sortMembers_eq_map] at hMembers
  have hNodup : ((sortMembers (a.entries.map fun entry =>
      (entry.1, claimProvenanceJson entry.2))).map Prod.fst).Nodup := by
    rw [keys_sortMembers]
    simpa [List.map_map, Function.comp_def] using a.nodup
  have hSorted := (sortByKey_eq_iff_perm Prod.fst hNodup).mpr hMembers
  exact congrArg Json.object hSorted

/-- Two payloads have one canonical text exactly when they are the same. -/
theorem canonicalize_eq_iff {p q : WirePayload} :
    canonicalize (payloadJson p) = canonicalize (payloadJson q) ↔ p.Same q := by
  refine ⟨canonicalize_payloadJson, ?_⟩
  intro h
  have hMaps : (p.provenanceMap.map provenanceMapJson).map sortKeys =
      (q.provenanceMap.map provenanceMapJson).map sortKeys := by
    have hGet := h.provenanceMap
    cases hp : p.provenanceMap with
    | none =>
      cases hq : q.provenanceMap with
      | none => rfl
      | some map' => simp [hp, hq] at hGet
    | some map =>
      cases hq : q.provenanceMap with
      | none => simp [hp, hq] at hGet
      | some map' =>
        have hKeys : ∀ key, map.get key = map'.get key := by
          intro key
          simpa [hp, hq] using hGet key
        simp [sortKeys_provenanceMapJson hKeys]
  have hMembers : (payloadMembers p).map (fun m => (m.1, m.2.map sortKeys)) =
      (payloadMembers q).map fun m => (m.1, m.2.map sortKeys) := by
    simp only [payloadMembers, List.map_cons, List.map_nil, hMaps, h.sealId, h.credentialId,
      h.operatorId, h.chatId, h.scopeMode, h.permissions, h.adminAccess, h.issuedAt, h.bypassed,
      h.trustTier, h.operatorDisclosures]
  have hText : ∀ r : WirePayload, sortKeys (payloadJson r) =
      .object ((((payloadMembers r).map fun m => (m.1, m.2.map sortKeys)).filterMap fun m =>
        m.2.map fun value => (m.1, value)).insertionSort fun left right => left.1 ≤ right.1) := by
    intro r
    unfold payloadJson Json.ofMembers
    rw [sortKeys, sortMembers_present]
  unfold canonicalize
  rw [hText, hText, hMembers]

end Verifier
end Signet
