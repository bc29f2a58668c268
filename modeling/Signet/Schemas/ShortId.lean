import Mathlib.Data.List.Infix
import Mathlib.Data.List.Nodup
import Signet.Schemas.Errors
import Signet.Schemas.ResourceId

/-!
# Short ids

A resource may be named by the first characters of its hex part, with or without the tag of its
type in front, if no other resource answers to them.

* `extractHex`, `resolveShortId`
* `Answers` — a candidate answers to a short id.
* `resolveShortId_sound` — what a short id is resolved to, and what longer ones are.
-/

namespace Signet
namespace Schemas

open Kit

/-- The types in the order of `ALL_PREFIXES`. -/
def allTypes : List ResourceType :=
  [.operator, .inbox, .conversation, .policy, .credential, .seal, .key, .message, .network]

/-- `id.startsWith(prefix)` -/
def startsWithTag (id : String) (type : ResourceType) : Bool :=
  type.tag.toList.isPrefixOf id.toList

/-- The type whose tag an id begins with, the first one that is found. -/
def typeOf (id : String) : Option ResourceType := allTypes.find? (startsWithTag id)

/-- What an id has behind its tag, if it begins with one. -/
def hexPart (id : String) : List Char :=
  match typeOf id with
  | some type => id.toList.drop type.tag.toList.length
  | none => id.toList

/-- `SHORT_ID_HEX.test(hex)` -/
def isShortIdHex (hex : List Char) : Bool :=
  hex.length == resourceIdHexLength && hex.all isHexChar

/-- `extractHex` -/
def extractHex (id : String) : Option (List Char) :=
  match typeOf id with
  | some _ => if isShortIdHex (hexPart id) then some (hexPart id) else none
  | none => none

/-- `AnyResourceId.safeParse(id).success` -/
def isAnyResourceId (id : String) : Bool := allTypes.any fun type => isResourceId type id

/-- A candidate that the loop over the candidates takes. -/
def isMatch (shortId candidate : String) : Bool :=
  (typeOf shortId).all (startsWithTag candidate) &&
    (extractHex candidate).any fun hex => (hexPart shortId).isPrefixOf hex

/-- `resolveShortId` -/
def resolveShortId (shortId : String) (candidates : List String) : Except SignetError String :=
  if isAnyResourceId shortId then
    if candidates.contains shortId then .ok shortId
    else .error (NotFoundError.create "resource" shortId)
  else if (hexPart shortId).isEmpty || !(hexPart shortId).all isHexChar then
    .error (ValidationError.createWith "shortId"
      "Short ID must be lowercase hex or a full resource ID" [("shortId", .text shortId)])
  else
    match candidates.filter (isMatch shortId) with
    | [] => .error (NotFoundError.create "resource" shortId)
    | [hit] => .ok hit
    | hits => .error (ValidationError.createWith "shortId" "Ambiguous short ID"
        [("shortId", .text shortId), ("suggestions", .json (.array (hits.map .string)))])

/-- The candidate is a resource id, of the type the short id names if it names one, and its hex
part begins with that of the short id. -/
def Answers (shortId candidate : String) : Prop :=
  ∃ type, isResourceId type candidate = true ∧ (∀ named ∈ typeOf shortId, named = type) ∧
    hexPart shortId <+: candidate.toList.drop type.tag.toList.length

/-! ## Tags -/

variable {id shortId candidate : String} {type : ResourceType} {candidates : List String}

/-- No tag begins with another one. -/
theorem tag_of_prefix {type' : ResourceType} (h : type.tag.toList <+: type'.tag.toList) :
    type = type' := by
  cases type <;> cases type' <;> first | rfl | exact absurd h (by decide)

theorem prefix_of_typeOf (h : typeOf id = some type) : type.tag.toList <+: id.toList := by
  have hStarts : startsWithTag id type = true := List.find?_some h
  exact List.isPrefixOf_iff_prefix.mp hStarts

theorem typeOf_eq_some : typeOf id = some type ↔ type.tag.toList <+: id.toList := by
  constructor
  · exact prefix_of_typeOf
  · intro hTag
    have hSome : (typeOf id).isSome = true := by
      rw [typeOf, List.find?_isSome]
      exact ⟨type, by cases type <;> decide, List.isPrefixOf_iff_prefix.mpr hTag⟩
    obtain ⟨found, hFound⟩ := Option.isSome_iff_exists.mp hSome
    rcases List.prefix_or_prefix_of_prefix (prefix_of_typeOf hFound) hTag with hPrefix | hPrefix
    · rw [hFound, tag_of_prefix hPrefix]
    · rw [hFound, tag_of_prefix hPrefix]

theorem hexPart_of_tag (h : type.tag.toList <+: id.toList) :
    hexPart id = id.toList.drop type.tag.toList.length := by
  simp only [hexPart, typeOf_eq_some.mpr h]

theorem isResourceId_iff :
    isResourceId type id = true ↔ typeOf id = some type ∧ isShortIdHex (hexPart id) = true := by
  have hTag : id.toList.take type.tag.toList.length = type.tag.toList ↔
      type.tag.toList <+: id.toList := by
    rw [List.prefix_iff_eq_take, eq_comm]
  rw [typeOf_eq_some]
  simp only [isResourceId, isShortIdHex, Bool.and_eq_true, beq_iff_eq, hTag, and_assoc]
  refine and_congr_right fun hPrefix => ?_
  rw [hexPart_of_tag hPrefix]

theorem isAnyResourceId_iff :
    isAnyResourceId id = true ↔ ∃ type, isResourceId type id = true := by
  rw [isAnyResourceId, List.any_eq_true]
  constructor
  · rintro ⟨type, -, hId⟩
    exact ⟨type, hId⟩
  · rintro ⟨type, hId⟩
    exact ⟨type, by cases type <;> decide, hId⟩

theorem answers_iff :
    Answers shortId candidate ↔ ∃ type, isResourceId type candidate = true ∧
      (∀ named ∈ typeOf shortId, named = type) ∧ hexPart shortId <+: hexPart candidate := by
  unfold Answers
  refine exists_congr fun type => and_congr_right fun hId => ?_
  rw [hexPart_of_tag (typeOf_eq_some.mp (isResourceId_iff.mp hId).1)]

theorem isMatch_iff : isMatch shortId candidate = true ↔ Answers shortId candidate := by
  have hNamed : (typeOf shortId).all (startsWithTag candidate) = true ↔
      ∀ named ∈ typeOf shortId, typeOf candidate = some named := by
    simp only [Option.all_eq_true, startsWithTag, List.isPrefixOf_iff_prefix, typeOf_eq_some,
      Option.mem_def]
  rw [answers_iff, isMatch, Bool.and_eq_true, hNamed]
  unfold extractHex
  cases hType : typeOf candidate with
  | none => simp [isResourceId_iff, hType]
  | some type =>
    simp only [isResourceId_iff, hType, Option.some.injEq]
    split
    · next hHex =>
      rw [Option.any_some, List.isPrefixOf_iff_prefix]
      constructor
      · rintro ⟨hNamed, hPrefix⟩
        exact ⟨type, ⟨rfl, hHex⟩, fun named hMem => (hNamed named hMem).symm, hPrefix⟩
      · rintro ⟨_, ⟨rfl, -⟩, hNamed, hPrefix⟩
        exact ⟨fun named hMem => (hNamed named hMem).symm, hPrefix⟩
    · next hHex => simp [hHex]

/-! ## Resolution -/

/-- The only element of a list without duplicates that passes a test. -/
theorem filter_eq_singleton {α : Type*} {l : List α} (hNodup : l.Nodup) {test : α → Bool} {a : α} :
    l.filter test = [a] ↔ a ∈ l ∧ test a = true ∧ ∀ b ∈ l, test b = true → b = a := by
  have hMem : ∀ {b}, b ∈ l.filter test ↔ b ∈ l ∧ test b = true := List.mem_filter
  constructor
  · intro hEq
    rw [hEq] at hMem
    have hFound := hMem.mp (List.mem_singleton.mpr rfl)
    exact ⟨hFound.1, hFound.2, fun b hb hTest => List.mem_singleton.mp (hMem.mpr ⟨hb, hTest⟩)⟩
  · rintro ⟨hIn, hTest, hOnly⟩
    have hKept := hNodup.filter test
    have hAll : ∀ b ∈ l.filter test, b = a := fun b hb => hOnly b (hMem.mp hb).1 (hMem.mp hb).2
    have hFound := hMem.mpr ⟨hIn, hTest⟩
    generalize l.filter test = hits at hKept hAll hFound
    match hits, hFound with
    | [b], _ => rw [hAll b List.mem_cons_self]
    | b :: c :: _, _ =>
      have hSame := (hAll b (by simp)).trans (hAll c (by simp)).symm
      subst hSame
      simp at hKept

/-- A full id is answered to by itself alone. -/
theorem answers_full (h : isResourceId type shortId = true) :
    Answers shortId candidate ↔ candidate = shortId := by
  obtain ⟨hType, hHex⟩ := isResourceId_iff.mp h
  rw [answers_iff]
  constructor
  · rintro ⟨type', hCandidate, hNamed, hPrefix⟩
    obtain ⟨hType', hHex'⟩ := isResourceId_iff.mp hCandidate
    have hSame := hNamed type hType
    subst hSame
    simp only [isShortIdHex, Bool.and_eq_true, beq_iff_eq] at hHex hHex'
    have hParts := hPrefix.eq_of_length (hHex.1.trans hHex'.1.symm)
    rw [hexPart_of_tag (typeOf_eq_some.mp hType), hexPart_of_tag (typeOf_eq_some.mp hType')]
      at hParts
    rw [← String.toList_inj, ← List.prefix_iff_eq_append.mp (typeOf_eq_some.mp hType'), ← hParts,
      List.prefix_iff_eq_append.mp (typeOf_eq_some.mp hType)]
  · rintro rfl
    refine ⟨type, h, ?_, List.prefix_refl _⟩
    intro named hIn
    rw [hType] at hIn
    exact (Option.some.inj hIn).symm

section

variable (hNodup : candidates.Nodup) (hPart : hexPart shortId ≠ [])

include hNodup hPart

/-- **What a short id is resolved to**: the only candidate that answers to it. -/
theorem resolveShortId_eq_ok :
    resolveShortId shortId candidates = .ok candidate ↔
      candidate ∈ candidates ∧ Answers shortId candidate ∧
        ∀ other ∈ candidates, Answers shortId other → other = candidate := by
  unfold resolveShortId
  split
  · next hFull =>
    obtain ⟨type, hId⟩ := isAnyResourceId_iff.mp hFull
    simp only [answers_full hId]
    by_cases hIn : shortId ∈ candidates
    · rw [if_pos (List.contains_iff_mem.mpr hIn), Except.ok.injEq]
      constructor
      · rintro rfl
        exact ⟨hIn, rfl, fun other _ hEq => hEq⟩
      · exact fun h => h.2.1.symm
    · rw [if_neg (mt List.contains_iff_mem.mp hIn)]
      constructor
      · exact nofun
      · rintro ⟨hMem, rfl, -⟩
        exact absurd hMem hIn
  · split
    · next hBad =>
      constructor
      · exact nofun
      · rintro ⟨-, hAnswers, -⟩
        -- what answers has hexadecimal characters only, and so has the short id
        obtain ⟨type, hId, -, hPrefix⟩ := answers_iff.mp hAnswers
        have hHex := (isResourceId_iff.mp hId).2
        simp only [isShortIdHex, Bool.and_eq_true, List.all_eq_true] at hHex
        simp only [List.isEmpty_iff, hPart, Bool.or_eq_true, false_or, Bool.not_eq_true',
          List.all_eq_false] at hBad
        obtain ⟨c, hc, hNot⟩ := hBad
        exact absurd (hHex.2 c (hPrefix.subset hc)) hNot
    · have hFilter := @filter_eq_singleton _ _ hNodup (isMatch shortId) candidate
      simp only [isMatch_iff] at hFilter
      rw [← hFilter]
      split
      · next hNone => simp [hNone]
      · next hit hOne => simp [hOne]
      · next hits hNone hSome =>
        constructor
        · exact nofun
        · exact fun hEq => absurd hEq (hSome candidate)

variable (h : resolveShortId shortId candidates = .ok candidate)

include h

/-- A short id that goes on towards what the shorter one was resolved to is resolved to it, too. -/
theorem resolveShortId_longer {longer : String}
    (hNamed : ∀ named ∈ typeOf longer, typeOf candidate = some named)
    (hKept : ∀ named ∈ typeOf shortId, typeOf longer = some named)
    (hExtends : hexPart shortId <+: hexPart longer)
    (hTowards : hexPart longer <+: hexPart candidate) :
    resolveShortId longer candidates = .ok candidate := by
  obtain ⟨hIn, hAnswers, hOnly⟩ := (resolveShortId_eq_ok hNodup hPart).mp h
  obtain ⟨type, hId, -, -⟩ := answers_iff.mp hAnswers
  have hLonger : hexPart longer ≠ [] := by
    intro hNil
    rw [hNil, List.prefix_nil] at hExtends
    exact hPart hExtends
  rw [resolveShortId_eq_ok hNodup hLonger]
  refine ⟨hIn, answers_iff.mpr ⟨type, hId, ?_, hTowards⟩, ?_⟩
  · intro named hMem
    have hType := (isResourceId_iff.mp hId).1
    rw [hNamed named hMem] at hType
    exact Option.some.inj hType
  · intro other hOther hAnswersOther
    obtain ⟨type', hId', hNamed', hPrefix⟩ := answers_iff.mp hAnswersOther
    apply hOnly other hOther
    exact answers_iff.mpr ⟨type', hId', fun named hMem => hNamed' named (hKept named hMem),
      hExtends.trans hPrefix⟩

theorem isHexChar_of_resolved :
    ∃ type, isResourceId type candidate = true ∧ ∀ c ∈ hexPart candidate, isHexChar c = true := by
  obtain ⟨-, ⟨type, hId, -⟩, -⟩ := (resolveShortId_eq_ok hNodup hPart).mp h
  have hHex := (isResourceId_iff.mp hId).2
  simp only [isShortIdHex, Bool.and_eq_true, List.all_eq_true] at hHex
  exact ⟨type, hId, hHex.2⟩

end

/-- Hexadecimal characters are no tag. -/
theorem typeOf_of_hex {text : List Char} (hText : ∀ c ∈ text, isHexChar c = true)
    (h : id.toList <+: text) : typeOf id = none := by
  cases hType : typeOf id with
  | none => rfl
  | some type =>
    have hMark := hText '_' (((typeOf_eq_some.mp hType).trans h).subset (by cases type <;> decide))
    exact absurd hMark (by decide)

/-- **Short ids are resolved soundly.**  Behind its tag a short id needs a character; then it is
resolved to the only candidate that answers to it, and so is every longer one on the way there. -/
theorem resolveShortId_sound {candidates : List String} (hNodup : candidates.Nodup)
    (shortId : String) :
    (hexPart shortId = [] → ∃ error, resolveShortId shortId candidates = .error error) ∧
    (hexPart shortId ≠ [] → ∀ candidate,
      (resolveShortId shortId candidates = .ok candidate ↔
        candidate ∈ candidates ∧ Answers shortId candidate ∧
          ∀ other ∈ candidates, Answers shortId other → other = candidate) ∧
      (resolveShortId shortId candidates = .ok candidate →
        resolveShortId candidate candidates = .ok candidate ∧
        ∀ longer : String, shortId.toList <+: longer.toList →
          (typeOf shortId ≠ none ∧ longer.toList <+: candidate.toList ∨
            typeOf shortId = none ∧ longer.toList <+: hexPart candidate) →
          resolveShortId longer candidates = .ok candidate)) := by
  constructor
  · intro hNil
    have hPartial : ¬ isAnyResourceId shortId = true := by
      intro hFull
      obtain ⟨type, hId⟩ := isAnyResourceId_iff.mp hFull
      have hHex := (isResourceId_iff.mp hId).2
      rw [hNil] at hHex
      exact absurd hHex (by decide)
    have hEmpty : ((hexPart shortId).isEmpty || !(hexPart shortId).all isHexChar) = true := by
      rw [hNil]
      rfl
    rw [resolveShortId, if_neg hPartial, if_pos hEmpty]
    exact ⟨_, rfl⟩
  · intro hPart candidate
    refine ⟨resolveShortId_eq_ok hNodup hPart, fun h => ⟨?_, ?_⟩⟩
    · obtain ⟨hIn, hAnswers, hOnly⟩ := (resolveShortId_eq_ok hNodup hPart).mp h
      obtain ⟨type, hId, -⟩ := hAnswers
      unfold resolveShortId
      rw [if_pos (isAnyResourceId_iff.mpr ⟨type, hId⟩), if_pos (List.contains_iff_mem.mpr hIn)]
    · intro longer hExtends hWay
      obtain ⟨type, hId, hHex⟩ := isHexChar_of_resolved hNodup hPart h
      rcases hWay with ⟨hTagged, hTowards⟩ | ⟨hBare, hTowards⟩
      · obtain ⟨named, hNamed⟩ := Option.ne_none_iff_exists'.mp hTagged
        have hTag := typeOf_eq_some.mp hNamed
        have hLonger := hTag.trans hExtends
        have hCandidate := hLonger.trans hTowards
        apply resolveShortId_longer hNodup hPart h
        · intro named' hMem
          rw [typeOf_eq_some.mpr hLonger] at hMem
          cases hMem
          exact typeOf_eq_some.mpr hCandidate
        · intro named' hMem
          rw [hNamed] at hMem
          cases hMem
          exact typeOf_eq_some.mpr hLonger
        · rw [hexPart_of_tag hTag, hexPart_of_tag hLonger]
          exact List.IsPrefix.drop hExtends _
        · rw [hexPart_of_tag hLonger, hexPart_of_tag hCandidate]
          exact List.IsPrefix.drop hTowards _
      · have hLonger : typeOf longer = none := typeOf_of_hex hHex hTowards
        have hText : ∀ {id : String}, typeOf id = none → hexPart id = id.toList := by
          intro id hNone
          rw [hexPart, hNone]
        apply resolveShortId_longer hNodup hPart h
        · rw [hLonger]
          exact nofun
        · rw [hBare]
          exact nofun
        · rw [hText hBare, hText hLonger]
          exact hExtends
        · rw [hText hLonger]
          exact hTowards

def shortIdCandidates : List String :=
  ["op_aabb001122334455", "op_aabb002233445566", "conv_ccdd003344556677", "seal_eeff445566778899"]

theorem resolveShortId_sound_unique :
    resolveShortId "ccd" shortIdCandidates = .ok "conv_ccdd003344556677" :=
  (((resolveShortId_sound (by decide) "cc").2 (by decide) "conv_ccdd003344556677").2
    (by decide)).2 "ccd" (by decide) (by decide)

/-- The only operator does not answer to the tag alone, and a character of the tag that has been
read as a hexadecimal one does not go on to the tag. -/
theorem tag_not_resolved :
    (Answers "op_" "op_aabb001122334455" ∧
      ∃ error, resolveShortId "op_" ["op_aabb001122334455"] = .error error) ∧
    resolveShortId "c" ["conv_ccdd003344556677"] = .ok "conv_ccdd003344556677" ∧
    "c".toList <+: "co".toList ∧ "co".toList <+: "conv_ccdd003344556677".toList ∧
    ∃ error, resolveShortId "co" ["conv_ccdd003344556677"] = .error error :=
  ⟨⟨⟨.operator, by decide, by decide, by decide⟩, _, rfl⟩, by decide, by decide, by decide, _, rfl⟩

end Schemas
end Signet
