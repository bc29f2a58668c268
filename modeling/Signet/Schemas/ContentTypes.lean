import Mathlib.Data.List.TakeWhile
import Mathlib.Tactic.Common

/-!
# Content type identifiers

The strings that name a content type: an authority, a type and a version of two numbers, with a
slash, a colon and a dot between them.

* `isContentTypeId` — the schema.
* `ContentTypeParts` — the parts of a string that the schema accepts, with what they are made of.
* `isContentTypeId_iff` — the schema accepts the strings that have such parts.
-/

namespace Signet
namespace Schemas

def isDigitChar (c : Char) : Bool := '0' ≤ c && c ≤ '9'

def isLowerChar (c : Char) : Bool := 'a' ≤ c && c ≤ 'z'

/-- `[a-z0-9.-]` -/
def isAuthorityChar (c : Char) : Bool := isLowerChar c || isDigitChar c || c == '.' || c == '-'

/-- `[a-zA-Z0-9]` -/
def isTypeChar (c : Char) : Bool := isLowerChar c || ('A' ≤ c && c ≤ 'Z') || isDigitChar c

/-- Some characters of a class, one separator, and the rest. -/
def splitClass (isMember : Char → Bool) (separator : Char) (text : List Char) :
    Option (List Char × List Char) :=
  match text.dropWhile isMember with
  | c :: rest =>
    if text.takeWhile isMember ≠ [] ∧ c = separator then some (text.takeWhile isMember, rest)
    else none
  | [] => none

/-- `/^[a-z0-9.-]+\/[a-zA-Z0-9]+:\d+\.\d+$/` -/
def isContentTypeId (value : String) : Bool :=
  match splitClass isAuthorityChar '/' value.toList with
  | none => false
  | some (_, rest) =>
    match splitClass isTypeChar ':' rest with
    | none => false
    | some (_, version) =>
      match splitClass isDigitChar '.' version with
      | none => false
      | some (_, minor) => minor ≠ [] && minor.all isDigitChar

/-- The parts of a content type identifier. -/
structure ContentTypeParts where
  authority : List Char
  type : List Char
  major : List Char
  minor : List Char
  authority_chars : authority ≠ [] ∧ ∀ c ∈ authority, isAuthorityChar c = true
  type_chars : type ≠ [] ∧ ∀ c ∈ type, isTypeChar c = true
  major_chars : major ≠ [] ∧ ∀ c ∈ major, isDigitChar c = true
  minor_chars : minor ≠ [] ∧ ∀ c ∈ minor, isDigitChar c = true

def ContentTypeParts.text (parts : ContentTypeParts) : List Char :=
  parts.authority ++ '/' :: (parts.type ++ ':' :: (parts.major ++ '.' :: parts.minor))

theorem splitClass_eq_some {isMember : Char → Bool} {separator : Char} {text part rest : List Char}
    (h : splitClass isMember separator text = some (part, rest)) :
    text = part ++ separator :: rest ∧ part ≠ [] ∧ ∀ c ∈ part, isMember c = true := by
  unfold splitClass at h
  split at h
  · next c rest' hRest =>
    split at h
    · next hBoth =>
      cases h
      obtain ⟨hNe, rfl⟩ := hBoth
      refine ⟨?_, hNe, fun c hMem => List.mem_takeWhile_imp hMem⟩
      calc text = text.takeWhile isMember ++ text.dropWhile isMember :=
            (List.takeWhile_append_dropWhile).symm
        _ = text.takeWhile isMember ++ c :: rest := by rw [hRest]
    · cases h
  · cases h

theorem splitClass_append {isMember : Char → Bool} {separator : Char} {part rest : List Char}
    (hSeparator : isMember separator = false) (hNe : part ≠ [])
    (hPart : ∀ c ∈ part, isMember c = true) :
    splitClass isMember separator (part ++ separator :: rest) = some (part, rest) := by
  have hTake : (part ++ separator :: rest).takeWhile isMember = part := by
    rw [List.takeWhile_append_of_pos hPart,
      List.takeWhile_cons_of_neg (by simp [hSeparator]), List.append_nil]
  have hDrop : (part ++ separator :: rest).dropWhile isMember = separator :: rest := by
    rw [List.dropWhile_append_of_pos hPart, List.dropWhile_cons_of_neg (by simp [hSeparator])]
  simp [splitClass, hTake, hDrop, hNe]

/-- The schema accepts what has the parts of an identifier. -/
theorem isContentTypeId_iff {value : String} :
    isContentTypeId value = true ↔ ∃ parts : ContentTypeParts, value.toList = parts.text := by
  unfold isContentTypeId
  constructor
  · intro h
    split at h
    · cases h
    · next authority rest hAuthority =>
      split at h
      · cases h
      · next type version hType =>
        split at h
        · cases h
        · next major minor hMajor =>
          rw [Bool.and_eq_true, decide_eq_true_eq, List.all_eq_true] at h
          obtain ⟨hText, hAuthority⟩ := splitClass_eq_some hAuthority
          obtain ⟨hRest, hType⟩ := splitClass_eq_some hType
          obtain ⟨hVersion, hMajor⟩ := splitClass_eq_some hMajor
          refine ⟨⟨authority, type, major, minor, hAuthority, hType, hMajor, h⟩, ?_⟩
          rw [hText, hRest, hVersion]
          rfl
  · rintro ⟨parts, hText⟩
    have hAuthority := @splitClass_append isAuthorityChar '/' parts.authority
      (parts.type ++ ':' :: (parts.major ++ '.' :: parts.minor)) (by decide)
      parts.authority_chars.1 parts.authority_chars.2
    have hType := @splitClass_append isTypeChar ':' parts.type
      (parts.major ++ '.' :: parts.minor) (by decide) parts.type_chars.1 parts.type_chars.2
    have hMajor := @splitClass_append isDigitChar '.' parts.major parts.minor (by decide)
      parts.major_chars.1 parts.major_chars.2
    rw [hText, ContentTypeParts.text, hAuthority]
    simp only [hType, hMajor]
    rw [Bool.and_eq_true, decide_eq_true_eq, List.all_eq_true]
    exact parts.minor_chars

namespace ContentTypeParts

variable (parts : ContentTypeParts)

theorem not_mem_of_class {isMember : Char → Bool} {c : Char} {text : List Char}
    (hText : ∀ c ∈ text, isMember c = true) (hNot : isMember c = false) : c ∉ text := by
  intro hMem
  rw [hText c hMem] at hNot
  cases hNot

theorem slash_not_mem_authority : '/' ∉ parts.authority :=
  not_mem_of_class parts.authority_chars.2 (by decide)

theorem colon_not_mem_authority : ':' ∉ parts.authority :=
  not_mem_of_class parts.authority_chars.2 (by decide)

theorem slash_not_mem_type : '/' ∉ parts.type :=
  not_mem_of_class parts.type_chars.2 (by decide)

theorem colon_not_mem_type : ':' ∉ parts.type :=
  not_mem_of_class parts.type_chars.2 (by decide)

theorem dot_not_mem_major : '.' ∉ parts.major :=
  not_mem_of_class parts.major_chars.2 (by decide)

theorem dot_not_mem_minor : '.' ∉ parts.minor :=
  not_mem_of_class parts.minor_chars.2 (by decide)

theorem slash_mem_text : '/' ∈ parts.text := by
  simp [text]

end ContentTypeParts

end Schemas
end Signet
