import Mathlib.Data.List.Basic

/-!
# Prefixed resource ids

A local resource id is the tag of its type followed by sixteen lower-case
hexadecimal characters.
-/

namespace Signet
namespace Schemas

inductive ResourceType where
  | operator
  | inbox
  | conversation
  | policy
  | credential
  | seal
  | key
  | message
  | network
deriving DecidableEq, Repr

def ResourceType.tag : ResourceType → String
  | .operator => "op_"
  | .inbox => "inbox_"
  | .conversation => "conv_"
  | .policy => "policy_"
  | .credential => "cred_"
  | .seal => "seal_"
  | .key => "key_"
  | .message => "msg_"
  | .network => "xmtp_"

/-- Canonical hex suffix length for generated local resource ids. -/
def resourceIdHexLength : Nat := 16

/-- A lower-case hexadecimal character. -/
def isHexChar (c : Char) : Bool := ('0' ≤ c && c ≤ '9') || ('a' ≤ c && c ≤ 'f')

def isResourceId (type : ResourceType) (value : String) : Bool :=
  let tag := type.tag.toList
  let suffix := value.toList.drop tag.length
  value.toList.take tag.length == tag && suffix.length == resourceIdHexLength
    && suffix.all isHexChar

theorem colon_not_mem_of_isResourceId {type : ResourceType} {value : String}
    (h : isResourceId type value = true) : ':' ∉ value.toList := by
  unfold isResourceId at h
  simp only [Bool.and_eq_true, beq_iff_eq, List.all_eq_true] at h
  obtain ⟨⟨hTag, -⟩, hHex⟩ := h
  intro hMem
  rw [← List.take_append_drop type.tag.toList.length value.toList, List.mem_append] at hMem
  rcases hMem with hMem | hMem
  · rw [hTag] at hMem
    revert hMem
    cases type <;> decide
  · have hColon := hHex ':' hMem
    revert hColon
    decide

end Schemas
end Signet
