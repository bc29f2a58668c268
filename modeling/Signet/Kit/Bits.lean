import Mathlib.Algebra.Group.Nat.Defs
import Mathlib.Data.List.Induction

/-!
# Bits in big-endian order

Numbers and bytes as lists of bits, the highest bit first.

* `bitsOf`, `ofBits` — the bits of a number and back.
* `byteBits`, `packBytes` — those of bytes; `packBytes_byteBits`.
* `flatMap_groups` — groups of one width that follow each other are the bits they are taken from.
-/

namespace Signet
namespace Kit

/-- The lowest bits of a number, as many as the width says. -/
def bitsOf (width n : Nat) : List Bool := (List.range width).map fun i => n.testBit (width - 1 - i)

def ofBits (bits : List Bool) : Nat := bits.foldl (fun n bit => 2 * n + bit.toNat) 0

theorem length_bitsOf (width n : Nat) : (bitsOf width n).length = width := by simp [bitsOf]

theorem bitsOf_succ (width n : Nat) :
    bitsOf (width + 1) n = bitsOf width (n / 2) ++ [n.testBit 0] := by
  unfold bitsOf
  rw [List.range_succ, List.map_append, List.map_singleton]
  congr 1
  · refine List.map_congr_left ?_
    intro i hi
    have hLt := List.mem_range.mp hi
    rw [← Nat.testBit_succ]
    congr 1
    omega
  · congr 2
    omega

theorem ofBits_snoc (bits : List Bool) (bit : Bool) :
    ofBits (bits ++ [bit]) = 2 * ofBits bits + bit.toNat := by
  simp [ofBits]

theorem ofBits_lt (bits : List Bool) : ofBits bits < 2 ^ bits.length := by
  induction bits using List.reverseRecOn with
  | nil => exact Nat.one_pos
  | append_singleton bits bit ih =>
    have hBit := bit.toNat_lt
    rw [ofBits_snoc, List.length_append, List.length_singleton, Nat.pow_succ]
    omega

theorem bitsOf_ofBits (bits : List Bool) : bitsOf bits.length (ofBits bits) = bits := by
  induction bits using List.reverseRecOn with
  | nil => rfl
  | append_singleton bits bit ih =>
    have hHalf : (2 * ofBits bits + bit.toNat) / 2 = ofBits bits := by
      have := bit.toNat_lt
      omega
    rw [ofBits_snoc, List.length_append, List.length_singleton, bitsOf_succ, hHalf, ih]
    cases bit <;> simp [Nat.testBit_zero]

theorem ofBits_bitsOf (width n : Nat) (h : n < 2 ^ width) : ofBits (bitsOf width n) = n := by
  induction width generalizing n with
  | zero =>
    have hZero : n = 0 := Nat.lt_one_iff.mp h
    rw [hZero]
    rfl
  | succ width ih =>
    rw [bitsOf_succ, ofBits_snoc, ih (n / 2) (by rw [Nat.pow_succ] at h; omega),
      Nat.toNat_testBit, Nat.pow_zero, Nat.div_one]
    omega

/-! ## Bytes -/

def byteBits (data : List UInt8) : List Bool := data.flatMap fun byte => bitsOf 8 byte.toNat

/-- Whole bytes of bits. -/
def packBytes : List Bool → List UInt8
  | b₇ :: b₆ :: b₅ :: b₄ :: b₃ :: b₂ :: b₁ :: b₀ :: rest =>
    UInt8.ofNat (ofBits [b₇, b₆, b₅, b₄, b₃, b₂, b₁, b₀]) :: packBytes rest
  | _ => []

theorem length_byteBits (data : List UInt8) : (byteBits data).length = 8 * data.length := by
  induction data with
  | nil => rfl
  | cons byte rest ih =>
    unfold byteBits at ih ⊢
    rw [List.flatMap_cons, List.length_append, length_bitsOf, ih, List.length_cons]
    omega

theorem packBytes_byteBits (data : List UInt8) : packBytes (byteBits data) = data := by
  induction data with
  | nil => rfl
  | cons byte rest ih =>
    have hByte : ofBits (bitsOf 8 byte.toNat) = byte.toNat := ofBits_bitsOf 8 _ byte.toNat_lt
    have hPack : packBytes (byteBits (byte :: rest)) =
        UInt8.ofNat (ofBits (bitsOf 8 byte.toNat)) :: packBytes (byteBits rest) := rfl
    rw [hPack, hByte, ih, UInt8.ofNat_toNat]

/-- Where a bit of the bytes stands. -/
theorem getElem?_byteBits (data : List UInt8) (i : Nat) :
    (byteBits data)[i]? = data[i / 8]?.map fun byte => byte.toNat.testBit (7 - i % 8) := by
  induction data generalizing i with
  | nil => simp [byteBits]
  | cons byte rest ih =>
    unfold byteBits at ih ⊢
    rw [List.flatMap_cons]
    by_cases hFirst : i < 8
    · rw [List.getElem?_append_left (by rw [length_bitsOf]; exact hFirst),
        Nat.div_eq_of_lt hFirst, Nat.mod_eq_of_lt hFirst]
      simp [bitsOf, hFirst]
    · obtain ⟨j, rfl⟩ : ∃ j, i = j + 8 := ⟨i - 8, by omega⟩
      rw [List.getElem?_append_right (by rw [length_bitsOf]; omega), length_bitsOf,
        Nat.add_sub_cancel, ih, Nat.add_div_right j (by omega), Nat.add_mod_right]
      rfl

/-! ## Groups -/

theorem flatMap_groups (bits : List Bool) (width count : Nat) :
    ((List.range count).flatMap fun i => (bits.drop (width * i)).take width) =
      bits.take (width * count) := by
  induction count with
  | zero => simp
  | succ count ih =>
    rw [List.range_succ, List.flatMap_append, ih, List.flatMap_singleton, Nat.mul_succ,
      List.take_add]

end Kit
end Signet
