import Mathlib.Data.List.Induction
import Mathlib.Tactic.Ring

/-!
# Elements of the distinguished encoding

An element is a tag, a definite length and that many octets.  A length below 128 is one octet;
other lengths are written in octets of their own, which the first octet counts.

* `bigEndian`, `fixedOctets` — numbers as octets, the first one counting most.
* `LengthOctets`, `lengthOctets` — the octets of a length, and the shortest of them.
* `Element` — an element and its content.
* `integerOctets` — the shortest octets of a number whose first bit is its sign.
-/

namespace Signet
namespace Kit
namespace Der

/-! ## Numbers -/

/-- The number that octets write, the first one counting most. -/
def bigEndian (octets : List UInt8) : Nat :=
  octets.foldl (fun n octet => n * 256 + octet.toNat) 0

/-- The last octets of a number. -/
def fixedOctets : Nat → Nat → List UInt8
  | 0, _ => []
  | width + 1, n => fixedOctets width (n / 256) ++ [UInt8.ofNat n]

@[simp]
theorem bigEndian_nil : bigEndian [] = 0 := rfl

theorem bigEndian_snoc (octets : List UInt8) (octet : UInt8) :
    bigEndian (octets ++ [octet]) = bigEndian octets * 256 + octet.toNat := by
  simp [bigEndian]

theorem bigEndian_cons (octet : UInt8) (octets : List UInt8) :
    bigEndian (octet :: octets) = octet.toNat * 256 ^ octets.length + bigEndian octets := by
  induction octets using List.reverseRecOn with
  | nil => simp [bigEndian]
  | append_singleton octets last ih =>
    rw [← List.cons_append, bigEndian_snoc, bigEndian_snoc, ih, List.length_append,
      List.length_singleton, pow_succ]
    ring

theorem bigEndian_lt (octets : List UInt8) : bigEndian octets < 256 ^ octets.length := by
  induction octets using List.reverseRecOn with
  | nil => simp
  | append_singleton octets last ih =>
    have hLast := last.toNat_lt
    rw [bigEndian_snoc, List.length_append, List.length_singleton, pow_succ]
    omega

@[simp]
theorem length_fixedOctets (width n : Nat) : (fixedOctets width n).length = width := by
  induction width generalizing n with
  | zero => rfl
  | succ width ih => rw [fixedOctets, List.length_append, ih, List.length_singleton]

theorem bigEndian_fixedOctets (width n : Nat) :
    bigEndian (fixedOctets width n) = n % 256 ^ width := by
  induction width generalizing n with
  | zero => simp [fixedOctets, Nat.mod_one]
  | succ width ih =>
    have hSplit : n % 256 ^ (width + 1) = n % 256 + 256 * (n / 256 % 256 ^ width) := by
      rw [pow_succ', Nat.mod_mul]
    rw [fixedOctets, bigEndian_snoc, ih, UInt8.toNat_ofNat', hSplit]
    omega

theorem fixedOctets_zero (width : Nat) : fixedOctets width 0 = List.replicate width 0 := by
  induction width with
  | zero => rfl
  | succ width ih =>
    rw [fixedOctets, Nat.zero_div, ih, List.replicate_succ']
    rfl

/-- The octets of a number come apart at every place. -/
theorem fixedOctets_add (high low n : Nat) :
    fixedOctets (high + low) n = fixedOctets high (n / 256 ^ low) ++ fixedOctets low n := by
  induction low generalizing n with
  | zero => simp [fixedOctets]
  | succ low ih =>
    rw [← Nat.add_assoc, fixedOctets, ih, fixedOctets, List.append_assoc, Nat.div_div_eq_div_mul,
      ← pow_succ']

/-- Wider octets have zeros in front. -/
theorem fixedOctets_of_lt {high low n : Nat} (h : n < 256 ^ low) :
    fixedOctets (high + low) n = List.replicate high 0 ++ fixedOctets low n := by
  rw [fixedOctets_add, Nat.div_eq_of_lt h, fixedOctets_zero]

/-! ## Lengths -/

/-- The octets of a definite length below `2 ^ 31`: the length itself, or a count and as many
octets; the count is four at most. -/
inductive LengthOctets : Nat → List UInt8 → Prop
  | short {n : Nat} (hShort : n < 128) : LengthOctets n [UInt8.ofNat n]
  | long {octets : List UInt8} (hSome : octets ≠ []) (hFew : octets.length ≤ 4)
      (hSmall : bigEndian octets < 2 ^ 31) :
      LengthOctets (bigEndian octets) (UInt8.ofNat (128 + octets.length) :: octets)

/-- The shortest octets of a length. -/
def lengthOctets (n : Nat) : List UInt8 :=
  if n < 128 then [UInt8.ofNat n]
  else UInt8.ofNat (128 + (n.log2 / 8 + 1)) :: fixedOctets (n.log2 / 8 + 1) n

/-- As many octets as the number has begun. -/
theorem lt_pow_octets (n : Nat) : n < 256 ^ (n.log2 / 8 + 1) := by
  have hBits : n < 2 ^ (n.log2 + 1) := Nat.lt_log2_self
  calc n < 2 ^ (n.log2 + 1) := hBits
    _ ≤ 2 ^ (8 * (n.log2 / 8 + 1)) := Nat.pow_le_pow_right (by omega) (by omega)
    _ = 256 ^ (n.log2 / 8 + 1) := by rw [pow_mul]; rfl

variable {bytes content : List UInt8} {n : Nat} {tag : UInt8}

theorem lengthOctets_valid (h : n < 2 ^ 31) : LengthOctets n (lengthOctets n) := by
  unfold lengthOctets
  split
  · next hShort => exact .short hShort
  · next hLong =>
    -- the octets that the first one counts write the length
    have hValue : bigEndian (fixedOctets (n.log2 / 8 + 1) n) = n := by
      rw [bigEndian_fixedOctets, Nat.mod_eq_of_lt (lt_pow_octets n)]
    have hBits : n.log2 < 31 := (Nat.log2_lt (by omega)).mpr h
    have hSome : fixedOctets (n.log2 / 8 + 1) n ≠ [] := by simp [← List.length_pos_iff]
    have hFew : (fixedOctets (n.log2 / 8 + 1) n).length ≤ 4 := by
      rw [length_fixedOctets]
      omega
    have hOctets := LengthOctets.long hSome hFew (by rw [hValue]; exact h)
    rw [hValue, length_fixedOctets] at hOctets
    exact hOctets

/-! ## Elements -/

/-- An element: a tag of one octet, a length, the content. -/
inductive Element (tag : UInt8) (content : List UInt8) : List UInt8 → Prop
  | mk {lengths : List UInt8} (hLength : LengthOctets content.length lengths) :
      Element tag content (tag :: lengths ++ content)

def element (tag : UInt8) (content : List UInt8) : List UInt8 :=
  tag :: lengthOctets content.length ++ content

theorem element_valid (h : content.length < 2 ^ 31) :
    Element tag content (element tag content) :=
  .mk (lengthOctets_valid h)

theorem LengthOctets.length_pos {octets : List UInt8} (h : LengthOctets n octets) :
    0 < octets.length := by
  cases h <;> exact Nat.succ_pos _

/-- No length is the beginning of another one. -/
theorem LengthOctets.unique {n' : Nat} {octets octets' rest rest' : List UInt8}
    (h : LengthOctets n octets) (h' : LengthOctets n' octets')
    (hSame : octets ++ rest = octets' ++ rest') : octets = octets' ∧ n = n' := by
  have hOctet : ∀ {a b : Nat}, a < 256 → b < 256 → UInt8.ofNat a = UInt8.ofNat b → a = b := by
    intro a b ha hb hEq
    have hNat := congrArg UInt8.toNat hEq
    rwa [UInt8.toNat_ofNat', UInt8.toNat_ofNat', Nat.mod_eq_of_lt ha, Nat.mod_eq_of_lt hb] at hNat
  cases h with
  -- the first octet tells a short length from a long one, and counts the octets of a long one
  | short hShort =>
    cases h' with
    | short hShort' =>
      have hFirst := (List.cons.inj hSame).1
      obtain rfl := hOctet (by omega) (by omega) hFirst
      exact ⟨rfl, rfl⟩
    | long _ hFew' _ =>
      have hEq := hOctet (by omega) (by omega) (List.cons.inj hSame).1
      omega
  | long _ hFew _ =>
    cases h' with
    | short hShort' =>
      have hEq := hOctet (by omega) (by omega) (List.cons.inj hSame).1
      omega
    | long _ hFew' _ =>
      obtain ⟨hFirst, hRest⟩ := List.cons.inj hSame
      have hCount := hOctet (by omega) (by omega) hFirst
      obtain ⟨rfl, _⟩ := List.append_inj hRest (by omega)
      exact ⟨rfl, rfl⟩

section

variable (h : Element tag content bytes)

include h

/-- No element is the beginning of another one. -/
theorem Element.unique {tag' : UInt8} {content' bytes' rest rest' : List UInt8}
    (h' : Element tag' content' bytes') (hSame : bytes ++ rest = bytes' ++ rest') :
    bytes = bytes' := by
  obtain ⟨hLength⟩ := h
  obtain ⟨hLength'⟩ := h'
  simp only [List.cons_append, List.append_assoc, List.cons.injEq] at hSame
  obtain ⟨rfl, hAfter⟩ := hSame
  obtain ⟨rfl, hContent⟩ := hLength.unique hLength' hAfter
  obtain ⟨rfl, _⟩ := List.append_inj (List.append_cancel_left hAfter) hContent
  rfl

theorem Element.head? (rest : List UInt8) : (bytes ++ rest).head? = some tag := by
  obtain ⟨_⟩ := h
  rfl

theorem Element.length_pos : 0 < bytes.length := by
  obtain ⟨_⟩ := h
  exact Nat.succ_pos _

end

/-! ## Integers -/

/-- The octets of a number with a bit for its sign. -/
def integerWidth (n : Nat) : Nat := (n.log2 + 1) / 8 + 1

/-- The shortest octets of a number that is not negative. -/
def integerOctets (n : Nat) : List UInt8 := fixedOctets (integerWidth n) n

theorem length_integerOctets (n : Nat) : (integerOctets n).length = integerWidth n :=
  length_fixedOctets _ _

theorem lt_pow_integerWidth (n : Nat) : n < 256 ^ integerWidth n :=
  (lt_pow_octets n).trans_le (Nat.pow_le_pow_right (by omega) (by unfold integerWidth; omega))

theorem integerWidth_pos (n : Nat) : 0 < integerWidth n := Nat.succ_pos _

theorem integerWidth_le {width : Nat} (h : n < 256 ^ width) : integerWidth n ≤ width + 1 := by
  rcases Nat.eq_zero_or_pos n with rfl | hPos
  · have hZero : integerWidth 0 = 1 := by decide
    omega
  · have hBits : n.log2 < 8 * width := by
      rw [Nat.log2_lt (by omega), pow_mul]
      exact h
    unfold integerWidth
    omega

example : integerOctets 128 = [0, 128] := by decide

end Der
end Kit
end Signet
