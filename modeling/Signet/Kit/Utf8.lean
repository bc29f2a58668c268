import Mathlib.Data.List.Basic

/-!
# UTF-8

Writing a text as bytes, and reading bytes back with a replacement character for each
malformed part.  The reader keeps what it still expects of the present character; a
byte that does not continue it ends the character and is read again as the first byte
of the next.

* `encode`, `decode`
* `decode_encode` — reading what was written.
-/

namespace Signet
namespace Kit
namespace Utf8

def charBytes (c : Char) : List UInt8 :=
  let n := c.toNat
  if n < 0x80 then [UInt8.ofNat n]
  else if n < 0x800 then [UInt8.ofNat (0xC0 + n / 64), UInt8.ofNat (0x80 + n % 64)]
  else if n < 0x10000 then
    [UInt8.ofNat (0xE0 + n / 4096), UInt8.ofNat (0x80 + n / 64 % 64),
      UInt8.ofNat (0x80 + n % 64)]
  else
    [UInt8.ofNat (0xF0 + n / 262144), UInt8.ofNat (0x80 + n / 4096 % 64),
      UInt8.ofNat (0x80 + n / 64 % 64), UInt8.ofNat (0x80 + n % 64)]

/-- The bytes of a text. -/
def encode (text : String) : List UInt8 := text.toList.flatMap charBytes

/-- What the reader expects: how many more bytes, what they are appended to, and the
bounds of the next one. -/
structure Expected where
  needed : Nat
  codepoint : Nat
  lower : Nat
  upper : Nat

/-- Nothing is expected: a character begins. -/
def idle : Expected := ⟨0, 0, 0x80, 0xBF⟩

def replacement : Char := Char.ofNat 0xFFFD

/-- The first byte of a character: what it already gives, and what it expects. -/
def leadByte (b : Nat) : List Char × Expected :=
  if b < 0x80 then ([Char.ofNat b], idle)
  else if 0xC2 ≤ b ∧ b ≤ 0xDF then ([], ⟨1, b - 0xC0, 0x80, 0xBF⟩)
  else if 0xE0 ≤ b ∧ b ≤ 0xEF then
    ([], ⟨2, b - 0xE0, if b = 0xE0 then 0xA0 else 0x80, if b = 0xED then 0x9F else 0xBF⟩)
  else if 0xF0 ≤ b ∧ b ≤ 0xF4 then
    ([], ⟨3, b - 0xF0, if b = 0xF0 then 0x90 else 0x80, if b = 0xF4 then 0x8F else 0xBF⟩)
  else ([replacement], idle)

/-- The text of bytes, going on from what is expected. -/
def decodeFrom (expected : Expected) : List UInt8 → List Char
  | [] => if expected.needed = 0 then [] else [replacement]
  | byte :: rest =>
    let b := byte.toNat
    if expected.needed = 0 then (leadByte b).1 ++ decodeFrom (leadByte b).2 rest
    else if expected.lower ≤ b ∧ b ≤ expected.upper then
      let codepoint := expected.codepoint * 64 + (b - 0x80)
      if expected.needed = 1 then Char.ofNat codepoint :: decodeFrom idle rest
      else decodeFrom ⟨expected.needed - 1, codepoint, 0x80, 0xBF⟩ rest
    else replacement :: ((leadByte b).1 ++ decodeFrom (leadByte b).2 rest)

/-- The text of bytes. -/
def decode (data : List UInt8) : String := String.ofList (decodeFrom idle data)

/-! ## Reading what was written -/

variable {n : Nat}

theorem toNat_ofNat (h : n < 256) : (UInt8.ofNat n).toNat = n := by
  simp [Nat.mod_eq_of_lt h]

/-- A first byte that expects more. -/
theorem decodeFrom_lead (hByte : n < 256) (rest : List UInt8) :
    decodeFrom idle (UInt8.ofNat n :: rest) =
      (leadByte n).1 ++ decodeFrom (leadByte n).2 rest := by
  simp only [decodeFrom, idle, toNat_ofNat hByte, if_pos]

/-- A byte that completes a character. -/
theorem decodeFrom_last {codepoint lower upper m : Nat} (hLower : lower ≤ 0x80 + m)
    (hUpper : 0x80 + m ≤ upper) (hBits : m < 64) (rest : List UInt8) :
    decodeFrom ⟨1, codepoint, lower, upper⟩ (UInt8.ofNat (0x80 + m) :: rest) =
      Char.ofNat (codepoint * 64 + m) :: decodeFrom idle rest := by
  have hByte : (0x80 + m) % 256 = 0x80 + m := Nat.mod_eq_of_lt (by omega)
  simp [decodeFrom, hByte, hLower, hUpper]

/-- A byte after which a character expects more. -/
theorem decodeFrom_more {needed codepoint lower upper m : Nat} (hLower : lower ≤ 0x80 + m)
    (hUpper : 0x80 + m ≤ upper) (hBits : m < 64) (rest : List UInt8) :
    decodeFrom ⟨needed + 2, codepoint, lower, upper⟩ (UInt8.ofNat (0x80 + m) :: rest) =
      decodeFrom ⟨needed + 1, codepoint * 64 + m, 0x80, 0xBF⟩ rest := by
  have hByte : (0x80 + m) % 256 = 0x80 + m := Nat.mod_eq_of_lt (by omega)
  simp [decodeFrom, hByte, hLower, hUpper]

/-- A character is no surrogate. -/
theorem toNat_valid (c : Char) : c.toNat < 0xD800 ∨ 0xDFFF < c.toNat ∧ c.toNat < 0x110000 :=
  c.valid

theorem leadByte_three (hTwo : ¬ n < 0x800) (hThree : n < 0x10000)
    (hValid : n < 0xD800 ∨ 0xDFFF < n) :
    ∃ lower upper, leadByte (0xE0 + n / 4096) = ([], ⟨2, n / 4096, lower, upper⟩) ∧
      lower ≤ 0x80 + n / 64 % 64 ∧ 0x80 + n / 64 % 64 ≤ upper := by
  rw [leadByte, if_neg (by omega), if_neg (by omega), if_pos (by omega), Nat.add_sub_cancel_left]
  refine ⟨_, _, rfl, ?_, ?_⟩
  · split <;> omega
  · split <;> omega

theorem leadByte_four (hThree : ¬ n < 0x10000) (hValid : n < 0x110000) :
    ∃ lower upper, leadByte (0xF0 + n / 262144) = ([], ⟨3, n / 262144, lower, upper⟩) ∧
      lower ≤ 0x80 + n / 4096 % 64 ∧ 0x80 + n / 4096 % 64 ≤ upper := by
  rw [leadByte, if_neg (by omega), if_neg (by omega), if_neg (by omega), if_pos (by omega),
    Nat.add_sub_cancel_left]
  refine ⟨_, _, rfl, ?_, ?_⟩
  · split <;> omega
  · split <;> omega

theorem decodeFrom_charBytes (c : Char) (rest : List UInt8) :
    decodeFrom idle (charBytes c ++ rest) = c :: decodeFrom idle rest := by
  have hValid := toNat_valid c
  have hChar : Char.ofNat c.toNat = c := Char.ofNat_toNat c
  generalize hn : c.toNat = n at hValid hChar
  unfold charBytes
  rw [hn]
  dsimp only
  split
  · next hOne =>
    rw [List.cons_append, decodeFrom_lead (by omega), leadByte, if_pos hOne, hChar]
    rfl
  · next hOne =>
    split
    · next hTwo =>
      have hLead : leadByte (0xC0 + n / 64) = ([], ⟨1, n / 64, 0x80, 0xBF⟩) := by
        rw [leadByte, if_neg (by omega), if_pos (by omega), Nat.add_sub_cancel_left]
      have hSum : n / 64 * 64 + n % 64 = n := by omega
      rw [List.cons_append, List.cons_append, decodeFrom_lead (by omega), hLead]
      simp only [List.nil_append]
      rw [decodeFrom_last (by omega) (by omega) (by omega), hSum, hChar]
    · next hTwo =>
      split
      · next hThree =>
        obtain ⟨lower, upper, hLead, hLower, hUpper⟩ :=
          leadByte_three hTwo hThree (hValid.imp_right And.left)
        have hSum : (n / 4096 * 64 + n / 64 % 64) * 64 + n % 64 = n := by omega
        simp only [List.cons_append, List.nil_append]
        rw [decodeFrom_lead (by omega), hLead]
        simp only [List.nil_append]
        rw [decodeFrom_more hLower hUpper (by omega),
          decodeFrom_last (by omega) (by omega) (by omega), hSum, hChar]
      · next hThree =>
        obtain ⟨lower, upper, hLead, hLower, hUpper⟩ := leadByte_four hThree (by omega)
        have hSum : ((n / 262144 * 64 + n / 4096 % 64) * 64 + n / 64 % 64) * 64 + n % 64 = n := by
          omega
        simp only [List.cons_append, List.nil_append]
        rw [decodeFrom_lead (by omega), hLead]
        simp only [List.nil_append]
        rw [decodeFrom_more hLower hUpper (by omega),
          decodeFrom_more (by omega) (by omega) (by omega),
          decodeFrom_last (by omega) (by omega) (by omega), hSum, hChar]

theorem decodeFrom_flatMap (chars : List Char) :
    decodeFrom idle (chars.flatMap charBytes) = chars := by
  induction chars with
  | nil => rfl
  | cons c rest ih => rw [List.flatMap_cons, decodeFrom_charBytes, ih]

/-- Reading what was written gives the text back. -/
theorem decode_encode (text : String) : decode (encode text) = text := by
  rw [decode, encode, decodeFrom_flatMap, String.ofList_toList]

/-! ## Reading a part of what was written -/

theorem leadByte_length (b : Nat) :
    (leadByte b).1.length + (if (leadByte b).2.needed = 0 then 0 else 1) = 1 := by
  unfold leadByte
  repeat' split
  all_goals first | rfl | simp_all [idle]

/-- A text has at most as many characters as bytes, and one more for a character that
was begun. -/
theorem length_decodeFrom_le (expected : Expected) (data : List UInt8) :
    (decodeFrom expected data).length ≤
      data.length + if expected.needed = 0 then 0 else 1 := by
  induction data generalizing expected with
  | nil =>
    unfold decodeFrom
    split <;> simp
  | cons byte rest ih =>
    have hLead := leadByte_length byte.toNat
    have hRest := ih (leadByte byte.toNat).2
    unfold decodeFrom
    dsimp only
    split
    · rw [List.length_append, List.length_cons]
      omega
    · next hNeeded =>
      split
      · split
        · have hIdle := ih idle
          rw [List.length_cons, List.length_cons]
          simp only [idle, if_pos] at hIdle ⊢
          omega
        · have hMore := ih ⟨expected.needed - 1,
            expected.codepoint * 64 + (byte.toNat - 0x80), 0x80, 0xBF⟩
          rw [List.length_cons]
          split at hMore <;> omega
      · rw [List.length_cons, List.length_append, List.length_cons]
        omega

theorem charBytes_length (c : Char) : 1 ≤ (charBytes c).length ∧ (charBytes c).length ≤ 4 := by
  unfold charBytes
  dsimp only
  repeat' split
  all_goals simp

theorem flatMap_charBytes_length (chars : List Char) :
    (chars.flatMap charBytes).length ≤ 4 * chars.length := by
  induction chars with
  | nil => simp
  | cons c rest ih =>
    have hChar := charBytes_length c
    rw [List.flatMap_cons, List.length_append, List.length_cons]
    omega

/-- When more than a few bytes of a text are missing, characters are missing. -/
theorem length_decodeFrom_take (chars : List Char) (n : Nat)
    (hMissing : n + 16 < (chars.flatMap charBytes).length) :
    (decodeFrom idle ((chars.flatMap charBytes).take n)).length < chars.length := by
  induction chars generalizing n with
  | nil => simp at hMissing
  | cons c rest ih =>
    have hChar := charBytes_length c
    have hBytes := flatMap_charBytes_length (c :: rest)
    rw [List.flatMap_cons, List.length_append] at hMissing
    by_cases hWhole : (charBytes c).length ≤ n
    · rw [List.flatMap_cons, List.take_append, List.take_of_length_le hWhole,
        decodeFrom_charBytes, List.length_cons, List.length_cons]
      have hRest := ih (n - (charBytes c).length) (by omega)
      omega
    · -- fewer than four bytes are left, and more than four characters
      have hFew := length_decodeFrom_le idle (((c :: rest).flatMap charBytes).take n)
      have hLength := List.length_take_le n ((c :: rest).flatMap charBytes)
      rw [List.flatMap_cons, List.length_append] at hBytes
      simp only [idle, if_pos] at hFew
      rw [List.length_cons] at hBytes ⊢
      simp only [idle] at *
      omega

end Utf8
end Kit
end Signet
