import Mathlib.Data.List.Nodup
import Signet.Kit.Bits
import Signet.Kit.JsonText
import Signet.Kit.Separated

/-!
# Mnemonics

A mnemonic spells 32 bytes of entropy and a byte of their checksum in 24 words.  The 264 bits are
taken in groups of eleven, bit by bit, and each group is the index of a word.

* `extractBits`, `generateMnemonic`
* `extractBits_eq` — the bits that are read, as a number.
* `mnemonic_lossless` — the words give the bytes back.
-/

namespace Signet
namespace Keys

open Kit

/-- `extractBits`, for no more bits than a number can be shifted by. -/
def extractBits (data : List UInt8) (bitOffset numBits : Nat) : Except String Nat :=
  (List.range numBits).foldlM (fun value i =>
    let byteIndex := (bitOffset + i) / 8
    let bitIndex := 7 - (bitOffset + i) % 8
    match data[byteIndex]? with
    | none => .error ("Bit extraction out of bounds at byte " ++ toString byteIndex)
    | some byte =>
      .ok (if byte.toNat >>> bitIndex &&& 1 ≠ 0 then value ||| 1 <<< (numBits - 1 - i) else value))
    0

/-- The 33 bytes that are spelled. -/
def allBytes (entropy : Vector UInt8 32) (checksumByte : UInt8) : List UInt8 :=
  entropy.toList ++ [checksumByte]

def wordIndex (bytes : List UInt8) (i : Nat) : Except String Nat := extractBits bytes (i * 11) 11

def wordAt (wordlist : List String) (bytes : List UInt8) (i : Nat) : Except String String :=
  match wordIndex bytes i with
  | .error message => .error message
  | .ok index =>
    match wordlist[index]? with
    | none => .error ("Invalid wordlist index: " ++ toString index)
    | some word => .ok word

/-- The entropy, and the first byte of its hash. -/
def withChecksum (sha256 : List UInt8 → List UInt8) (entropy : Vector UInt8 32) : List UInt8 :=
  allBytes entropy ((sha256 entropy.toList)[0]?.getD 0)

/-- `generateMnemonic`, with the entropy that was drawn. -/
def generateMnemonic (sha256 : List UInt8 → List UInt8) (wordlist : List String)
    (entropy : Vector UInt8 32) : Except String String :=
  ((List.range 24).mapM (wordAt wordlist (withChecksum sha256 entropy))).map fun words =>
    " ".intercalate words

/-- A list of 2048 words. -/
structure Wordlist where
  words : List String
  length_words : words.length = 2048
  nodup : words.Nodup
  space_notMem : ∀ word ∈ words, ' ' ∉ word.toList

/-! ## Groups of bits -/

variable {data : List UInt8} {bitOffset numBits : Nat}

theorem shifted_ne_zero (n i : Nat) : n >>> i &&& 1 ≠ 0 ↔ n.testBit i = true := by
  rw [Nat.testBit, Nat.and_comm, bne_iff_ne]

/-- The bits of a part of the data are read as a number. -/
theorem extractBits_eq (h : bitOffset + numBits ≤ 8 * data.length) :
    extractBits data bitOffset numBits =
      .ok (ofBits (((byteBits data).drop bitOffset).take numBits)) := by
  let bits := (byteBits data).drop bitOffset
  -- after `m` bits the value holds them, with room for the others
  have hLoop : ∀ m ≤ numBits, (List.range m).foldlM (fun value i =>
      let byteIndex := (bitOffset + i) / 8
      let bitIndex := 7 - (bitOffset + i) % 8
      match data[byteIndex]? with
      | none => .error ("Bit extraction out of bounds at byte " ++ toString byteIndex)
      | some byte =>
        .ok (if byte.toNat >>> bitIndex &&& 1 ≠ 0 then value ||| 1 <<< (numBits - 1 - i)
          else value)) 0 =
      (.ok (2 ^ (numBits - m) * ofBits (bits.take m)) : Except String Nat) := by
    intro m hm
    induction m with
    | zero => simp [ofBits, pure, Except.pure]
    | succ m ih =>
      have hByte : (bitOffset + m) / 8 < data.length := by omega
      have hBit : bits[m]? =
          some ((data[(bitOffset + m) / 8]).toNat.testBit (7 - (bitOffset + m) % 8)) := by
        rw [List.getElem?_drop, getElem?_byteBits, List.getElem?_eq_getElem hByte]
        rfl
      have hRoom : numBits - m = (numBits - 1 - m) + 1 := by omega
      rw [List.range_succ, List.foldlM_append, ih (by omega), List.take_add_one, hBit,
        Option.toList_some, ofBits_snoc, show numBits - (m + 1) = numBits - 1 - m by omega]
      simp only [List.foldlM_cons, List.foldlM_nil, List.getElem?_eq_getElem hByte, bind,
        Except.bind, pure, Except.pure, shifted_ne_zero]
      cases hTest : (data[(bitOffset + m) / 8]).toNat.testBit (7 - (bitOffset + m) % 8) with
      | false =>
        rw [if_neg Bool.false_ne_true, hRoom, Nat.pow_succ, Nat.mul_assoc]
        rfl
      | true =>
        have hLt : 2 ^ (numBits - 1 - m) < 2 ^ (numBits - m) :=
          Nat.pow_lt_pow_right (by omega) (by omega)
        rw [if_pos rfl, Nat.one_shiftLeft, ← Nat.two_pow_add_eq_or_of_lt hLt, hRoom, Nat.pow_succ,
          Nat.mul_assoc, Nat.mul_add, Bool.toNat_true, Nat.mul_one]
  have hAll := hLoop numBits (Nat.le_refl _)
  rw [Nat.sub_self, Nat.pow_zero, Nat.one_mul] at hAll
  exact hAll

variable {bytes : List UInt8}

theorem length_allBytes (entropy : Vector UInt8 32) (checksumByte : UInt8) :
    (allBytes entropy checksumByte).length = 33 := by
  simp [allBytes]

/-- The bits of a word. -/
def group (bytes : List UInt8) (i : Nat) : List Bool := ((byteBits bytes).drop (11 * i)).take 11

/-- The indexes of the words. -/
def indexes (bytes : List UInt8) : List Nat := (List.range 24).map fun i => ofBits (group bytes i)

section

variable (hBytes : bytes.length = 33)

include hBytes

theorem wordIndex_eq : ∀ i ∈ List.range 24, wordIndex bytes i = .ok (ofBits (group bytes i)) := by
  intro i hi
  have hLt := List.mem_range.mp hi
  unfold wordIndex
  rw [Nat.mul_comm]
  exact extractBits_eq (by omega)

theorem length_group {i : Nat} (hi : i ∈ List.range 24) : (group bytes i).length = 11 := by
  have hLt := List.mem_range.mp hi
  rw [group, List.length_take, List.length_drop, length_byteBits]
  omega

theorem indexes_lt : ∀ index ∈ indexes bytes, index < 2048 := by
  intro index hMem
  obtain ⟨i, hi, rfl⟩ := List.mem_map.mp hMem
  have hLt := ofBits_lt (group bytes i)
  rwa [length_group hBytes hi] at hLt

theorem packBytes_indexes : packBytes ((indexes bytes).flatMap (bitsOf 11)) = bytes := by
  have hGroups : (indexes bytes).flatMap (bitsOf 11) = (List.range 24).flatMap (group bytes) := by
    unfold indexes
    rw [List.flatMap_map]
    refine List.flatMap_congr ?_
    intro i hi
    have hBits := bitsOf_ofBits (group bytes i)
    rwa [length_group hBytes hi] at hBits
  have hAll : (byteBits bytes).length ≤ 11 * 24 := by
    have hLength := length_byteBits bytes
    omega
  unfold group at hGroups
  rw [hGroups, flatMap_groups, List.take_of_length_le hAll, packBytes_byteBits]

end

/-! ## Words -/

theorem mapM_ok {α β : Type} {f : α → Except String β} {g : α → β} {l : List α}
    (h : ∀ a ∈ l, f a = .ok (g a)) : l.mapM f = .ok (l.map g) := by
  induction l with
  | nil => rfl
  | cons a l ih =>
    rw [List.mapM_cons, h a List.mem_cons_self, ih fun b hb => h b (List.mem_cons_of_mem a hb)]
    rfl

variable (wordlist : Wordlist)

/-- The word of an index. -/
def Wordlist.word (index : Nat) : String := wordlist.words[index]?.getD ""

theorem word_eq {index : Nat} (h : index < 2048) :
    ∃ hLt : index < wordlist.words.length, wordlist.word index = wordlist.words[index] := by
  have hLt : index < wordlist.words.length := by rw [wordlist.length_words]; exact h
  exact ⟨hLt, by rw [Wordlist.word, List.getElem?_eq_getElem hLt, Option.getD_some]⟩

theorem generateMnemonic_eq (sha256 : List UInt8 → List UInt8) (entropy : Vector UInt8 32) :
    generateMnemonic sha256 wordlist.words entropy =
      .ok (" ".intercalate ((indexes (withChecksum sha256 entropy)).map wordlist.word)) := by
  have hBytes : (withChecksum sha256 entropy).length = 33 := length_allBytes _ _
  have hWords : ∀ i ∈ List.range 24, wordAt wordlist.words (withChecksum sha256 entropy) i =
      .ok (wordlist.word (ofBits (group (withChecksum sha256 entropy) i))) := by
    intro i hi
    obtain ⟨hLt, hWord⟩ := word_eq wordlist (indexes_lt hBytes _ (List.mem_map_of_mem hi))
    unfold wordAt
    rw [wordIndex_eq hBytes i hi, hWord]
    simp only [List.getElem?_eq_getElem hLt]
  unfold generateMnemonic
  rw [mapM_ok hWords, indexes, List.map_map]
  rfl

/-- The words of indexes determine them, joined to one text. -/
theorem indexes_of_words {l l' : List Nat} (h : ∀ index ∈ l, index < 2048)
    (h' : ∀ index ∈ l', index < 2048) (hl : l ≠ []) (hl' : l' ≠ [])
    (hEq : " ".intercalate (l.map wordlist.word) = " ".intercalate (l'.map wordlist.word)) :
    l = l' := by
  have hSpace : ∀ {l : List Nat}, (∀ index ∈ l, index < 2048) →
      ∀ part ∈ (l.map wordlist.word).map String.toList, ' ' ∉ part := by
    intro l h part hPart
    obtain ⟨word, hWord, rfl⟩ := List.mem_map.mp hPart
    obtain ⟨index, hIndex, rfl⟩ := List.mem_map.mp hWord
    obtain ⟨hLt, hEq⟩ := word_eq wordlist (h index hIndex)
    rw [hEq]
    exact wordlist.space_notMem _ (List.getElem_mem hLt)
  have hRead : ∀ {l : List Nat}, (∀ index ∈ l, index < 2048) →
      (l.map wordlist.word).map wordlist.words.idxOf = l := by
    intro l h
    rw [List.map_map]
    refine (List.map_congr_left ?_).trans (List.map_id' l)
    intro index hIndex
    obtain ⟨hLt, hEq⟩ := word_eq wordlist (h index hIndex)
    rw [Function.comp_apply, hEq]
    exact wordlist.nodup.idxOf_getElem index hLt
  have hText := congrArg String.toList hEq
  rw [String.toList_intercalate, String.toList_intercalate] at hText
  have hParts := intercalate_injective (hSpace h) (hSpace h') (by simpa using hl)
    (by simpa using hl') hText
  have hWords := List.map_injective_iff.mpr (fun _ _ => String.toList_inj.mp) hParts
  rw [← hRead h, hWords, hRead h']

/-- **Mnemonics lose nothing.**  All reads are in bounds, all indexes are those of words, written
out in eleven bits each they are the entropy and its checksum, and two entropies never have one
mnemonic. -/
theorem mnemonic_lossless (sha256 : List UInt8 → List UInt8) :
    (∀ entropy checksumByte, ∃ indexes,
      (List.range 24).mapM (wordIndex (allBytes entropy checksumByte)) = .ok indexes ∧
        indexes.length = 24 ∧ (∀ index ∈ indexes, index < 2048) ∧
        packBytes (indexes.flatMap (bitsOf 11)) = allBytes entropy checksumByte) ∧
      (∀ entropy, ∃ mnemonic, generateMnemonic sha256 wordlist.words entropy = .ok mnemonic) ∧
      ∀ entropy entropy', generateMnemonic sha256 wordlist.words entropy =
        generateMnemonic sha256 wordlist.words entropy' → entropy = entropy' := by
  refine ⟨?_, ?_, ?_⟩
  · intro entropy checksumByte
    have hBytes := length_allBytes entropy checksumByte
    exact ⟨_, mapM_ok (wordIndex_eq hBytes), by simp, indexes_lt hBytes, packBytes_indexes hBytes⟩
  · exact fun entropy => ⟨_, generateMnemonic_eq wordlist sha256 entropy⟩
  · intro entropy entropy' hEq
    have hBytes := length_allBytes entropy ((sha256 entropy.toList)[0]?.getD 0)
    have hBytes' := length_allBytes entropy' ((sha256 entropy'.toList)[0]?.getD 0)
    rw [generateMnemonic_eq, generateMnemonic_eq] at hEq
    have hIndexes := indexes_of_words wordlist (indexes_lt hBytes) (indexes_lt hBytes')
      (by simp [indexes]) (by simp [indexes]) (Except.ok.inj hEq)
    have hAll := packBytes_indexes hBytes
    rw [hIndexes, packBytes_indexes hBytes'] at hAll
    exact Vector.toList_inj.mp (List.append_inj hAll (by simp)).1.symm

/-- The numerals make a list of words. -/
def numerals : Wordlist where
  words := (List.range 2048).map Nat.repr
  length_words := by simp
  nodup := by
    refine List.Nodup.map ?_ List.nodup_range
    intro n m hEq
    exact Json.repr_nat_injective (congrArg String.toList hEq)
  space_notMem := by
    intro word hWord hSpace
    obtain ⟨n, -, rfl⟩ := List.mem_map.mp hWord
    exact absurd (Json.isDigit_repr n ' ' hSpace) (by decide)

end Keys
end Signet
