import Signet.Core.Invite

/-!
# Packed conversation ids

A conversation id travels inside an invite in a packed form: a UUID by its sixteen
bytes, any other id by its text and a length of one byte or of two.  Unpacking gives
the id back where the packing loses nothing.

* `CanonicalHex` — a text that its bytes determine.
* `PacksFaithfully` — an id that its packed form determines.
* `unpack_pack_iff` — exactly these ids are unpacked again.
* `packed_id_iff` — and exactly these parts of a packed id are refused.
-/

namespace Signet
namespace Core

open Kit Schemas

/-! ## Hexadecimal digits -/

/-- The characters that `hexValue` reads. -/
def hexDigits : List Char := "0123456789abcdefABCDEF".toList

theorem mem_hexDigits {c : Char} (h : (hexValue c).isSome = true) : c ∈ hexDigits := by
  have hAll : ∀ n < 128, (hexValue (Char.ofNat n)).isSome = true →
      Char.ofNat n ∈ hexDigits := by
    decide
  have hAscii : c.toNat < 128 := by
    unfold hexValue at h
    split at h
    · next hDigit => exact Nat.lt_of_le_of_lt hDigit.2 (by decide)
    · split at h
      · next hLower => exact Nat.lt_of_le_of_lt hLower.2 (by decide)
      · split at h
        · next hUpper => exact Nat.lt_of_le_of_lt hUpper.2 (by decide)
        · cases h
  have hChar := hAll c.toNat hAscii
  rw [Char.ofNat_toNat] at hChar
  exact hChar h

theorem hexValue_digit {c : Char} (h : c ∈ hexDigits) :
    ∃ v, hexValue c = some v ∧ v < 16 ∧ Json.hexDigit v = c.toLower := by
  have hAll : hexDigits.all (fun c => (hexValue c).isSome &&
      (hexValue c).all fun v => v < 16 && Json.hexDigit v == c.toLower) = true := by
    decide
  have hDigit := List.all_eq_true.mp hAll c h
  rw [Bool.and_eq_true] at hDigit
  obtain ⟨hSome, hSpec⟩ := hDigit
  obtain ⟨v, hValue⟩ := Option.isSome_iff_exists.mp hSome
  rw [hValue, Option.all_some, Bool.and_eq_true, decide_eq_true_iff, beq_iff_eq] at hSpec
  exact ⟨v, hValue, hSpec.1, hSpec.2⟩

theorem hexDigit_lower {v : Nat} (h : v < 16) :
    Json.hexDigit v ∈ hexDigits ∧ (Json.hexDigit v).toLower = Json.hexDigit v := by
  have hAll : ∀ v < 16, Json.hexDigit v ∈ hexDigits ∧
      (Json.hexDigit v).toLower = Json.hexDigit v := by
    decide
  exact hAll v h

def byteDigits (byte : UInt8) : List Char :=
  [Json.hexDigit (byte.toNat / 16), Json.hexDigit (byte.toNat % 16)]

theorem bytesToHex_eq (data : Bytes) :
    bytesToHex data = String.ofList (data.flatMap byteDigits) := rfl

theorem byteDigits_pair {a b : Char} (ha : a ∈ hexDigits) (hb : b ∈ hexDigits) :
    byteDigits (parseHexPair [a, b]) = [a.toLower, b.toLower] := by
  obtain ⟨v, hValue, hLt, hDigit⟩ := hexValue_digit ha
  obtain ⟨w, hValue', hLt', hDigit'⟩ := hexValue_digit hb
  have hByte : (UInt8.ofNat (16 * v + w)).toNat = 16 * v + w :=
    Utf8.toNat_ofNat (by omega)
  have hHigh : (16 * v + w) / 16 = v := by omega
  have hLow : (16 * v + w) % 16 = w := by omega
  simp only [parseHexPair, hValue, hValue', byteDigits, hByte, hHigh, hLow, hDigit, hDigit']

theorem digits_pairBytes (chars : List Char) (hDigits : ∀ c ∈ chars, c ∈ hexDigits)
    (hEven : chars.length % 2 = 0) :
    (pairBytes chars).flatMap byteDigits = chars.map Char.toLower := by
  fun_induction pairBytes chars with
  | case1 a b rest ih =>
    have hRest := ih (fun c hc => hDigits c (by simp [hc]))
      (by simp only [List.length_cons] at hEven; omega)
    have hPair := byteDigits_pair (hDigits a (by simp)) (hDigits b (by simp))
    rw [List.flatMap_cons, hPair, hRest]
    rfl
  | case2 chars hShort =>
    cases chars with
    | nil => rfl
    | cons a rest =>
      cases rest with
      | nil => simp at hEven
      | cons b rest => exact absurd rfl (hShort a b rest)

/-- A text of hexadecimal digits in lower case, two for each byte. -/
structure CanonicalHex (text : String) : Prop where
  even : text.toList.length % 2 = 0
  digits : ∀ c ∈ text.toList, c ∈ hexDigits ∧ c.toLower = c

theorem hexToBytes_of_digits {text : String} (hDigits : ∀ c ∈ text.toList, c ∈ hexDigits) :
    hexToBytes text = pairBytes text.toList := by
  unfold hexToBytes
  split
  · next rest hText =>
    have hPrefix := hDigits 'x' (by simp [hText])
    exact absurd hPrefix (by decide)
  · rfl

theorem canonical_bytesToHex (data : Bytes) : CanonicalHex (bytesToHex data) := by
  rw [bytesToHex_eq]
  constructor
  · rw [String.toList_ofList]
    induction data with
    | nil => rfl
    | cons byte rest ih =>
      rw [List.flatMap_cons, List.length_append]
      simp only [byteDigits, List.length_cons, List.length_nil]
      omega
  · intro c hc
    rw [String.toList_ofList] at hc
    obtain ⟨byte, -, hDigit⟩ := List.mem_flatMap.mp hc
    have hByte := byte.toNat_lt
    simp only [byteDigits, List.mem_cons, List.not_mem_nil, or_false] at hDigit
    rcases hDigit with rfl | rfl
    · exact hexDigit_lower (by omega)
    · exact hexDigit_lower (by omega)

/-- Exactly the canonical texts are written back. -/
theorem bytesToHex_hexToBytes_iff (text : String) :
    bytesToHex (hexToBytes text) = text ↔ CanonicalHex text := by
  constructor
  · intro hBack
    rw [← hBack]
    exact canonical_bytesToHex _
  · intro hCanonical
    have hDigits : ∀ c ∈ text.toList, c ∈ hexDigits := fun c hc => (hCanonical.digits c hc).1
    have hLower : text.toList.map Char.toLower = text.toList := by
      have hSame : ∀ c ∈ text.toList, c.toLower = id c := fun c hc =>
        (hCanonical.digits c hc).2
      rw [List.map_congr_left hSame, List.map_id]
    rw [hexToBytes_of_digits hDigits, bytesToHex_eq,
      digits_pairBytes text.toList hDigits hCanonical.even, hLower, String.ofList_toList]

theorem length_bytesToHex (data : Bytes) : (bytesToHex data).toList.length = 2 * data.length := by
  rw [bytesToHex_eq, String.toList_ofList]
  induction data with
  | nil => rfl
  | cons byte rest ih =>
    rw [List.flatMap_cons, List.length_append, ih]
    simp [byteDigits]
    omega

theorem hexValue_hexDigit {v : Nat} (h : v < 16) : hexValue (Json.hexDigit v) = some v := by
  have hAll : ∀ v < 16, hexValue (Json.hexDigit v) = some v := by
    decide
  exact hAll v h

theorem pairBytes_byteDigits (data : Bytes) : pairBytes (data.flatMap byteDigits) = data := by
  induction data with
  | nil => rfl
  | cons byte rest ih =>
    have hByte := byte.toNat_lt
    have hHigh := hexValue_hexDigit (show byte.toNat / 16 < 16 by omega)
    have hLow := hexValue_hexDigit (Nat.mod_lt byte.toNat (show 0 < 16 by omega))
    have hValue : 16 * (byte.toNat / 16) + byte.toNat % 16 = byte.toNat := by omega
    simp only [List.flatMap_cons, byteDigits, List.cons_append, List.nil_append, pairBytes,
      parseHexPair, hHigh, hLow, hValue, UInt8.ofNat_toNat]
    rw [ih]

theorem bytesToHex_injective : Function.Injective bytesToHex := by
  intro data data' hHex
  rw [bytesToHex_eq, bytesToHex_eq, String.ofList_inj] at hHex
  rw [← pairBytes_byteDigits data, hHex, pairBytes_byteDigits]

/-! ## UUIDs -/

/-- The five groups of a canonical UUID, with its dashes and without. -/
structure UuidGroups (text digits a b c d e : List Char) : Prop where
  text : text = a ++ '-' :: (b ++ '-' :: (c ++ '-' :: (d ++ '-' :: e)))
  digits : digits = a ++ (b ++ (c ++ (d ++ e)))
  lengths : a.length = 8 ∧ b.length = 4 ∧ c.length = 4 ∧ d.length = 4 ∧ e.length = 12

theorem split_at {α : Type*} {l : List α} {i : Nat} {x : α} (h : l[i]? = some x) :
    l = l.take i ++ x :: l.drop (i + 1) := by
  obtain ⟨hLt, hGet⟩ := List.getElem?_eq_some_iff.mp h
  rw [← hGet, List.getElem_cons_drop, List.take_append_drop]

variable {packed : Bytes} {a b c d digits e text : List Char} {conversationId : String}

theorem uuidGroups {hex : String} (h : uuidMatch conversationId = some hex) :
    (∃ a b c d e, UuidGroups conversationId.toList hex.toList a b c d e) ∧
      ∀ x ∈ hex.toList, x ∈ hexDigits := by
  unfold uuidMatch at h
  simp only at h
  split at h
  · next hForm =>
    obtain ⟨hLength, hDashes, hDigits⟩ := hForm
    rw [← Option.some.inj h, String.toList_ofList]
    refine ⟨?_, fun x hx => mem_hexDigits (List.all_eq_true.mp hDigits x hx)⟩
    generalize conversationId.toList = chars at hLength hDashes ⊢
    -- each dash splits off the group before it
    have hFirst := split_at (hDashes 8 (by simp))
    have hSecond := @split_at _ (chars.drop 9) 4 '-'
      (by rw [List.getElem?_drop]; exact hDashes 13 (by simp))
    have hThird := @split_at _ (chars.drop 14) 4 '-'
      (by rw [List.getElem?_drop]; exact hDashes 18 (by simp))
    have hFourth := @split_at _ (chars.drop 19) 4 '-'
      (by rw [List.getElem?_drop]; exact hDashes 23 (by simp))
    simp only [List.drop_drop, Nat.reduceAdd] at hFirst hSecond hThird hFourth
    refine ⟨chars.take 8, (chars.drop 9).take 4, (chars.drop 14).take 4, (chars.drop 19).take 4,
      chars.drop 24, ?_, ?_, ?_⟩
    · rw [← hFourth, ← hThird, ← hSecond]
      exact hFirst
    · simp
    · simp [hLength]
  · cases h

section

variable (h : UuidGroups text digits a b c d e)

include h

theorem UuidGroups.map :
    UuidGroups (text.map Char.toLower) (digits.map Char.toLower) (a.map Char.toLower)
      (b.map Char.toLower) (c.map Char.toLower) (d.map Char.toLower) (e.map Char.toLower) := by
  refine ⟨?_, ?_, ?_⟩
  · rw [h.text]
    simp only [List.map_append, List.map_cons]
    rfl
  · rw [h.digits]
    simp only [List.map_append]
  · simp only [List.length_map]
    exact h.lengths

theorem dashed_groups : dashed (String.ofList digits) = String.ofList text := by
  obtain ⟨ha, hb, hc, hd, -⟩ := h.lengths
  unfold dashed
  simp only [String.toList_ofList]
  rw [h.digits, h.text]
  congr 1
  have hPast : ∀ {l : List Char} {n m : Nat}, l.length = n → n ≤ m → l.drop m = [] := by
    intro l n m hLength hLe
    exact List.drop_eq_nil_of_le (by omega)
  simp [List.drop_append, ha, hb, hc, hd, hPast ha, hPast hb, hPast hc]

theorem UuidGroups.length : digits.length = 32 := by
  obtain ⟨ha, hb, hc, hd, he⟩ := h.lengths
  rw [h.digits]
  simp only [List.length_append, ha, hb, hc, hd, he]

end

theorem pairBytes_length (chars : List Char) : (pairBytes chars).length = chars.length / 2 := by
  fun_induction pairBytes chars with
  | case1 a b rest ih =>
    rw [List.length_cons, ih, List.length_cons, List.length_cons]
    omega
  | case2 chars hShort =>
    cases chars with
    | nil => rfl
    | cons a rest =>
      cases rest with
      | nil => simp
      | cons b rest => exact absurd rfl (hShort a b rest)

theorem unpack_uuid {hex : String} (h : uuidMatch conversationId = some hex) :
    unpackConversationId (0x01 :: hexToBytes hex) =
      .ok (String.ofList (conversationId.toList.map Char.toLower)) := by
  obtain ⟨⟨a, b, c, d, e, hGroups⟩, hDigits⟩ := uuidGroups h
  have hLength : (pairBytes hex.toList).length = 16 := by
    rw [pairBytes_length, hGroups.length]
  have hEven : hex.toList.length % 2 = 0 := by rw [hGroups.length]
  rw [unpackConversationId, hexToBytes_of_digits hDigits,
    List.take_of_length_le (Nat.le_of_eq hLength), bytesToHex_eq,
    digits_pairBytes hex.toList hDigits hEven, dashed_groups hGroups.map]

theorem map_toLower_eq_iff (text : String) :
    String.ofList (text.toList.map Char.toLower) = text ↔
      ∀ c ∈ text.toList, c.toLower = c := by
  rw [← String.toList_inj, String.toList_ofList]
  constructor
  · intro hSame c hc
    obtain ⟨i, hi, rfl⟩ := List.getElem_of_mem hc
    have hAt : (text.toList.map Char.toLower)[i]? = text.toList[i]? := by rw [hSame]
    rw [List.getElem?_map, List.getElem?_eq_getElem hi] at hAt
    exact Option.some.inj hAt
  · intro hLower
    have hSame : ∀ c ∈ text.toList, c.toLower = id c := hLower
    rw [List.map_congr_left hSame, List.map_id]

/-! ## Texts -/

def byteOrderMark : Char := Char.ofNat 0xFEFF

theorem charBytes_byteOrderMark : Utf8.charBytes byteOrderMark = [0xEF, 0xBB, 0xBF] := by
  decide

/-- A text is read back unless it begins with a byte order mark. -/
theorem textDecode_textEncode_iff (text : String) :
    textDecode (textEncode text) = text ↔ text.toList.head? ≠ some byteOrderMark := by
  constructor
  · intro hBack hMark
    cases hText : text.toList with
    | nil => rw [hText] at hMark; cases hMark
    | cons c rest =>
      rw [hText] at hMark
      cases hMark
      have hBytes : textEncode text = 0xEF :: 0xBB :: 0xBF :: rest.flatMap Utf8.charBytes := by
        rw [textEncode, Utf8.encode, hText, List.flatMap_cons, charBytes_byteOrderMark]
        rfl
      rw [hBytes] at hBack
      have hRest : String.ofList rest = text := by
        rw [← hBack]
        simp only [textDecode, Utf8.decode, Utf8.decodeFrom_flatMap]
      have hLength := congrArg String.toList hRest
      rw [hText, String.toList_ofList] at hLength
      exact absurd hLength (by simp)
  · intro hNoMark
    unfold textDecode
    split
    · next rest hBytes =>
      have hRead : Utf8.decodeFrom Utf8.idle (textEncode text) = text.toList :=
        Utf8.decodeFrom_flatMap text.toList
      have hMark : textEncode text = Utf8.charBytes byteOrderMark ++ rest := by
        rw [hBytes, charBytes_byteOrderMark]
        rfl
      rw [hMark, Utf8.decodeFrom_charBytes] at hRead
      rw [← hRead] at hNoMark
      exact absurd rfl hNoMark
    · exact Utf8.decode_encode text

theorem textDecode_length_le (data : Bytes) :
    (textDecode data).toList.length ≤ (Utf8.decodeFrom Utf8.idle data).length := by
  unfold textDecode
  split
  · next rest =>
    have hMark : (0xEF :: 0xBB :: 0xBF :: rest : Bytes) = Utf8.charBytes byteOrderMark ++ rest := by
      rw [charBytes_byteOrderMark]
      rfl
    have hRead : Utf8.decodeFrom Utf8.idle (0xEF :: 0xBB :: 0xBF :: rest) =
        byteOrderMark :: Utf8.decodeFrom Utf8.idle rest := by
      rw [hMark, Utf8.decodeFrom_charBytes]
    calc (Utf8.decode rest).toList.length
        = (Utf8.decodeFrom Utf8.idle rest).length := by rw [Utf8.decode, String.toList_ofList]
      _ ≤ (byteOrderMark :: Utf8.decodeFrom Utf8.idle rest).length := Nat.le_succ _
      _ = _ := by rw [hRead]
  · exact Nat.le_of_eq (by rw [Utf8.decode, String.toList_ofList])

/-- A part of a text that misses more than a few bytes is read as another text. -/
theorem textDecode_take_ne {text : String} {n : Nat} (h : n + 16 < (textEncode text).length) :
    textDecode ((textEncode text).take n) ≠ text := by
  intro hBack
  have hLength := textDecode_length_le ((textEncode text).take n)
  have hMissing := Utf8.length_decodeFrom_take text.toList n h
  rw [hBack] at hLength
  exact absurd hMissing (Nat.not_lt.mpr hLength)

structure TextPacks (conversationId : String) : Prop where
  nonempty : 1 ≤ (textEncode conversationId).length
  short : (textEncode conversationId).length < 65536
  noMark : conversationId.toList.head? ≠ some byteOrderMark

/-! ## Every id -/

def packsAsUuid (conversationId : String) (format : Option ConversationIdFormat) : Bool :=
  match format with
  | some .uuid => true
  | some .string => false
  | none => (uuidMatch conversationId).isSome

/-- The packed form determines the id: a UUID in lower case, or a text that is not empty,
has a length of two bytes and no byte order mark. -/
def PacksFaithfully (conversationId : String) (format : Option ConversationIdFormat) : Prop :=
  if packsAsUuid conversationId format then ∀ c ∈ conversationId.toList, c.toLower = c
  else TextPacks conversationId

theorem unpack_short {length : UInt8} (hNonzero : length ≠ 0) (text : Bytes) :
    unpackConversationId (0x02 :: length :: text) =
      .ok (textDecode (text.take length.toNat)) := by
  cases text with
  | nil => simp [unpackConversationId]
  | cons high rest =>
    cases rest with
    | nil => simp [unpackConversationId]
    | cons low text => simp [unpackConversationId, hNonzero]

theorem unpack_long (high low : UInt8) (text : Bytes) :
    unpackConversationId (0x02 :: 0x00 :: high :: low :: text) =
      .ok (textDecode (text.take (high.toNat * 256 + low.toNat))) := rfl

theorem ok_inj_iff {ε α : Type*} {x y : α} : (Except.ok x : Except ε α) = .ok y ↔ x = y :=
  ⟨Except.ok.inj, congrArg Except.ok⟩

theorem unpack_text_iff (h : packConversationId conversationId (some .string) = .ok packed) :
    unpackConversationId packed = .ok conversationId ↔ TextPacks conversationId := by
  have hRead := textDecode_textEncode_iff conversationId
  simp only [packConversationId, Bool.false_eq_true, if_false] at h
  have hCut := @textDecode_take_ne conversationId
  generalize hBytes : textEncode conversationId = bytes at h hRead hCut
  split at h
  · next hShort =>
    cases h
    by_cases hEmpty : bytes.length = 0
    · have hNil : bytes = [] := List.eq_nil_of_length_eq_zero hEmpty
      subst hNil
      constructor
      · intro hUnpacked
        cases hUnpacked
      · intro hPacks
        have hNonempty := hPacks.nonempty
        rw [hBytes] at hNonempty
        exact absurd hNonempty (by decide)
    · have hLength : (UInt8.ofNat bytes.length).toNat = bytes.length :=
        Utf8.toNat_ofNat (by omega)
      have hNonzero : UInt8.ofNat bytes.length ≠ 0 := by
        intro hZero
        rw [hZero] at hLength
        exact hEmpty hLength.symm
      rw [unpack_short hNonzero, hLength, List.take_length, ok_inj_iff, hRead]
      constructor
      · intro hMark
        exact ⟨by rw [hBytes]; omega, by rw [hBytes]; omega, hMark⟩
      · exact TextPacks.noMark
  · next hLong =>
    cases h
    rw [unpack_long, ok_inj_iff]
    have hHigh : (UInt8.ofNat (bytes.length / 256)).toNat = bytes.length / 256 % 256 := by simp
    have hLow : (UInt8.ofNat bytes.length).toNat = bytes.length % 256 := by simp
    rw [hHigh, hLow]
    by_cases hFits : bytes.length < 65536
    · have hWhole : bytes.length / 256 % 256 * 256 + bytes.length % 256 = bytes.length := by omega
      rw [hWhole, List.take_length, hRead]
      constructor
      · intro hMark
        exact ⟨by rw [hBytes]; omega, by rw [hBytes]; omega, hMark⟩
      · exact TextPacks.noMark
    · constructor
      · intro hBack
        exact absurd hBack (hCut (by omega))
      · intro hPacks
        have hShort := hPacks.short
        rw [hBytes] at hShort
        exact absurd hShort hFits

theorem pack_eq (conversationId : String) (format : Option ConversationIdFormat) :
    packConversationId conversationId format =
      if packsAsUuid conversationId format then
        match uuidMatch conversationId with
        | none => .error ("Conversation ID format \"uuid\" requires a canonical UUID: "
            ++ conversationId)
        | some hex => .ok (0x01 :: hexToBytes hex)
      else packConversationId conversationId (some .string) := rfl

/-- Unpacking gives an id back exactly where its packing is faithful. -/
theorem unpack_pack_iff {format : Option ConversationIdFormat}
    (h : packConversationId conversationId format = .ok packed) :
    unpackConversationId packed = .ok conversationId ↔
      PacksFaithfully conversationId format := by
  rw [pack_eq] at h
  unfold PacksFaithfully
  split at h
  · next hUuid =>
    rw [if_pos hUuid]
    split at h
    · cases h
    · next hex hMatch =>
      cases h
      rw [unpack_uuid hMatch, ok_inj_iff, map_toLower_eq_iff]
  · next hText =>
    rw [if_neg hText]
    exact unpack_text_iff h

/-! ## Parts of a packed id -/

def Throws (data : Bytes) : Prop := ∃ message, unpackConversationId data = .error message

theorem throws_nil : Throws [] := ⟨_, rfl⟩

/-- Whatever is there of a UUID is unpacked. -/
theorem not_throws_uuid (data : Bytes) : ¬ Throws (0x01 :: data) := by
  rintro ⟨message, hError⟩
  cases hError

/-- A part of a text is refused when its length is missing: the first byte of it, or the two bytes
behind a first byte of zero. -/
theorem throws_text_iff (data : Bytes) :
    Throws (0x02 :: data) ↔ data = [] ∨ data.head? = some 0x00 ∧ data.length ≤ 2 := by
  cases data with
  | nil => exact iff_of_true ⟨_, rfl⟩ (Or.inl rfl)
  | cons length data =>
    by_cases hZero : length = 0x00
    · subst hZero
      match data with
      | [] => exact iff_of_true ⟨_, rfl⟩ (Or.inr ⟨rfl, by simp⟩)
      | [_] => exact iff_of_true ⟨_, rfl⟩ (Or.inr ⟨rfl, by simp⟩)
      | high :: low :: text =>
        refine iff_of_false ?_ ?_
        · rintro ⟨message, hError⟩
          cases hError
        · rintro (hNil | ⟨_, hShort⟩)
          · cases hNil
          · simp only [List.length_cons] at hShort
            omega
    · refine iff_of_false ?_ ?_
      · rintro ⟨message, hError⟩
        rw [unpack_short hZero] at hError
        cases hError
      · rintro (hNil | ⟨hHead, _⟩)
        · cases hNil
        · exact hZero (Option.some.inj hHead)

theorem throws_part_of_text {n : Nat}
    (h : packConversationId conversationId (some .string) = .ok packed)
    (hPart : n < packed.length) :
    Throws (packed.take n) ↔
      n = 0 ∨ n = 1 ∨ 255 < (textEncode conversationId).length ∧ n ≤ 3 := by
  simp only [packConversationId, Bool.false_eq_true, if_false] at h
  generalize textEncode conversationId = bytes at h ⊢
  cases n with
  | zero => exact iff_of_true throws_nil (Or.inl rfl)
  | succ n =>
    split at h
    · next hShort =>
      cases h
      rw [List.take_succ_cons, throws_text_iff]
      cases n with
      | zero => exact iff_of_true (Or.inl rfl) (Or.inr (Or.inl rfl))
      | succ n =>
        -- a length of zero stands at the end of the packed id
        refine iff_of_false ?_ fun hFew => by omega
        rw [List.take_succ_cons]
        rintro (hNil | ⟨hZero, _⟩)
        · cases hNil
        · have hNumber := congrArg UInt8.toNat (Option.some.inj hZero)
          rw [Utf8.toNat_ofNat (by omega)] at hNumber
          have hEmpty : bytes.length = 0 := hNumber
          simp only [List.length_cons] at hPart
          omega
    · next hLong =>
      cases h
      rw [List.take_succ_cons, throws_text_iff]
      cases n with
      | zero => exact iff_of_true (Or.inl rfl) (Or.inr (Or.inl rfl))
      | succ n =>
        rw [List.take_succ_cons]
        simp only [List.length_cons] at hPart
        simp only [List.head?_cons, List.length_cons, List.length_take, true_and,
          reduceCtorEq, false_or]
        omega

/-- Unpacking gives a packed id back exactly where its packing is faithful, and throws on a proper
part of it exactly where nothing of it is there or, for a text, where its length is missing. -/
theorem packed_id_iff {conversationId : String} {format : Option ConversationIdFormat}
    {packed : Bytes} (h : packConversationId conversationId format = .ok packed) :
    (unpackConversationId packed = .ok conversationId ↔ PacksFaithfully conversationId format) ∧
      ∀ n < packed.length, (Throws (packed.take n) ↔
        n = 0 ∨ packsAsUuid conversationId format = false ∧
          (n = 1 ∨ 255 < (textEncode conversationId).length ∧ n ≤ 3)) := by
  refine ⟨unpack_pack_iff h, fun n hPart => ?_⟩
  rw [pack_eq] at h
  split at h
  · next hUuid =>
    split at h
    · cases h
    · cases h
      cases n with
      | zero => exact iff_of_true throws_nil (Or.inl rfl)
      | succ n =>
        refine iff_of_false ?_ ?_
        · rw [List.take_succ_cons]
          exact not_throws_uuid _
        · rintro (hZero | ⟨hText, _⟩)
          · omega
          · rw [hUuid] at hText
            cases hText
  · next hText =>
    rw [throws_part_of_text h hPart, Bool.eq_false_iff]
    exact or_congr_right (iff_and_self.mpr fun _ => hText)

/-- A text of two characters is packed faithfully, and its length is missed in one byte of it. -/
theorem packed_id_iff_text :
    unpackConversationId [0x02, 0x02, 0x61, 0x62] = .ok "ab" ∧ Throws [0x02] := by
  have hPacks : packConversationId "ab" none = .ok [0x02, 0x02, 0x61, 0x62] := by decide
  have hIff := packed_id_iff hPacks
  refine ⟨hIff.1.mpr ?_, (hIff.2 1 (by decide)).mpr (Or.inr ⟨by decide, Or.inl rfl⟩)⟩
  have hText : packsAsUuid "ab" none = false := by decide
  rw [PacksFaithfully, hText, if_neg (by decide)]
  exact ⟨by decide, by decide, by decide⟩

/-- The empty id is not unpacked, and of a text without its last byte another id is. -/
theorem packed_ids_lost :
    packConversationId "" none = .ok [0x02, 0x00] ∧
      unpackConversationId [0x02, 0x00] = .error "Invalid packed conversation ID length" ∧
      packConversationId "ab" none = .ok [0x02, 0x02, 0x61, 0x62] ∧
      unpackConversationId ([0x02, 0x02, 0x61, 0x62].take 3) = .ok "a" := by
  refine ⟨by decide, rfl, by decide, rfl⟩

end Core
end Signet
