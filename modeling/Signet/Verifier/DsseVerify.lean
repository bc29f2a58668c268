import Signet.Kit.Der
import Signet.Kit.JsonText
import Signet.Kit.Separated
import Signet.Kit.Utf8

/-!
# What a signature covers, and signatures in compact form

A signature covers the payload and its type, each behind its length.  It comes as a sequence of
two integers, the curve library wants 64 bytes.  The conversion reads the sequence by hand; 64
bytes are taken for the compact form, and what is missing at the end of the bytes is read as
nothing.

* `computePae` — the bytes that are signed.
* `derSigToCompact`, `copyIntegerToFixed`
* `encodeSignature` — the sequence of two integers.
* `copy_integer` — an integer that is there is copied, whatever its width.
* `compact_iff` — when a signature is converted, and when a part of it is refused.
-/

namespace Signet
namespace Verifier

open Kit
open Kit.Der

/-! ## Pre-authentication encoding -/

section Pae

variable {Text : Type*} (encode : Text → List UInt8)

/-- `computePae`.  How a payload type is encoded is left open: a text that is no sequence of
characters has its bytes, too. -/
def computePae (payloadType : Text) (payload : List UInt8) : List UInt8 :=
  let typeBytes := encode payloadType
  let typeLenStr := toString typeBytes.length
  let bodyLenStr := toString payload.length
  Utf8.encode ("DSSEv1 " ++ typeLenStr ++ " ") ++ typeBytes ++
    Utf8.encode (" " ++ bodyLenStr ++ " ") ++ payload

theorem encode_append (text rest : String) :
    Utf8.encode (text ++ rest) = Utf8.encode text ++ Utf8.encode rest := by
  simp [Utf8.encode]

theorem encode_space : Utf8.encode " " = [0x20] := by decide

theorem space_notMem_encode (n : Nat) : 0x20 ∉ Utf8.encode (toString n) := by
  intro hMem
  obtain ⟨digit, hDigit, hByte⟩ := List.mem_flatMap.mp hMem
  have hRange := Json.isDigit_repr n digit hDigit
  simp only [Char.isDigit, Bool.and_eq_true, decide_eq_true_eq] at hRange
  have hUpper : digit.toNat ≤ 57 := hRange.2
  have hLower : 48 ≤ digit.toNat := hRange.1
  rw [Utf8.charBytes, if_pos (by omega), List.mem_singleton] at hByte
  have hValue : 0x20 = (UInt8.ofNat digit.toNat).toNat := congrArg UInt8.toNat hByte
  rw [Utf8.toNat_ofNat (by omega)] at hValue
  omega

/-- A length can be read back from the numeral that stands for it. -/
theorem encode_length_injective {n m : Nat}
    (h : Utf8.encode (toString n) = Utf8.encode (toString m)) : n = m := by
  have hText := congrArg Utf8.decode h
  rw [Utf8.decode_encode, Utf8.decode_encode] at hText
  exact Json.repr_nat_injective (congrArg String.toList hText)

theorem computePae_eq (payloadType : Text) (payload : List UInt8) :
    computePae encode payloadType payload =
      Utf8.encode "DSSEv1 " ++ (Utf8.encode (toString (encode payloadType).length) ++
        0x20 :: (encode payloadType ++ 0x20 :: (Utf8.encode (toString payload.length) ++
          0x20 :: payload))) := by
  simp only [computePae, encode_append, encode_space, List.append_assoc, List.cons_append,
    List.nil_append]

/-- **The encoding is injective**: equal bytes are signed for equal types and payloads only. -/
theorem computePae_inj {payloadType payloadType' : Text} {payload payload' : List UInt8} :
    computePae encode payloadType payload = computePae encode payloadType' payload' ↔
      encode payloadType = encode payloadType' ∧ payload = payload' := by
  constructor
  · intro hEq
    rw [computePae_eq, computePae_eq] at hEq
    have hRest := List.append_cancel_left hEq
    obtain ⟨hTypeLen, hRest⟩ :=
      cancel_separator (space_notMem_encode _) (space_notMem_encode _) hRest
    -- the type has the length that stands in front of it, so it ends at the same place
    obtain ⟨hType, hRest⟩ := List.append_inj hRest (encode_length_injective hTypeLen)
    obtain ⟨-, hRest⟩ := cancel_separator (space_notMem_encode _) (space_notMem_encode _)
      (List.cons.inj hRest).2
    exact ⟨hType, hRest⟩
  · rintro ⟨hType, rfl⟩
    rw [computePae_eq, computePae_eq, hType]

end Pae

/-! ## Conversion -/

def compactSigLength : Nat := 64

/-- `dst.set(source, offset)` -/
def setBytes (dst source : List UInt8) (offset : Nat) : List UInt8 :=
  dst.take offset ++ (source ++ dst.drop (offset + source.length))

/-- `src.subarray(start, stop)`: less is returned where less is there. -/
def subarray (src : List UInt8) (start stop : Nat) : List UInt8 := (src.take stop).drop start

/-- `copyIntegerToFixed`.  Without a length every comparison fails and nothing is copied. -/
def copyIntegerToFixed (src : List UInt8) (srcOffset : Nat) (srcLen : Option Nat)
    (dst : List UInt8) (dstOffset fieldSize : Nat) : Except String (List UInt8) :=
  match srcLen with
  | none => .ok dst
  | some srcLen =>
    let signed := fieldSize < srcLen ∧ src[srcOffset]? = some 0x00
    let start := if signed then srcOffset + 1 else srcOffset
    let len := if signed then srcLen - 1 else srcLen
    if fieldSize < len then
      .error ("DER integer too large: " ++ toString len ++ " bytes for " ++ toString fieldSize ++
        "-byte field")
    else
      let padLen := fieldSize - len
      let padded := setBytes dst (List.replicate padLen 0) dstOffset
      .ok (setBytes padded (subarray src start (start + len)) (dstOffset + padLen))

/-- `derSigToCompact` -/
def derSigToCompact (der : List UInt8) : Except String (List UInt8) :=
  if der.length = compactSigLength then .ok der
  else if der.length < 8 ∨ der[0]? ≠ some 0x30 then .error "Not a DER-encoded signature"
  else
    let lengthByte := der[1]?.getD 0
    let pos := if 0x80 ≤ lengthByte then 2 + (lengthByte &&& 0x7f).toNat else 2
    let compact := List.replicate compactSigLength 0
    if der[pos]? ≠ some 0x02 then .error "Expected INTEGER tag for r"
    else
      let rLen := der[pos + 1]?.map UInt8.toNat
      match copyIntegerToFixed der (pos + 2) rLen compact 0 32 with
      | .error reason => .error reason
      | .ok compact =>
        match rLen with
        -- the position is no number any more
        | none => .error "Expected INTEGER tag for s"
        | some rLen =>
          let pos := pos + 2 + rLen
          if der[pos]? ≠ some 0x02 then .error "Expected INTEGER tag for s"
          else copyIntegerToFixed der (pos + 2) (der[pos + 1]?.map UInt8.toNat) compact 32 32

/-! ## Encoded signatures -/

/-- The sequence of two integers. -/
def encodeSignature (r s : Nat) : List UInt8 :=
  element 0x30 (element 0x02 (integerOctets r) ++ element 0x02 (integerOctets s))

section Encoded

variable {r s : Nat}

variable (hr : integerWidth r ≤ 33) (hs : integerWidth s ≤ 33)

include hr hs

theorem encodeSignature_eq :
    encodeSignature r s =
      0x30 :: UInt8.ofNat (4 + integerWidth r + integerWidth s) :: 0x02 ::
        UInt8.ofNat (integerWidth r) :: (integerOctets r ++
          0x02 :: UInt8.ofNat (integerWidth s) :: integerOctets s) := by
  have hInner : ∀ {n : Nat}, integerWidth n ≤ 33 → element 0x02 (integerOctets n) =
      0x02 :: UInt8.ofNat (integerWidth n) :: integerOctets n := by
    intro n hn
    rw [element, lengthOctets, length_integerOctets, if_pos (by omega)]
    rfl
  have hLength : (0x02 :: UInt8.ofNat (integerWidth r) :: integerOctets r ++
      0x02 :: UInt8.ofNat (integerWidth s) :: integerOctets s).length =
        4 + integerWidth r + integerWidth s := by
    simp only [List.length_append, List.length_cons, length_integerOctets]
    omega
  rw [encodeSignature, hInner hr, hInner hs, element, lengthOctets, hLength, if_pos (by omega)]
  rfl

theorem length_encodeSignature :
    (encodeSignature r s).length = 6 + integerWidth r + integerWidth s := by
  rw [encodeSignature_eq hr hs]
  simp only [List.length_append, List.length_cons, length_integerOctets]
  omega

/-- What stands behind the first integer. -/
theorem getElem?_encodeSignature (i : Nat) :
    (encodeSignature r s)[4 + integerWidth r + i]? =
      (0x02 :: UInt8.ofNat (integerWidth s) :: integerOctets s : List UInt8)[i]? := by
  have hIndex : 4 + integerWidth r + i = integerWidth r + i + 1 + 1 + 1 + 1 := by omega
  rw [encodeSignature_eq hr hs, hIndex]
  simp only [List.getElem?_cons_succ]
  rw [List.getElem?_append_right (by rw [length_integerOctets]; omega), length_integerOctets,
    Nat.add_sub_cancel_left]

end Encoded

/-! ## Copying -/

theorem setBytes_field {before old after new : List UInt8} (h : old.length = new.length) :
    setBytes (before ++ (old ++ after)) new before.length = before ++ (new ++ after) := by
  have hDrop : before.length + new.length = (before ++ old).length := by
    rw [List.length_append, h]
  rw [setBytes, List.take_left, hDrop, ← List.append_assoc before old, List.drop_left]

/-- The octets of an integer, with zeros in front or without its sign, fill the field. -/
theorem integerOctets_cases {n : Nat} (h : n < 256 ^ 32) :
    (integerWidth n ≤ 32 ∧
        fixedOctets 32 n = List.replicate (32 - integerWidth n) 0 ++ integerOctets n) ∨
      integerWidth n = 33 ∧ integerOctets n = 0x00 :: fixedOctets 32 n := by
  have hWidth := integerWidth_le h
  rcases Nat.lt_or_ge 32 (integerWidth n) with hWide | hFits
  · have hEq : integerWidth n = 1 + 32 := by omega
    refine Or.inr ⟨hEq, ?_⟩
    have hSplit := @fixedOctets_of_lt 1 32 n h
    rwa [← hEq, List.replicate_one, List.singleton_append] at hSplit
  · refine Or.inl ⟨hFits, ?_⟩
    have hSplit := @fixedOctets_of_lt (32 - integerWidth n) _ _ (lt_pow_integerWidth n)
    rwa [Nat.sub_add_cancel hFits] at hSplit

/-- An integer of full width begins with its sign. -/
theorem integerOctets_of_wide {n : Nat} (h : n < 256 ^ 32) (hWide : ¬ integerWidth n ≤ 32) :
    integerWidth n = 33 ∧ (integerOctets n)[0]? = some 0x00 := by
  rcases integerOctets_cases h with ⟨hFits, _⟩ | ⟨hWidth, hOctets⟩
  · exact absurd hFits hWide
  · rw [hOctets]
    exact ⟨hWidth, rfl⟩

/-- An integer that is there is copied into its field. -/
theorem copy_integer {src before field after dstBefore dstAfter : List UInt8}
    {n srcOffset dstOffset : Nat} (hn : n < 256 ^ 32)
    (hSrc : src = before ++ (integerOctets n ++ after)) (hBefore : before.length = srcOffset)
    (hField : field.length = 32) (hDst : dstBefore.length = dstOffset) :
    copyIntegerToFixed src srcOffset (some (integerWidth n))
        (dstBefore ++ (field ++ dstAfter)) dstOffset 32 =
      .ok (dstBefore ++ (fixedOctets 32 n ++ dstAfter)) := by
  subst hBefore hDst
  have hLength := length_integerOctets n
  rcases integerOctets_cases hn with ⟨hFits, hFixed⟩ | ⟨hWide, hOctets⟩
  · have hNot : ¬ (32 < integerWidth n ∧ src[before.length]? = some 0x00) := fun hBoth => by omega
    have hSub : subarray src before.length (before.length + integerWidth n) = integerOctets n := by
      rw [subarray, hSrc, ← List.append_assoc,
        List.take_left' (by rw [List.length_append, hLength]), List.drop_left]
    -- zeros fill the beginning of the field and the integer the rest
    have hSplit : field = field.take (32 - integerWidth n) ++ field.drop (32 - integerWidth n) :=
      (List.take_append_drop _ _).symm
    have hPadded : setBytes (dstBefore ++ (field ++ dstAfter))
        (List.replicate (32 - integerWidth n) 0) dstBefore.length =
          dstBefore ++ List.replicate (32 - integerWidth n) 0 ++
            (field.drop (32 - integerWidth n) ++ dstAfter) := by
      rw [hSplit, List.append_assoc (field.take _), setBytes_field (by simp; omega)]
      simp
    unfold copyIntegerToFixed
    dsimp only
    rw [if_neg hNot, if_neg hNot, if_neg (by omega), hSub, hPadded]
    have hEnd : dstBefore.length + (32 - integerWidth n) =
        (dstBefore ++ List.replicate (32 - integerWidth n) (0 : UInt8)).length := by simp
    rw [hEnd, setBytes_field (by rw [hLength, List.length_drop]; omega), hFixed,
      List.append_assoc, List.append_assoc]
  · have hFirst : src[before.length]? = some 0x00 := by
      rw [hSrc, List.getElem?_append_right le_rfl, Nat.sub_self, hOctets]
      rfl
    -- 33 octets: the first one is the sign and is left out
    have hSigned : 32 < integerWidth n ∧ src[before.length]? = some 0x00 := ⟨by omega, hFirst⟩
    have hSub : subarray src (before.length + 1) (before.length + 1 + 32) = fixedOctets 32 n := by
      have hParts : src = (before ++ [0x00]) ++ (fixedOctets 32 n ++ after) := by
        rw [hSrc, hOctets]
        simp
      have hStart : before.length + 1 = (before ++ [(0x00 : UInt8)]).length := by simp
      rw [subarray, hParts, hStart, ← List.append_assoc (before ++ [0x00]),
        List.take_left' (by rw [List.length_append, length_fixedOctets]), List.drop_left]
    have hPadded : setBytes (dstBefore ++ (field ++ dstAfter)) (List.replicate 0 0)
        dstBefore.length = dstBefore ++ (field ++ dstAfter) :=
      @setBytes_field dstBefore [] (field ++ dstAfter) [] rfl
    unfold copyIntegerToFixed
    dsimp only
    rw [if_pos hSigned, if_pos hSigned, hWide, if_neg (by omega), hSub, hPadded, Nat.add_zero,
      setBytes_field (by rw [hField, length_fixedOctets])]

/-- The copy fails when the integer does not fit; one octet more fits when it is zero. -/
theorem copy_cases (src : List UInt8) (srcOffset width : Nat) (dst : List UInt8) (dstOffset : Nat) :
    (width ≤ 32 ∨ width = 33 ∧ src[srcOffset]? = some 0x00) ∧
        (∃ copied, copyIntegerToFixed src srcOffset (some width) dst dstOffset 32 = .ok copied) ∨
      ¬ (width ≤ 32 ∨ width = 33 ∧ src[srcOffset]? = some 0x00) ∧
        ∃ reason, copyIntegerToFixed src srcOffset (some width) dst dstOffset 32 =
          .error reason := by
  unfold copyIntegerToFixed
  dsimp only
  by_cases hSigned : 32 < width ∧ src[srcOffset]? = some 0x00
  · rw [if_pos hSigned, if_pos hSigned]
    by_cases hLarge : 32 < width - 1
    · rw [if_pos hLarge]
      exact Or.inr ⟨fun hFits => by omega, _, rfl⟩
    · rw [if_neg hLarge]
      exact Or.inl ⟨Or.inr ⟨by omega, hSigned.2⟩, _, rfl⟩
  · rw [if_neg hSigned, if_neg hSigned]
    by_cases hLarge : 32 < width
    · rw [if_pos hLarge]
      refine Or.inr ⟨?_, _, rfl⟩
      rintro (hFits | ⟨_, hZero⟩)
      · omega
      · exact hSigned ⟨hLarge, hZero⟩
    · rw [if_neg hLarge]
      exact Or.inl ⟨Or.inl (by omega), _, rfl⟩

/-! ## Conversion of an encoded signature -/

theorem derSigToCompact_of_header {der : List UInt8} {length : UInt8} {width : Nat}
    (hCompact : der.length ≠ 64) (hLong : 8 ≤ der.length) (h0 : der[0]? = some 0x30)
    (h1 : der[1]? = some length) (hShort : length < 0x80) (h2 : der[2]? = some 0x02)
    (h3 : der[3]? = some (UInt8.ofNat width)) (hWidth : width ≤ 33) :
    derSigToCompact der =
      match copyIntegerToFixed der 4 (some width) (List.replicate 64 0) 0 32 with
      | .error reason => .error reason
      | .ok compact =>
        if der[4 + width]? ≠ some 0x02 then .error "Expected INTEGER tag for s"
        else copyIntegerToFixed der (4 + width + 2) (der[4 + width + 1]?.map UInt8.toNat) compact
          32 32 := by
  have hByte : (UInt8.ofNat width).toNat = width := by
    rw [UInt8.toNat_ofNat', Nat.mod_eq_of_lt (by omega)]
  have hHeader : ¬ (der.length < 8 ∨ der[0]? ≠ some 0x30) := by
    rintro (hFew | hTag)
    · omega
    · exact hTag h0
  have hOther : ¬ der.length = compactSigLength := hCompact
  unfold derSigToCompact
  dsimp only
  rw [if_neg hOther, if_neg hHeader, h1, Option.getD_some, if_neg (UInt8.not_le.mpr hShort), h2,
    if_neg (fun hNot => hNot rfl), h3, Option.map_some, hByte]
  rfl

section Parts

variable {r s n : Nat}

variable (hr : r < 256 ^ 32) (hs : s < 256 ^ 32)

include hr hs

/-- What is read in a part of an encoded signature that has its header. -/
theorem derSigToCompact_take (hLong : 8 ≤ n) (hPart : n ≤ (encodeSignature r s).length)
    (hCompact : n ≠ 64) :
    derSigToCompact ((encodeSignature r s).take n) =
      match copyIntegerToFixed ((encodeSignature r s).take n) 4 (some (integerWidth r))
        (List.replicate 64 0) 0 32 with
      | .error reason => .error reason
      | .ok compact =>
        if n ≤ 4 + integerWidth r then .error "Expected INTEGER tag for s"
        else if n = 5 + integerWidth r then .ok compact
        else copyIntegerToFixed ((encodeSignature r s).take n) (6 + integerWidth r)
          (some (integerWidth s)) compact 32 32 := by
  have hWidthR := integerWidth_le hr
  have hWidthS := integerWidth_le hs
  have hLength : ((encodeSignature r s).take n).length = n := List.length_take_of_le hPart
  have hRead : ∀ i < n, ((encodeSignature r s).take n)[i]? = (encodeSignature r s)[i]? :=
    fun i hi => List.getElem?_take_of_lt hi
  have hEq := encodeSignature_eq hWidthR hWidthS
  have hLengthByte : UInt8.ofNat (4 + integerWidth r + integerWidth s) < 0x80 := by
    rw [UInt8.lt_iff_toNat_lt, UInt8.toNat_ofNat', Nat.mod_eq_of_lt (by omega)]
    show 4 + integerWidth r + integerWidth s < 128
    omega
  rw [derSigToCompact_of_header (by omega) (by omega) (by rw [hRead 0 (by omega), hEq]; rfl)
    (by rw [hRead 1 (by omega), hEq]; rfl) hLengthByte (by rw [hRead 2 (by omega), hEq]; rfl)
    (by rw [hRead 3 (by omega), hEq]; rfl) hWidthR]
  have hTag := getElem?_encodeSignature hWidthR hWidthS 0
  have hByte := getElem?_encodeSignature hWidthR hWidthS 1
  have hCount : (UInt8.ofNat (integerWidth s)).toNat = integerWidth s := by
    rw [UInt8.toNat_ofNat', Nat.mod_eq_of_lt (by omega)]
  split
  · rfl
  · next compact _ =>
    by_cases hNoTag : n ≤ 4 + integerWidth r
    · rw [if_pos hNoTag, List.getElem?_eq_none (by omega), if_pos (by simp)]
    · rw [if_neg hNoTag, hRead _ (by omega), ← Nat.add_zero (4 + integerWidth r), hTag,
        if_neg fun hNot => hNot rfl, Nat.add_zero]
      by_cases hNoLength : n = 5 + integerWidth r
      · rw [if_pos hNoLength, List.getElem?_eq_none (by omega)]
        rfl
      · rw [if_neg hNoLength, hRead _ (by omega), hByte, List.getElem?_cons_succ,
          List.getElem?_cons_zero, Option.map_some, hCount, Nat.add_right_comm]

/-- A part of an encoded signature is refused when it ends before the second integer, or when the
sign of a second integer of full width is missing. -/
theorem refused_iff (hPart : n ≤ (encodeSignature r s).length) :
    (∃ reason, derSigToCompact ((encodeSignature r s).take n) = .error reason) ↔
      n ≠ 64 ∧ (n < 8 ∨ n ≤ 4 + integerWidth r ∨ integerWidth s = 33 ∧ n = 6 + integerWidth r) := by
  have hWidthR := integerWidth_le hr
  have hWidthS := integerWidth_le hs
  have hLength : ((encodeSignature r s).take n).length = n := List.length_take_of_le hPart
  have hPosS := integerWidth_pos s
  by_cases hCompact : n = 64
  · have hOk : derSigToCompact ((encodeSignature r s).take n) =
        .ok ((encodeSignature r s).take n) := by
      unfold derSigToCompact
      rw [if_pos (by rw [hLength, hCompact]; rfl)]
    refine iff_of_false ?_ fun hBoth => hBoth.1 hCompact
    rintro ⟨reason, hError⟩
    rw [hOk] at hError
    cases hError
  · by_cases hShort : n < 8
    · refine iff_of_true ⟨"Not a DER-encoded signature", ?_⟩ ⟨hCompact, Or.inl hShort⟩
      unfold derSigToCompact
      rw [if_neg (by rw [hLength]; exact hCompact), if_pos (Or.inl (by omega))]
    · have hFirst : ¬ integerWidth r ≤ 32 →
          ((encodeSignature r s).take n)[4]? = some 0x00 := by
        intro hWide
        have hSign := (integerOctets_of_wide hr hWide).2
        rw [List.getElem?_take_of_lt (by omega), encodeSignature_eq hWidthR hWidthS]
        simp only [List.getElem?_cons_succ]
        rw [List.getElem?_append_left (by rw [length_integerOctets]; exact integerWidth_pos r),
          hSign]
      rw [derSigToCompact_take hr hs (by omega) hPart hCompact]
      rcases copy_cases ((encodeSignature r s).take n) 4 (integerWidth r) (List.replicate 64 0) 0
        with ⟨_, copied, hCopied⟩ | ⟨hNone, _⟩
      · rw [hCopied]
        dsimp only
        by_cases hNoTag : n ≤ 4 + integerWidth r
        · rw [if_pos hNoTag]
          exact iff_of_true ⟨_, rfl⟩ ⟨hCompact, Or.inr (Or.inl hNoTag)⟩
        · rw [if_neg hNoTag]
          by_cases hNoLength : n = 5 + integerWidth r
          · rw [if_pos hNoLength]
            refine iff_of_false ?_ fun hBoth => by omega
            rintro ⟨reason, hError⟩
            cases hError
          · rw [if_neg hNoLength]
            have hIndex : 6 + integerWidth r = 4 + integerWidth r + 2 := by omega
            have hSecond : integerWidth s = 33 → 6 + integerWidth r < n →
                ((encodeSignature r s).take n)[6 + integerWidth r]? = some 0x00 := by
              intro hWide hThere
              rw [List.getElem?_take_of_lt hThere, hIndex,
                getElem?_encodeSignature hWidthR hWidthS 2]
              exact (integerOctets_of_wide hs (by omega)).2
            rcases copy_cases ((encodeSignature r s).take n) (6 + integerWidth r) (integerWidth s)
              copied 32 with ⟨hFits, copied', hCopied'⟩ | ⟨hNot, reason, hError⟩
            · rw [hCopied']
              refine iff_of_false ?_ ?_
              · rintro ⟨reason, hError⟩
                cases hError
              · rintro ⟨_, hFew | hFew | ⟨hWide, hEnd⟩⟩
                · exact hShort hFew
                · exact hNoTag hFew
                · rcases hFits with hFits | ⟨_, hZero⟩
                  · omega
                  · rw [List.getElem?_eq_none (by omega)] at hZero
                    cases hZero
            · refine iff_of_true ⟨reason, hError⟩ ⟨hCompact, Or.inr (Or.inr ?_)⟩
              have hWide : integerWidth s = 33 := by
                by_contra hNarrow
                exact hNot (Or.inl (by omega))
              refine ⟨hWide, ?_⟩
              by_contra hEnd
              exact hNot (Or.inr ⟨hWide, hSecond hWide (by omega)⟩)
      · refine absurd ?_ hNone
        by_cases hFits : integerWidth r ≤ 32
        · exact Or.inl hFits
        · exact Or.inr ⟨(integerOctets_of_wide hr hFits).1, hFirst hFits⟩

/-- A signature that does not have 64 bytes is converted. -/
theorem derSigToCompact_encode (hWidths : integerWidth r + integerWidth s ≠ 58) :
    derSigToCompact (encodeSignature r s) = .ok (fixedOctets 32 r ++ fixedOctets 32 s) := by
  have hWidthR := integerWidth_le hr
  have hWidthS := integerWidth_le hs
  have hPosR := integerWidth_pos r
  have hPosS := integerWidth_pos s
  have hLength := length_encodeSignature hWidthR hWidthS
  have hAll : (encodeSignature r s).take (encodeSignature r s).length = encodeSignature r s :=
    List.take_length
  have hEq := encodeSignature_eq hWidthR hWidthS
  -- both integers are there
  have hFirst : copyIntegerToFixed (encodeSignature r s) 4 (some (integerWidth r))
      ([] ++ (List.replicate 32 0 ++ List.replicate 32 0)) 0 32 =
        .ok ([] ++ (fixedOctets 32 r ++ List.replicate 32 0)) :=
    @copy_integer _ [_, _, _, _] _ _ _ _ r 4 0 hr hEq rfl List.length_replicate rfl
  have hSecond : copyIntegerToFixed (encodeSignature r s) (6 + integerWidth r)
      (some (integerWidth s)) (fixedOctets 32 r ++ (List.replicate 32 0 ++ [])) 32 32 =
        .ok (fixedOctets 32 r ++ (fixedOctets 32 s ++ [])) := by
    refine @copy_integer _ (0x30 :: UInt8.ofNat (4 + integerWidth r + integerWidth s) :: 0x02 ::
      UInt8.ofNat (integerWidth r) :: (integerOctets r ++
        [0x02, UInt8.ofNat (integerWidth s)])) _ [] _ _ s _ _ hs ?_ ?_ List.length_replicate
      (length_fixedOctets 32 r)
    · rw [hEq]
      simp
    · simp only [List.length_append, List.length_cons, List.length_nil, length_integerOctets]
      omega
  have hRead := @derSigToCompact_take r s _ hr hs (by omega) le_rfl (by omega)
  have hStart : (List.replicate 64 0 : List UInt8) =
      [] ++ (List.replicate 32 0 ++ List.replicate 32 0) := by
    rw [List.nil_append, List.replicate_append_replicate]
  rw [List.nil_append (fixedOctets 32 r ++ _)] at hFirst
  rw [List.append_nil, List.append_nil] at hSecond
  rw [hAll, hStart, hFirst] at hRead
  dsimp only at hRead
  rw [hRead, if_neg (by omega), if_neg (by omega), hSecond]

/-- A signature of 64 bytes is no compact form of itself: where the second integer has zeros in
front stands the tag of the encoded one, or the first byte is the tag of a sequence. -/
theorem encodeSignature_ne_compact (hWidths : integerWidth r + integerWidth s = 58) :
    encodeSignature r s ≠ fixedOctets 32 r ++ fixedOctets 32 s := by
  have hWidthR := integerWidth_le hr
  have hWidthS := integerWidth_le hs
  intro hSame
  have hEq := encodeSignature_eq hWidthR hWidthS
  by_cases hShort : integerWidth r < 28
  · -- the first integer has zeros in front
    have hHead : (encodeSignature r s)[0]? = (fixedOctets 32 r ++ fixedOctets 32 s)[0]? := by
      rw [hSame]
    rcases integerOctets_cases hr with ⟨_, hFixed⟩ | ⟨hWide, _⟩
    · have hZero : (fixedOctets 32 r ++ fixedOctets 32 s)[0]? = some 0x00 := by
        rw [hFixed, List.append_assoc, List.getElem?_append_left (by simp; omega),
          List.getElem?_replicate, if_pos (by omega)]
      have hTag : (encodeSignature r s)[0]? = some 0x30 := by
        rw [hEq]
        rfl
      rw [hTag, hZero] at hHead
      exact absurd hHead (by decide)
    · omega
  · -- the tag of the second integer stands where zeros should
    have hAt : (encodeSignature r s)[4 + integerWidth r + 0]? =
        (fixedOctets 32 r ++ fixedOctets 32 s)[4 + integerWidth r + 0]? := by
      rw [hSame]
    rcases integerOctets_cases hs with ⟨_, hFixed⟩ | ⟨hWide, _⟩
    · rw [getElem?_encodeSignature hWidthR hWidthS,
        List.getElem?_append_right (by rw [length_fixedOctets]; omega), length_fixedOctets, hFixed,
        List.getElem?_append_left (by simp; omega), List.getElem?_replicate,
        if_pos (by omega), List.getElem?_cons_zero] at hAt
      exact absurd hAt (by decide)
    · omega

end Parts

/-- A signature is converted exactly when its bytes are not 64, and a proper part of it is refused
exactly when it is not 64 bytes long and too little of it is there. -/
theorem compact_iff {r s : Nat} (hr : 1 ≤ r ∧ r < 2 ^ 256) (hs : 1 ≤ s ∧ s < 2 ^ 256) :
    (derSigToCompact (encodeSignature r s) = .ok (fixedOctets 32 r ++ fixedOctets 32 s) ↔
        integerWidth r + integerWidth s ≠ 58) ∧
      ∀ n < (encodeSignature r s).length,
        ((∃ reason, derSigToCompact ((encodeSignature r s).take n) = .error reason) ↔
          n ≠ 64 ∧ (n < 8 ∨ n ≤ 4 + integerWidth r ∨
            integerWidth s = 33 ∧ n = 6 + integerWidth r)) := by
  have hr' : r < 256 ^ 32 := by
    rw [show (256 : Nat) ^ 32 = 2 ^ 256 by norm_num]
    exact hr.2
  have hs' : s < 256 ^ 32 := by
    rw [show (256 : Nat) ^ 32 = 2 ^ 256 by norm_num]
    exact hs.2
  refine ⟨⟨fun hOk hWidths => ?_, derSigToCompact_encode hr' hs'⟩, fun n hn =>
    refused_iff hr' hs' hn.le⟩
  have hLength := length_encodeSignature (integerWidth_le hr') (integerWidth_le hs')
  have hSame : derSigToCompact (encodeSignature r s) = .ok (encodeSignature r s) := by
    unfold derSigToCompact
    rw [if_pos (by rw [hLength, Nat.add_assoc, hWidths]; rfl)]
  rw [hSame, Except.ok.injEq] at hOk
  exact encodeSignature_ne_compact hr' hs' hWidths hOk

/-- Three bytes in all: a signature is converted, and its parts are refused. -/
theorem compact_iff_small :
    derSigToCompact (encodeSignature 1 2) = .ok (fixedOctets 32 1 ++ fixedOctets 32 2) ∧
      ∀ n < (encodeSignature 1 2).length,
        ∃ reason, derSigToCompact ((encodeSignature 1 2).take n) = .error reason := by
  have hIff := @compact_iff 1 2 ⟨by decide, by decide⟩ ⟨by decide, by decide⟩
  have hLength : (encodeSignature 1 2).length = 8 := rfl
  refine ⟨hIff.1.mpr (by decide), fun n hn => (hIff.2 n hn).mpr ⟨by omega, Or.inl (by omega)⟩⟩

/-- A signature of 64 bytes comes back as it is, and a signature without its last byte is
converted all the same. -/
theorem unconverted_signature :
    derSigToCompact (encodeSignature (2 ^ 224) (2 ^ 224)) =
        .ok (encodeSignature (2 ^ 224) (2 ^ 224)) ∧
      encodeSignature (2 ^ 224) (2 ^ 224) ≠ fixedOctets 32 (2 ^ 224) ++ fixedOctets 32 (2 ^ 224) ∧
      derSigToCompact ((encodeSignature 1 128).take 8) =
        .ok (fixedOctets 32 1 ++ fixedOctets 32 0) := by
  refine ⟨rfl, by decide, rfl⟩

end Verifier
end Signet
