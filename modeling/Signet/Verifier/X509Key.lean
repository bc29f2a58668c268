import Signet.Kit.Base64
import Signet.Kit.Der

/-!
# The key in a certificate

The verifier takes the public key out of a certificate by hand: it parses one element at a time
and looks through the elements of the certificate's body for the one that holds a key of an
elliptic curve.  Lengths are put together by signed shifts of 32 bits.

* `parseTlv`, `findSpki`, `extractP256PublicKey`
* `HugeLength` — four octets of a length, the first of them from `0x80` on.
* `bounded_iff` — exactly then a parsed element is out of bounds.
* `parsing_safe_iff` — bytes without such a length are parsed within bounds, and every search in
  them ends.
-/

namespace Signet
namespace Verifier

open Kit

/-! ## Bytes -/

/-- `data[index]`; there is nothing before the first and after the last byte. -/
def byteAt (data : List UInt8) (index : Int) : Option UInt8 :=
  if index < 0 then none else data[index.toNat]?

/-- `data.slice(start, stop)`, with positions that are not negative. -/
def slice (data : List UInt8) (start stop : Int) : List UInt8 :=
  (data.take stop.toNat).drop start.toNat

theorem lt_length_of_byteAt {data : List UInt8} {index : Int} {byte : UInt8}
    (h : byteAt data index = some byte) : 0 ≤ index ∧ index < data.length := by
  unfold byteAt at h
  split at h
  · cases h
  · have hLt := (List.getElem?_eq_some_iff.mp h).1
    omega

/-- What stands behind a part of the bytes. -/
theorem byteAt_append (before rest : List UInt8) (i : Nat) :
    byteAt (before ++ rest) (before.length + i) = rest[i]? := by
  have hNat : ((before.length : Int) + i).toNat = before.length + i := by omega
  rw [byteAt, if_neg (by omega), hNat, List.getElem?_append_right (Nat.le_add_right _ _),
    Nat.add_sub_cancel_left]

/-! ## Elements -/

/-- A parsed element: a tag that may be missing, where the content begins, how long it is, and how
long the whole element. -/
structure Tlv where
  tag : Option UInt8
  contentStart : Int
  contentLength : Int
  totalLength : Int
deriving DecidableEq

/-- `(contentLength << 8) | byte` -/
def shiftIn (contentLength : BitVec 32) (byte : UInt8) : BitVec 32 :=
  (contentLength <<< 8) ||| byte.toBitVec.setWidth 32

/-- The octets that write a length. -/
def lengthBytes (der : List UInt8) (pos : Int) (numLenBytes : Nat) : List UInt8 :=
  (List.range numLenBytes).map fun i : Nat => (byteAt der (pos + i)).getD 0

/-- A length of several octets, and where the content begins. -/
def readLongLength (der : List UInt8) (pos : Int) (numLenBytes : Nat) : Except String (Int × Int) :=
  if 4 < numLenBytes then .error "DER length exceeds 4 bytes"
  else if (der.length : Int) < pos + numLenBytes then .error "Truncated DER: incomplete length"
  else .ok (((lengthBytes der pos numLenBytes).foldl shiftIn 0).toInt, pos + numLenBytes)

/-- The length that begins with the given byte, and where the content begins.  A byte that is not
there is no short length, and it counts no octets. -/
def readLength (der : List UInt8) (firstLenByte : Option UInt8) (pos : Int) :
    Except String (Int × Int) :=
  match firstLenByte with
  | none => readLongLength der pos 0
  | some byte =>
    if byte < 0x80 then .ok (byte.toNat, pos)
    else if byte = 0x80 then .error "Indefinite length not supported"
    else readLongLength der pos (byte &&& 0x7f).toNat

/-- `parseTlv` -/
def parseTlv (der : List UInt8) (offset : Int) : Except String Tlv :=
  if (der.length : Int) ≤ offset then .error "Unexpected end of DER data"
  else
    let tag := byteAt der offset
    let pos := offset + 1
    if (der.length : Int) ≤ pos then .error "Truncated DER: missing length"
    else
      match readLength der (byteAt der pos) (pos + 1) with
      | .error reason => .error reason
      | .ok (contentLength, contentStart) =>
        if (der.length : Int) < contentStart + contentLength then
          .error "Truncated DER: content exceeds buffer"
        else
          .ok
            { tag := tag
              contentStart := contentStart
              contentLength := contentLength
              totalLength := contentStart - offset + contentLength }

/-- `bytesMatch` -/
def bytesMatch (data : List UInt8) (offset : Int) (pattern : List UInt8) : Bool :=
  if (data.length : Int) < offset + pattern.length then false
  else (List.range pattern.length).all fun i : Nat => byteAt data (offset + i) = pattern[i]?

/-! ## The search -/

def tagSequence : UInt8 := 0x30

def tagBitString : UInt8 := 0x03

/-- The EC public key algorithm, `1.2.840.10045.2.1`. -/
def ecPublicKeyOid : List UInt8 := [0x06, 0x07, 0x2a, 0x86, 0x48, 0xce, 0x3d, 0x02, 0x01]

/-- The curve secp256r1, `1.2.840.10045.3.1.7`. -/
def secp256r1Oid : List UInt8 := [0x06, 0x08, 0x2a, 0x86, 0x48, 0xce, 0x3d, 0x03, 0x01, 0x07]

def p256UncompressedLength : Int := 65

def uncompressedPointPrefix : UInt8 := 0x04

/-- Whether the element is a sequence that begins with a sequence that begins with the EC
algorithm. -/
def startsWithEcAlgorithm (der : List UInt8) (tlv : Tlv) : Bool :=
  if tlv.tag = some tagSequence then
    match parseTlv der tlv.contentStart with
    | .error _ => false
    | .ok innerTlv =>
      innerTlv.tag = some tagSequence && bytesMatch der innerTlv.contentStart ecPublicKeyOid
  else false

/-- `findSpki`; nothing is returned when the steps do not suffice. -/
def findSpki (der : List UInt8) (rangeEnd : Int) : Nat → Int → Option (Option Tlv)
  | 0, _ => none
  | steps + 1, pos =>
    if pos < rangeEnd then
      match parseTlv der pos with
      | .error _ => some none
      | .ok tlv =>
        if startsWithEcAlgorithm der tlv then some (some tlv)
        else findSpki der rangeEnd steps (pos + tlv.totalLength)
    else some none

/-- The key behind a `subjectPublicKeyInfo` that has been found. -/
def readSpki (der : List UInt8) (spki : Tlv) : Except String (List UInt8) :=
  match parseTlv der spki.contentStart with
  | .error reason => .error ("AlgorithmIdentifier: " ++ reason)
  | .ok algId =>
    if bytesMatch der algId.contentStart ecPublicKeyOid = false then
      .error "Algorithm is not EC public key"
    else
      let curveOidOffset := algId.contentStart + ecPublicKeyOid.length
      if bytesMatch der curveOidOffset secp256r1Oid = false then
        .error "Curve is not secp256r1 (P-256)"
      else
        let bitStringOffset := spki.contentStart + algId.totalLength
        match parseTlv der bitStringOffset with
        | .error reason => .error ("BIT STRING: " ++ reason)
        | .ok bitString =>
          if bitString.tag ≠ some tagBitString then
            .error "Expected BIT STRING for public key"
          else
            let unusedBits := byteAt der bitString.contentStart
            if unusedBits ≠ some 0 then
              .error ("Unexpected unused bits in BIT STRING: " ++
                (unusedBits.map fun bits => toString bits.toNat).getD "undefined")
            else
              let keyStart := bitString.contentStart + 1
              let keyLength := bitString.contentLength - 1
              if keyLength ≠ p256UncompressedLength then
                .error ("Expected " ++ toString p256UncompressedLength ++ "-byte key, " ++
                  "got " ++ toString keyLength)
              else
                let publicKey := slice der keyStart (keyStart + keyLength)
                if publicKey[0]? ≠ some uncompressedPointPrefix then
                  .error "Public key is not an uncompressed point"
                else .ok publicKey

/-- The key in the bytes of a certificate. -/
def extractFromDer (steps : Nat) (der : List UInt8) : Option (Except String (List UInt8)) :=
  match parseTlv der 0 with
  | .error reason => some (.error ("Certificate: " ++ reason))
  | .ok cert =>
    if cert.tag ≠ some tagSequence then some (.error "Certificate is not a SEQUENCE")
    else
      match parseTlv der cert.contentStart with
      | .error reason => some (.error ("tbsCertificate: " ++ reason))
      | .ok tbs =>
        if tbs.tag ≠ some tagSequence then some (.error "tbsCertificate is not a SEQUENCE")
        else
          let tbsEnd := tbs.contentStart + tbs.contentLength
          (findSpki der tbsEnd steps tbs.contentStart).map fun found =>
            match found with
            | none => .error "subjectPublicKeyInfo with EC algorithm not found"
            | some spki => readSpki der spki

/-- `extractP256PublicKey`; nothing is returned when the steps do not suffice. -/
def extractP256PublicKey (steps : Nat) (certBase64 : String) :
    Option (Except String (List UInt8)) :=
  match Base64.atob certBase64 with
  | none => some (.error "Invalid base64 in certificate")
  | some der => extractFromDer steps der

/-! ## Lengths -/

theorem toNat_shiftIn (n : BitVec 32) (byte : UInt8) :
    (shiftIn n byte).toNat = (n.toNat * 256 + byte.toNat) % 2 ^ 32 := by
  have hByte := byte.toNat_lt
  have hShift : n.toNat <<< 8 % 2 ^ 32 = 2 ^ 8 * (n.toNat % 2 ^ 24) := by
    rw [Nat.shiftLeft_eq]
    omega
  unfold shiftIn
  rw [BitVec.toNat_or, BitVec.toNat_shiftLeft, BitVec.toNat_setWidth, UInt8.toNat_toBitVec,
    hShift, Nat.mod_eq_of_lt (a := byte.toNat) (by omega), ← Nat.two_pow_add_eq_or_of_lt hByte]
  omega

/-- The shifts leave the low 32 bits of the number that the octets write. -/
theorem toNat_foldl_shiftIn (octets : List UInt8) :
    (octets.foldl shiftIn 0).toNat = Der.bigEndian octets % 2 ^ 32 := by
  induction octets using List.reverseRecOn with
  | nil => rfl
  | append_singleton octets octet ih =>
    rw [List.foldl_append, List.foldl_cons, List.foldl_nil, toNat_shiftIn, ih,
      Der.bigEndian_snoc]
    omega

variable {offset : Int} {der octets : List UInt8} {pos contentLength contentStart : Int}

theorem toInt_of_small (h : Der.bigEndian octets < 2 ^ 31) :
    (octets.foldl shiftIn 0).toInt = Der.bigEndian octets := by
  have hNat := toNat_foldl_shiftIn octets
  rw [BitVec.toInt_eq_toNat_of_lt (by omega)]
  omega

theorem toInt_of_huge (hFew : octets.length ≤ 4) (h : 2 ^ 31 ≤ Der.bigEndian octets) :
    (octets.foldl shiftIn 0).toInt < 0 := by
  have hNat := toNat_foldl_shiftIn octets
  have hLt : Der.bigEndian octets < 2 ^ 32 :=
    calc Der.bigEndian octets < 256 ^ octets.length := Der.bigEndian_lt octets
      _ ≤ 256 ^ 4 := Nat.pow_le_pow_right (by omega) hFew
      _ = 2 ^ 32 := by norm_num
  rw [BitVec.toInt_eq_toNat_cond, hNat, Nat.mod_eq_of_lt hLt]
  split <;> omega

/-- A length has four octets, the first of them from `0x80` on. -/
def HugeLength (der : List UInt8) (offset : Int) : Prop :=
  byteAt der (offset + 1) = some 0x84 ∧ 0x80 ≤ (byteAt der (offset + 2)).getD 0 ∧
    offset + 6 ≤ der.length

/-- The number that up to four octets write is from `2 ^ 31` on when there are four and the first
is from `0x80` on. -/
theorem huge_iff (hFew : octets.length ≤ 4) :
    2 ^ 31 ≤ Der.bigEndian octets ↔ octets.length = 4 ∧ 0x80 ≤ octets.headD 0 := by
  cases octets with
  | nil => simp
  | cons first rest =>
    have hRest := Der.bigEndian_lt rest
    have hFirst := first.toNat_lt
    have hLe : (0x80 : UInt8) ≤ first ↔ 128 ≤ first.toNat := UInt8.le_iff_toNat_le
    rw [Der.bigEndian_cons, List.length_cons, List.headD_cons, hLe]
    rw [List.length_cons] at hFew
    have hCases : rest.length = 3 ∨ rest.length = 2 ∨ rest.length = 1 ∨ rest.length = 0 := by
      omega
    rcases hCases with h | h | h | h <;> rw [h] at hRest ⊢ <;> omega

/-- The count of octets in the first byte of a long length. -/
theorem toNat_and_0x7f {byte : UInt8} (h : ¬ byte < 0x80) :
    (byte &&& 0x7f).toNat = byte.toNat - 128 := by
  have hLt := byte.toNat_lt
  have hGe : 128 ≤ byte.toNat := by
    have hNot := UInt8.lt_iff_toNat_lt.not.mp h
    have hConst : (0x80 : UInt8).toNat = 128 := rfl
    omega
  have hMask : (0x7f : UInt8).toNat = 2 ^ 7 - 1 := rfl
  rw [UInt8.toNat_and, hMask, Nat.and_two_pow_sub_one_eq_mod]
  omega

theorem headD_lengthBytes (der : List UInt8) (pos : Int) (numLenBytes : Nat) :
    (lengthBytes der pos (numLenBytes + 1)).headD 0 = (byteAt der pos).getD 0 := by
  simp [lengthBytes, List.range_succ_eq_map]

/-! ## Bounds -/

/-- An element that is parsed lies within the bytes and is not empty. -/
def Bounded (der : List UInt8) (offset : Int) : Prop :=
  ∀ tlv, parseTlv der offset = .ok tlv →
    0 ≤ tlv.contentLength ∧ 2 ≤ tlv.totalLength ∧ offset < tlv.contentStart ∧
      tlv.contentStart + tlv.contentLength ≤ der.length

theorem readLongLength_spec {der : List UInt8} {numLenBytes : Nat}
    (h : readLongLength der pos numLenBytes = .ok (contentLength, contentStart)) :
    contentStart = pos + numLenBytes ∧
      (contentLength < 0 ↔
        numLenBytes = 4 ∧ 0x80 ≤ (byteAt der pos).getD 0 ∧ pos + 4 ≤ der.length) := by
  unfold readLongLength at h
  split at h
  · cases h
  · next hFew =>
    split at h
    · cases h
    · next hFits =>
      cases h
      refine ⟨rfl, ?_⟩
      have hCount : (lengthBytes der pos numLenBytes).length = numLenBytes := by
        rw [lengthBytes, List.length_map, List.length_range]
      have hFour : (lengthBytes der pos numLenBytes).length ≤ 4 := by omega
      have hHuge := huge_iff hFour
      rw [hCount] at hHuge
      constructor
      · intro hNegative
        -- numbers below `2 ^ 31` keep their sign
        have hLarge : 2 ^ 31 ≤ Der.bigEndian (lengthBytes der pos numLenBytes) := by
          by_contra hSmall
          rw [toInt_of_small (by omega)] at hNegative
          omega
        obtain ⟨rfl, hFirst⟩ := hHuge.mp hLarge
        rw [headD_lengthBytes] at hFirst
        exact ⟨rfl, hFirst, by omega⟩
      · rintro ⟨rfl, hFirst, _⟩
        exact toInt_of_huge hFour (hHuge.mpr ⟨rfl, by rw [headD_lengthBytes]; exact hFirst⟩)

theorem readLength_spec
    (h : readLength der (byteAt der (offset + 1)) (offset + 2) =
      .ok (contentLength, contentStart)) :
    offset + 2 ≤ contentStart ∧ (contentLength < 0 ↔ HugeLength der offset) := by
  unfold HugeLength
  cases hFirst : byteAt der (offset + 1) with
  | none =>
    rw [hFirst] at h
    obtain ⟨hStart, hNegative⟩ := readLongLength_spec h
    refine ⟨by omega, ?_⟩
    rw [hNegative]
    simp
  | some byte =>
    rw [hFirst] at h
    unfold readLength at h
    dsimp only at h
    split at h
    · next hShort =>
      cases h
      refine ⟨le_rfl, iff_of_false (by omega) ?_⟩
      rintro ⟨hByte, _⟩
      cases hByte
      exact absurd hShort (by decide)
    · next hLong =>
      split at h
      · cases h
      · obtain ⟨hStart, hNegative⟩ := readLongLength_spec h
        rw [toNat_and_0x7f hLong] at hStart hNegative
        refine ⟨by omega, ?_⟩
        -- four octets are counted by one byte only
        have hFour : byte.toNat - 128 = 4 ↔ some byte = some 0x84 := by
          rw [Option.some_inj, ← UInt8.toNat_inj]
          have hConst : (0x84 : UInt8).toNat = 132 := rfl
          omega
        rw [hNegative, hFour, Int.add_assoc]
        norm_num

/-- Whether an element is parsed, and what is known of it. -/
theorem parseTlv_spec {tlv : Tlv} (h : parseTlv der offset = .ok tlv) :
    tlv.tag = byteAt der offset ∧ offset + 2 ≤ tlv.contentStart ∧
      tlv.contentStart + tlv.contentLength ≤ der.length ∧
      tlv.totalLength = tlv.contentStart - offset + tlv.contentLength ∧
      (tlv.contentLength < 0 ↔ HugeLength der offset) := by
  unfold parseTlv at h
  dsimp only at h
  split at h
  · cases h
  · split at h
    · cases h
    · split at h
      · cases h
      · next contentLength contentStart hRead =>
        rw [Int.add_assoc] at hRead
        obtain ⟨hStart, hNegative⟩ := readLength_spec hRead
        split at h
        · cases h
        · next hFits =>
          cases h
          exact ⟨rfl, hStart, Int.not_lt.mp hFits, rfl, hNegative⟩

theorem parseTlv_of_huge (h : HugeLength der offset) :
    ∃ tlv, parseTlv der offset = .ok tlv := by
  obtain ⟨hByte, hFirst, hFits⟩ := h
  have hRange := lt_length_of_byteAt hByte
  have hRead : ∃ contentLength, readLength der (some 0x84) (offset + 1 + 1) =
      .ok (contentLength, offset + 1 + 1 + 4) ∧ contentLength < 0 := by
    have hOk : readLength der (some 0x84) (offset + 1 + 1) =
        .ok (((lengthBytes der (offset + 1 + 1) 4).foldl shiftIn 0).toInt, offset + 1 + 1 + 4) := by
      have hNot : ¬ (der.length : Int) < offset + 1 + 1 + (4 : Nat) := by omega
      exact if_neg hNot
    refine ⟨_, hOk, ?_⟩
    refine (@readLongLength_spec _ _ _ _ 4 hOk).2.mpr ⟨rfl, ?_, by omega⟩
    rw [Int.add_assoc]
    exact hFirst
  obtain ⟨contentLength, hOk, hNegative⟩ := hRead
  unfold parseTlv
  dsimp only
  rw [if_neg (by omega), if_neg (by omega), hByte, hOk]
  dsimp only
  rw [if_neg (by omega)]
  exact ⟨_, rfl⟩

/-- An element is in bounds exactly when its length is not huge. -/
theorem bounded_iff (der : List UInt8) (offset : Int) :
    Bounded der offset ↔ ¬ HugeLength der offset := by
  constructor
  · intro hBounded hHuge
    obtain ⟨tlv, hParse⟩ := parseTlv_of_huge hHuge
    obtain ⟨_, _, _, _, hNegative⟩ := parseTlv_spec hParse
    have hLength := (hBounded tlv hParse).1
    have hBelow := hNegative.mpr hHuge
    omega
  · intro hSmall tlv hParse
    obtain ⟨_, hStart, hEnd, hTotal, hNegative⟩ := parseTlv_spec hParse
    have hLength : 0 ≤ tlv.contentLength := Int.not_lt.mp fun hBelow => hSmall (hNegative.mp hBelow)
    exact ⟨hLength, by omega, by omega, hEnd⟩

/-! ## The end of a search -/

/-- A call returns when some number of steps suffices. -/
def Returns {α : Type} (call : Nat → Option α) : Prop := ∃ steps, (call steps).isSome = true

section

variable (hBounded : ∀ offset, Bounded der offset)

include hBounded

/-- Elements that are in bounds bring a search nearer to its end. -/
theorem findSpki_isSome {rangeEnd : Int} {steps : Nat} (hSteps : (rangeEnd - pos).toNat < steps) :
    (findSpki der rangeEnd steps pos).isSome = true := by
  induction steps generalizing pos with
  | zero => omega
  | succ steps ih =>
    unfold findSpki
    split
    · split
      · rfl
      · next tlv hParse =>
        split
        · rfl
        · have hTotal := (hBounded pos tlv hParse).2.1
          exact ih (by omega)
    · rfl

theorem findSpki_returns (rangeStart rangeEnd : Int) :
    Returns fun steps => findSpki der rangeEnd steps rangeStart :=
  ⟨(rangeEnd - rangeStart).toNat + 1, findSpki_isSome hBounded (Nat.lt_succ_self _)⟩

/-- The key of a certificate is extracted when the search in it ends. -/
theorem extractFromDer_returns : Returns fun steps => extractFromDer steps der := by
  unfold Returns extractFromDer
  split
  · exact ⟨0, rfl⟩
  · split
    · exact ⟨0, rfl⟩
    · split
      · exact ⟨0, rfl⟩
      · split
        · exact ⟨0, rfl⟩
        · next tbs _ _ =>
          obtain ⟨steps, hSome⟩ :=
            findSpki_returns hBounded tbs.contentStart (tbs.contentStart + tbs.contentLength)
          refine ⟨steps, ?_⟩
          rw [Option.isSome_map]
          exact hSome

end

theorem extract_of_atob {certBase64 : String} (h : Base64.atob certBase64 = some der)
    (steps : Nat) :
    extractP256PublicKey steps certBase64 = extractFromDer steps der := by
  rw [extractP256PublicKey, h]

def endlessCertificate : String := "MAgwBgKE////+g=="

/-- The element has a negative length, and the search in the certificate never gets past it. -/
theorem endless_search : ∃ der, Base64.atob endlessCertificate = some der ∧
    parseTlv der 4 = .ok ⟨some 2, 10, -6, 0⟩ ∧
      ¬ Returns fun steps => extractP256PublicKey steps endlessCertificate := by
  have hBytes : Base64.atob endlessCertificate =
      some [0x30, 0x08, 0x30, 0x06, 0x02, 0x84, 0xff, 0xff, 0xff, 0xfa] := by decide
  refine ⟨_, hBytes, rfl, ?_⟩
  rintro ⟨steps, hSome⟩
  -- the element at 4 has no length, so the search comes back to it
  have hSearch : ∀ n, findSpki [0x30, 0x08, 0x30, 0x06, 0x02, 0x84, 0xff, 0xff, 0xff, 0xfa] 10 n 4 =
      none := by
    intro n
    induction n with
    | zero => rfl
    | succ n ih => exact ih
  have hNone : extractP256PublicKey steps endlessCertificate = none := by
    rw [extract_of_atob hBytes]
    exact Option.map_eq_none_iff.mpr (hSearch steps)
  simp [hNone] at hSome

/-- In some bytes an element is in bounds exactly when its length is not huge.  Where no length
is, and nowhere else, all elements are in bounds, all searches end and the key is extracted or
refused.  What is no text of bytes is refused. -/
theorem parsing_safe_iff (der : List UInt8) :
    (∀ offset, Bounded der offset ↔ ¬ HugeLength der offset) ∧
      (((∀ offset, Bounded der offset) ∧
          (∀ rangeStart rangeEnd, Returns fun steps => findSpki der rangeEnd steps rangeStart) ∧
          ∀ certBase64, Base64.atob certBase64 = some der →
            Returns fun steps => extractP256PublicKey steps certBase64) ↔
        ∀ offset, ¬ HugeLength der offset) ∧
      ∀ certBase64, Base64.atob certBase64 = none →
        Returns fun steps => extractP256PublicKey steps certBase64 := by
  refine ⟨bounded_iff der, ?_, fun certBase64 hNone => ⟨0, ?_⟩⟩
  · constructor
    · rintro ⟨hBounded, _⟩ offset
      exact (bounded_iff der offset).mp (hBounded offset)
    · intro hSmall
      have hBounded : ∀ offset, Bounded der offset := fun offset =>
        (bounded_iff der offset).mpr (hSmall offset)
      refine ⟨hBounded, findSpki_returns hBounded, fun certBase64 hBytes => ?_⟩
      simp only [extract_of_atob hBytes]
      exact extractFromDer_returns hBounded
  · simp only [extractP256PublicKey, hNone]
    rfl

end Verifier
end Signet
