import Signet.Verifier.X509Key

/-!
# The key of a well-formed certificate

The search recognises the key by a guess: it takes the first sequence whose first element is a
sequence that names the algorithm.  It looks at the first element without asking whether the
sequence has one, and so it can look at the next one in its place.

* `Certificate` — the shape of a certificate, around an algorithm and a key.
* `Stands`, `Within` — what is left to read at a position.
* `Harmless` — what may follow the beginning of a sequence that is passed by.
* `extract_exact` — the search finds this key and no other.
-/

namespace Signet
namespace Verifier

open Kit
open Kit.Der

/-! ## Certificates -/

/-- Any element; its tag may have several octets. -/
inductive AnyElement : List UInt8 → Prop
  | single {tag : UInt8} {content bytes : List UInt8} (hElement : Element tag content bytes) :
      AnyElement bytes
  | high {tag : UInt8} {rest : List UInt8} (hTag : tag.toNat % 32 = 31) : AnyElement (tag :: rest)

def AlgorithmIdentifier (oid parameters bytes : List UInt8) : Prop :=
  (∃ content, Element 0x06 content oid) ∧ (parameters = [] ∨ AnyElement parameters) ∧
    Element 0x30 (oid ++ parameters) bytes

/-- A name: a sequence of sets, possibly empty. -/
def Name (bytes : List UInt8) : Prop :=
  ∃ parts : List (List UInt8), (∀ part ∈ parts, ∃ content, Element 0x31 content part) ∧
    Element 0x30 parts.flatten bytes

/-- A time, with a year of two or of four digits. -/
def Time (bytes : List UInt8) : Prop :=
  ∃ content, Element 0x17 content bytes ∨ Element 0x18 content bytes

/-- The time between two times. -/
def Validity (bytes : List UInt8) : Prop :=
  ∃ notBefore notAfter, Time notBefore ∧ Time notAfter ∧ Element 0x30 (notBefore ++ notAfter) bytes

/-- An algorithm and the content of the bit string with its key. -/
def SubjectPublicKeyInfo (oid parameters key bytes : List UInt8) : Prop :=
  ∃ algorithm bitString, AlgorithmIdentifier oid parameters algorithm ∧
    Element 0x03 key bitString ∧ Element 0x30 (algorithm ++ bitString) bytes

/-- What can stand behind the key: an element with a tag of the context. -/
def Trailer (bytes : List UInt8) : Prop :=
  ∃ tag content, 0x80 ≤ tag.toNat ∧ tag.toNat < 0xc0 ∧ Element tag content bytes

/-- The parts of a certificate's body, for a key. -/
structure TbsCertificate (oid parameters key : List UInt8) where
  version : List UInt8
  serialNumber : List UInt8
  signature : List UInt8
  issuer : List UInt8
  validity : List UInt8
  subject : List UInt8
  subjectPublicKeyInfo : List UInt8
  trailers : List (List UInt8)
  hVersion : version = [] ∨ ∃ content, Element 0xa0 content version
  hSerialNumber : ∃ content, Element 0x02 content serialNumber
  hSignature : ∃ oid parameters, AlgorithmIdentifier oid parameters signature
  hIssuer : Name issuer
  hValidity : Validity validity
  hSubject : Name subject
  hSubjectPublicKeyInfo : SubjectPublicKeyInfo oid parameters key subjectPublicKeyInfo
  hTrailers : ∀ trailer ∈ trailers, Trailer trailer

def TbsCertificate.content {oid parameters key : List UInt8}
    (body : TbsCertificate oid parameters key) : List UInt8 :=
  body.version ++ (body.serialNumber ++ (body.signature ++ (body.issuer ++ (body.validity ++
    (body.subject ++ (body.subjectPublicKeyInfo ++ body.trailers.flatten))))))

/-- A certificate for a key. -/
def Certificate (oid parameters key der : List UInt8) : Prop :=
  ∃ (body : TbsCertificate oid parameters key) (tbsCertificate signatureAlgorithm signature :
      List UInt8),
    Element 0x30 body.content tbsCertificate ∧
      (∃ oid parameters, AlgorithmIdentifier oid parameters signatureAlgorithm) ∧
      (∃ content, Element 0x03 content signature) ∧
      Element 0x30 (tbsCertificate ++ (signatureAlgorithm ++ signature)) der

/-! ## Reading at a position -/

/-- What stands at a position, up to the end. -/
def Stands (der : List UInt8) (pos : Int) (rest : List UInt8) : Prop :=
  ∃ before, der = before ++ rest ∧ pos = before.length

theorem Stands.start (der : List UInt8) : Stands der 0 der := ⟨[], rfl, rfl⟩

section Standing

variable {der rest after bytes : List UInt8} {pos : Int}

theorem Stands.skip (h : Stands der pos (bytes ++ after)) :
    Stands der (pos + bytes.length) after := by
  obtain ⟨before, rfl, rfl⟩ := h
  refine ⟨before ++ bytes, (List.append_assoc _ _ _).symm, ?_⟩
  rw [List.length_append, Int.natCast_add]

theorem Stands.length (h : Stands der pos rest) : (der.length : Int) = pos + rest.length := by
  obtain ⟨before, rfl, rfl⟩ := h
  rw [List.length_append, Int.natCast_add]

theorem Stands.byteAt (h : Stands der pos rest) (i : Nat) :
    Verifier.byteAt der (pos + i) = rest[i]? := by
  obtain ⟨before, rfl, rfl⟩ := h
  exact byteAt_append before rest i

theorem Stands.byteAt_head (h : Stands der pos rest) : Verifier.byteAt der pos = rest.head? := by
  have hFirst := h.byteAt 0
  rwa [Int.natCast_zero, Int.add_zero, ← List.head?_eq_getElem?] at hFirst

theorem Stands.slice (h : Stands der pos (bytes ++ after)) :
    Verifier.slice der pos (pos + bytes.length) = bytes := by
  obtain ⟨before, rfl, rfl⟩ := h
  have hStop : ((before.length : Int) + bytes.length).toNat = before.length + bytes.length := by
    omega
  rw [Verifier.slice, hStop, Int.toNat_natCast, ← List.append_assoc, List.take_left' (by simp),
    List.drop_left]

theorem Stands.bytesMatch (h : Stands der pos rest) (pattern : List UInt8) :
    Verifier.bytesMatch der pos pattern = true ↔ pattern <+: rest := by
  have hLength := h.length
  unfold Verifier.bytesMatch
  split
  · next hLong =>
    refine iff_of_false Bool.false_ne_true fun hPrefix => ?_
    have hLe := hPrefix.length_le
    omega
  · rw [List.all_eq_true, List.prefix_iff_getElem?]
    constructor
    · intro hAll i hi
      have hSame := of_decide_eq_true (hAll i (List.mem_range.mpr hi))
      rw [h.byteAt] at hSame
      rw [hSame, List.getElem?_eq_getElem hi]
    · intro hAll i hi
      have hLt := List.mem_range.mp hi
      rw [decide_eq_true_eq, h.byteAt, hAll i hLt, List.getElem?_eq_getElem hLt]

theorem Stands.readLength {n : Nat} {lengths : List UInt8} (hLength : LengthOctets n lengths)
    (h : Stands der pos (lengths ++ after)) :
    Verifier.readLength der (Verifier.byteAt der pos) (pos + 1) =
      .ok (n, pos + lengths.length) := by
  have hFirst := h.byteAt_head
  cases hLength with
  | short hShort =>
    rw [hFirst]
    have hByte : (UInt8.ofNat n).toNat = n := by
      rw [UInt8.toNat_ofNat', Nat.mod_eq_of_lt (by omega)]
    have hLt : UInt8.ofNat n < 0x80 := UInt8.lt_iff_toNat_lt.mpr (by rw [hByte]; exact hShort)
    refine (if_pos hLt).trans ?_
    rw [hByte]
    rfl
  | @long octets hSome hFew hSmall =>
    have hPos := List.length_pos_iff.mpr hSome
    have hByte : (UInt8.ofNat (128 + octets.length)).toNat = 128 + octets.length := by
      rw [UInt8.toNat_ofNat', Nat.mod_eq_of_lt (by omega)]
    have hConst : (0x80 : UInt8).toNat = 128 := rfl
    have hNotShort : ¬ UInt8.ofNat (128 + octets.length) < 0x80 := by
      rw [UInt8.lt_iff_toNat_lt, hByte]
      omega
    have hNotIndefinite : UInt8.ofNat (128 + octets.length) ≠ 0x80 := by
      rw [Ne, ← UInt8.toNat_inj, hByte]
      omega
    have hCount : (UInt8.ofNat (128 + octets.length) &&& 0x7f).toNat = octets.length := by
      rw [toNat_and_0x7f hNotShort, hByte]
      omega
    have hTail : Stands der (pos + 1) (octets ++ after) :=
      @Stands.skip der (octets ++ after) [UInt8.ofNat (128 + octets.length)] pos h
    have hOctets : lengthBytes der (pos + 1) octets.length = octets := by
      refine List.ext_getElem (by simp [lengthBytes]) fun i hi hi' => ?_
      simp only [lengthBytes, List.getElem_map, List.getElem_range]
      rw [hTail.byteAt, List.getElem?_append_left hi', List.getElem?_eq_getElem hi',
        Option.getD_some]
    have hEnd := hTail.length
    rw [List.length_append] at hEnd
    rw [hFirst]
    refine (if_neg hNotShort).trans ((if_neg hNotIndefinite).trans ?_)
    rw [hCount, readLongLength, if_neg (by omega), if_neg (by omega), hOctets,
      toInt_of_small hSmall, List.length_cons]
    congr 2
    omega

theorem Stands.parseTlv {tag : UInt8} {content : List UInt8} (hElement : Element tag content bytes)
    (h : Stands der pos (bytes ++ after)) :
    ∃ contentStart, Verifier.parseTlv der pos =
        .ok ⟨some tag, contentStart, content.length, bytes.length⟩ ∧
      Stands der contentStart (content ++ after) := by
  have hTag := h.byteAt_head
  have hEnd := h.length
  rw [hElement.head?] at hTag
  obtain @⟨lengths, hLength⟩ := hElement
  -- the tag is one byte, the length is read behind it
  have hBehindTag : Stands der (pos + 1) (lengths ++ (content ++ after)) := by
    rw [← List.append_assoc]
    exact @Stands.skip der (lengths ++ content ++ after) [tag] pos h
  have hRead := hBehindTag.readLength hLength
  have hContent := hBehindTag.skip
  refine ⟨pos + 1 + lengths.length, ?_, hContent⟩
  simp only [List.length_append, List.length_cons] at hEnd ⊢
  have hSome := hLength.length_pos
  unfold Verifier.parseTlv
  dsimp only
  rw [if_neg (by omega), if_neg (by omega), hTag, hRead]
  dsimp only
  rw [if_neg (by omega)]
  refine congrArg Except.ok (Tlv.mk.injEq .. |>.mpr ⟨rfl, rfl, rfl, ?_⟩)
  omega

end Standing

/-! ## Elements that are passed by -/

/-- The bytes behind the beginning of a sequence do not look like an algorithm of elliptic curves:
they begin with no sequence, or with a sequence that begins with something else. -/
def Harmless (rest : List UInt8) : Prop :=
  rest.head? ≠ some 0x30 ∨
    ∃ content bytes after, Element 0x30 content bytes ∧ rest = bytes ++ after ∧
      ¬ ecPublicKeyOid <+: content ++ after

/-- A search that starts at one position goes on at the other. -/
def Skips (der : List UInt8) (rangeEnd pos pos' : Int) : Prop :=
  ∃ k, ∀ steps, findSpki der rangeEnd (k + steps) pos = findSpki der rangeEnd steps pos'

theorem Skips.refl (der : List UInt8) (rangeEnd pos : Int) : Skips der rangeEnd pos pos :=
  ⟨0, fun steps => by rw [Nat.zero_add]⟩

theorem Skips.trans {der : List UInt8} {rangeEnd pos pos' pos'' : Int}
    (h : Skips der rangeEnd pos pos') (h' : Skips der rangeEnd pos' pos'') :
    Skips der rangeEnd pos pos'' := by
  obtain ⟨k, hk⟩ := h
  obtain ⟨k', hk'⟩ := h'
  exact ⟨k + k', fun steps => by rw [Nat.add_assoc, hk, hk']⟩

/-- What is left of a range at a position, and what stands behind the range. -/
def Within (der : List UInt8) (rangeEnd : Int) (outside : List UInt8) (pos : Int)
    (inside : List UInt8) : Prop :=
  Stands der pos (inside ++ outside) ∧ rangeEnd = pos + inside.length

/-- The search comes to a position where this is left. -/
def Leads (der : List UInt8) (rangeEnd : Int) (outside : List UInt8) (pos : Int)
    (inside : List UInt8) : Prop :=
  ∃ pos', Skips der rangeEnd pos pos' ∧ Within der rangeEnd outside pos' inside

section Search

variable {der outside : List UInt8} {rangeEnd pos : Int} {start : Int}

/-- Behind a harmless beginning nothing is recognised. -/
theorem startsWithEcAlgorithm_of_harmless {rest : List UInt8} {tlv : Tlv}
    (hStands : Stands der tlv.contentStart rest) (hHarmless : Harmless rest) :
    startsWithEcAlgorithm der tlv = false := by
  unfold startsWithEcAlgorithm
  split
  · split
    · rfl
    -- the inner element is no sequence, or its content is known to be another
    · next innerTlv hParse =>
      rw [Bool.and_eq_false_iff, decide_eq_false_iff_not, ← Bool.not_eq_true]
      rcases hHarmless with hHead | ⟨content, bytes, after, hElement, rfl, hOther⟩
      · refine Or.inl fun hTag => hHead ?_
        rw [← hStands.byteAt_head, ← (parseTlv_spec hParse).1, hTag]
        rfl
      · obtain ⟨contentStart, hSame, hContent⟩ := hStands.parseTlv hElement
        rw [hParse, Except.ok.injEq] at hSame
        refine Or.inr fun hMatch => hOther ?_
        rw [hSame] at hMatch
        exact (hContent.bytesMatch _).mp hMatch
  · rfl

/-- An element of another kind, or with a harmless beginning, is passed by. -/
theorem Leads.skip {tag : UInt8} {content bytes inside : List UInt8}
    (h : Leads der rangeEnd outside start (bytes ++ inside)) (hElement : Element tag content bytes)
    (hOther : tag ≠ 0x30 ∨ Harmless (content ++ (inside ++ outside))) :
    Leads der rangeEnd outside start inside := by
  obtain ⟨pos, hSkips, hStands, hEnd⟩ := h
  rw [List.append_assoc] at hStands
  obtain ⟨contentStart, hParse, hContent⟩ := hStands.parseTlv hElement
  have hLength := hElement.length_pos
  rw [List.length_append] at hEnd
  refine ⟨pos + bytes.length, hSkips.trans ⟨1, fun steps => ?_⟩, hStands.skip, by omega⟩
  have hPassed : startsWithEcAlgorithm der ⟨some tag, contentStart, content.length, bytes.length⟩ =
      false := by
    rcases hOther with hTag | hHarmless
    · exact if_neg fun hSome => hTag (Option.some_inj.mp hSome)
    · exact startsWithEcAlgorithm_of_harmless hContent hHarmless
  rw [Nat.add_comm, findSpki, if_pos (by omega), hParse]
  dsimp only
  rw [hPassed, if_neg Bool.false_ne_true]

theorem Leads.nothing (h : Leads der rangeEnd outside start []) :
    ∃ n, ∀ steps, n ≤ steps → findSpki der rangeEnd steps start = some none := by
  obtain ⟨pos, ⟨k, hk⟩, _, hEnd⟩ := h
  rw [List.length_nil] at hEnd
  refine ⟨k + 1, fun steps hSteps => ?_⟩
  obtain ⟨more, rfl⟩ := Nat.exists_eq_add_of_le hSteps
  rw [Nat.add_assoc, hk, Nat.add_comm, findSpki, if_neg (by omega)]

/-- A sequence that begins with an algorithm of elliptic curves is found. -/
theorem Leads.found {content inner bytes algorithm more inside : List UInt8}
    (h : Leads der rangeEnd outside start (bytes ++ inside)) (hElement : Element 0x30 content bytes)
    (hContent : content = algorithm ++ more) (hAlgorithm : Element 0x30 inner algorithm)
    (hOid : ecPublicKeyOid <+: inner) :
    ∃ n spki, (∀ steps, n ≤ steps → findSpki der rangeEnd steps start = some (some spki)) ∧
      Stands der spki.contentStart (algorithm ++ (more ++ (inside ++ outside))) := by
  obtain ⟨pos, ⟨k, hk⟩, hStands, hEnd⟩ := h
  rw [List.append_assoc] at hStands
  obtain ⟨contentStart, hParse, hBehind⟩ := hStands.parseTlv hElement
  have hLength := hElement.length_pos
  rw [List.length_append] at hEnd
  rw [hContent, List.append_assoc] at hBehind
  obtain ⟨innerStart, hInner, hInside⟩ := hBehind.parseTlv hAlgorithm
  refine ⟨k + 1, ⟨some 0x30, contentStart, content.length, bytes.length⟩, fun steps hSteps => ?_,
    hBehind⟩
  -- the element inside is the algorithm, and its content begins with the identifier
  have hStarts : startsWithEcAlgorithm der
      ⟨some 0x30, contentStart, content.length, bytes.length⟩ = true := by
    refine (if_pos rfl).trans ?_
    dsimp only
    rw [hInner]
    exact (hInside.bytesMatch _).mpr (hOid.trans (List.prefix_append _ _))
  obtain ⟨rest, rfl⟩ := Nat.exists_eq_add_of_le hSteps
  rw [Nat.add_assoc, hk, Nat.add_comm, findSpki, if_pos (by omega), hParse]
  dsimp only
  rw [if_pos hStarts]

end Search

/-! ## The parts of a certificate -/

theorem Time.head? {bytes : List UInt8} (h : Time bytes) (rest : List UInt8) :
    (bytes ++ rest).head? = some 0x17 ∨ (bytes ++ rest).head? = some 0x18 := by
  obtain ⟨content, hElement | hElement⟩ := h
  · exact Or.inl (hElement.head? rest)
  · exact Or.inr (hElement.head? rest)

/-- A list with another first byte does not begin with an identifier of an algorithm. -/
theorem not_prefix_of_head {pattern rest : List UInt8} (hPattern : pattern.head? = some 0x06)
    (hRest : rest.head? ≠ some 0x06) : ¬ pattern <+: rest := by
  rintro ⟨after, rfl⟩
  rw [List.head?_append, hPattern] at hRest
  exact hRest rfl

/-- A sequence with a harmless beginning, followed by anything. -/
theorem AlgorithmIdentifier.harmless {oid parameters bytes : List UInt8}
    (h : AlgorithmIdentifier oid parameters bytes) (after : List UInt8) :
    Harmless ((oid ++ parameters) ++ after) := by
  obtain ⟨⟨content, hOid⟩, _, _⟩ := h
  refine Or.inl ?_
  rw [List.append_assoc, hOid.head?]
  decide

theorem Validity.harmless {notBefore notAfter : List UInt8} (h : Time notBefore)
    (after : List UInt8) : Harmless ((notBefore ++ notAfter) ++ after) := by
  refine Or.inl ?_
  rw [List.append_assoc]
  rcases h.head? (notAfter ++ after) with hHead | hHead <;> rw [hHead] <;> decide

/-- A name without parts lets the search see what follows it; the other names begin with a set. -/
theorem Name.harmless {parts : List (List UInt8)}
    (h : ∀ part ∈ parts, ∃ content, Element 0x31 content part) {after : List UInt8}
    (hAfter : Harmless after) : Harmless (parts.flatten ++ after) := by
  cases parts with
  | nil => exact hAfter
  | cons part parts =>
    obtain ⟨content, hPart⟩ := h part List.mem_cons_self
    refine Or.inl ?_
    rw [List.flatten_cons, List.append_assoc, hPart.head?]
    decide

theorem ecPublicKeyOid_element : Element 0x06 (ecPublicKeyOid.drop 2) ecPublicKeyOid :=
  @Element.mk 0x06 (ecPublicKeyOid.drop 2) [0x07] (.short (by decide))

theorem secp256r1Oid_element : Element 0x06 (secp256r1Oid.drop 2) secp256r1Oid :=
  @Element.mk 0x06 (secp256r1Oid.drop 2) [0x08] (.short (by decide))

theorem eq_of_begins {tag tag' : UInt8} {content content' bytes bytes' after : List UInt8}
    (h : Element tag content bytes) (h' : Element tag' content' bytes')
    (hPrefix : bytes <+: bytes' ++ after) : bytes = bytes' := by
  obtain ⟨rest, hSame⟩ := hPrefix
  exact h.unique h' hSame

/-- The parameters of an algorithm, or what follows where there are none, name the curve only when
they are the curve. -/
theorem curve_of_begins {parameters key bitString after : List UInt8}
    (hParameters : parameters = [] ∨ AnyElement parameters)
    (hBitString : Element 0x03 key bitString)
    (hPrefix : secp256r1Oid <+: parameters ++ (bitString ++ after)) :
    parameters = secp256r1Oid := by
  rcases hParameters with rfl | hAny
  · have hHead := hBitString.head? after
    exact absurd hPrefix (not_prefix_of_head rfl (by rw [List.nil_append, hHead]; decide))
  · cases hAny with
    | single hElement => exact (eq_of_begins secp256r1Oid_element hElement hPrefix).symm
    | @high tag rest hTag =>
      -- a tag of several octets does not begin like an identifier
      refine absurd hPrefix (not_prefix_of_head rfl ?_)
      rw [List.cons_append, List.head?_cons, Ne, Option.some_inj]
      rintro rfl
      exact absurd hTag (by decide)

/-! ## The search in a certificate -/

section Body

variable {oid parameters key : List UInt8} {body : TbsCertificate oid parameters key}
variable {der outside : List UInt8} {rangeEnd start : Int}

/-- The search comes as far as the key. -/
theorem leads_to_key (h : Leads der rangeEnd outside start body.content) :
    Leads der rangeEnd outside start (body.subjectPublicKeyInfo ++ body.trailers.flatten) := by
  obtain ⟨serial, hSerial⟩ := body.hSerialNumber
  obtain ⟨_, _, hSignature⟩ := body.hSignature
  obtain ⟨issuerParts, hIssuerParts, hIssuer⟩ := body.hIssuer
  obtain ⟨notBefore, notAfter, hBefore, _, hValidity⟩ := body.hValidity
  obtain ⟨subjectParts, hSubjectParts, hSubject⟩ := body.hSubject
  obtain ⟨algorithm, bitString, hAlgorithm, _, hKey⟩ := body.hSubjectPublicKeyInfo
  have hVersion : Leads der rangeEnd outside start (body.serialNumber ++ (body.signature ++
      (body.issuer ++ (body.validity ++ (body.subject ++ (body.subjectPublicKeyInfo ++
        body.trailers.flatten)))))) := by
    unfold TbsCertificate.content at h
    rcases body.hVersion with hNone | ⟨content, hSome⟩
    · rwa [hNone, List.nil_append] at h
    · exact h.skip hSome (Or.inl (by decide))
  have hAlgorithmPart := hVersion.skip hSerial (Or.inl (by decide))
  have hIssuerPart := hAlgorithmPart.skip hSignature.2.2 (Or.inr (hSignature.harmless _))
  -- an empty issuer lets the search see the validity
  have hSeesValidity : Harmless (body.validity ++ (body.subject ++ (body.subjectPublicKeyInfo ++
      body.trailers.flatten)) ++ outside) := by
    refine Or.inr ⟨_, _, _, hValidity, List.append_assoc _ _ _, not_prefix_of_head rfl ?_⟩
    rw [List.append_assoc]
    rcases hBefore.head? (notAfter ++ (body.subject ++ (body.subjectPublicKeyInfo ++
      body.trailers.flatten) ++ outside)) with hHead | hHead <;> rw [hHead] <;> decide
  have hValidityPart :=
    hIssuerPart.skip hIssuer (Or.inr (Name.harmless hIssuerParts hSeesValidity))
  have hSubjectPart := hValidityPart.skip hValidity (Or.inr (Validity.harmless hBefore _))
  -- an empty subject lets it see the key, one level too high
  have hSeesKey : Harmless (body.subjectPublicKeyInfo ++ body.trailers.flatten ++ outside) := by
    refine Or.inr ⟨_, _, _, hKey, List.append_assoc _ _ _, not_prefix_of_head rfl ?_⟩
    rw [List.append_assoc, hAlgorithm.2.2.head?]
    decide
  exact hSubjectPart.skip hSubject (Or.inr (Name.harmless hSubjectParts hSeesKey))

/-- What stands behind the key is passed by. -/
theorem Leads.skipTrailers {trailers : List (List UInt8)}
    (hTrailers : ∀ trailer ∈ trailers, Trailer trailer)
    (h : Leads der rangeEnd outside start trailers.flatten) :
    Leads der rangeEnd outside start [] := by
  induction trailers with
  | nil => exact h
  | cons trailer trailers ih =>
    obtain ⟨tag, content, hLow, _, hElement⟩ := hTrailers trailer List.mem_cons_self
    refine ih (fun other hMem => hTrailers other (List.mem_cons_of_mem trailer hMem)) ?_
    refine h.skip hElement (Or.inl ?_)
    rintro rfl
    exact absurd hLow (by decide)

theorem nothing_found (h : Leads der rangeEnd outside start body.content)
    (hOther : oid ≠ ecPublicKeyOid) :
    ∃ n, ∀ steps, n ≤ steps → findSpki der rangeEnd steps start = some none := by
  obtain ⟨algorithm, bitString, hAlgorithm, _, hKey⟩ := body.hSubjectPublicKeyInfo
  obtain ⟨⟨content, hOid⟩, _, hSequence⟩ := hAlgorithm
  refine (Leads.skipTrailers body.hTrailers ((leads_to_key h).skip hKey (Or.inr ?_))).nothing
  refine Or.inr ⟨_, _, _, hSequence, List.append_assoc _ _ _, fun hPrefix => hOther ?_⟩
  rw [List.append_assoc] at hPrefix
  exact (eq_of_begins ecPublicKeyOid_element hOid hPrefix).symm

end Body

theorem readSpki_cases {der parameters key algorithm bitString after : List UInt8} {spki : Tlv}
    (hAlgorithm : AlgorithmIdentifier ecPublicKeyOid parameters algorithm)
    (hBitString : Element 0x03 key bitString)
    (hStands : Stands der spki.contentStart (algorithm ++ (bitString ++ after))) :
    (parameters ≠ secp256r1Oid →
        readSpki der spki = .error "Curve is not secp256r1 (P-256)") ∧
      ∀ point : List UInt8, parameters = secp256r1Oid → key = 0 :: point → point.length = 65 →
        point.head? = some 0x04 → readSpki der spki = .ok point := by
  obtain ⟨_, hParameters, hSequence⟩ := hAlgorithm
  obtain ⟨algStart, hAlg, hInside⟩ := hStands.parseTlv hSequence
  rw [List.append_assoc] at hInside
  have hEc : bytesMatch der algStart ecPublicKeyOid = true :=
    (hInside.bytesMatch _).mpr (List.prefix_append _ _)
  have hCurve := hInside.skip.bytesMatch secp256r1Oid
  constructor
  · intro hOther
    -- without parameters the comparison reads the bit string, which begins otherwise
    have hNone : bytesMatch der (algStart + ecPublicKeyOid.length) secp256r1Oid = false := by
      rw [← Bool.not_eq_true, hCurve]
      exact fun hPrefix => hOther (curve_of_begins hParameters hBitString hPrefix)
    unfold readSpki
    rw [hAlg]
    dsimp only
    rw [hEc, if_neg (by decide), if_pos hNone]
  · rintro point rfl rfl hPoint hFirst
    have hSome := hCurve.mpr (List.prefix_append _ _)
    obtain ⟨keyStart, hBits, hKey⟩ := hStands.skip.parseTlv hBitString
    have hUnused := hKey.byteAt_head
    have hPublicKey := (@Stands.skip der (point ++ after) [0] keyStart hKey).slice
    rw [hPoint] at hPublicKey
    unfold readSpki
    rw [hAlg]
    dsimp only
    rw [hEc, if_neg (by decide), hSome, if_neg (by decide), hBits]
    dsimp only
    have hLength : ((0 :: point).length : Int) - 1 = p256UncompressedLength := by
      rw [List.length_cons, hPoint]
      rfl
    rw [if_neg (by decide), hUnused, List.cons_append, List.head?_cons, if_neg (by decide), hLength,
      if_neg (by decide)]
    rw [← List.head?_eq_getElem?]
    have hSlice : slice der (keyStart + 1) (keyStart + 1 + p256UncompressedLength) = point :=
      hPublicKey
    rw [hSlice, hFirst, if_neg (by decide)]

/-- The key of a certificate with a point of the curve is that point, and the key of a certificate
with another algorithm is refused. -/
theorem extract_exact {certBase64 : String} {der oid parameters key : List UInt8}
    (hBytes : Base64.atob certBase64 = some der)
    (hCertificate : Certificate oid parameters key der) :
    (∀ point : List UInt8, oid = ecPublicKeyOid → parameters = secp256r1Oid → key = 0 :: point →
        point.length = 65 → point.head? = some 0x04 →
        ∃ n, ∀ steps, n ≤ steps → extractP256PublicKey steps certBase64 = some (.ok point)) ∧
      (¬ (oid = ecPublicKeyOid ∧ parameters = secp256r1Oid) →
        ∃ n reason, ∀ steps, n ≤ steps →
          extractP256PublicKey steps certBase64 = some (.error reason)) := by
  obtain ⟨body, tbsCertificate, signatureAlgorithm, signature, hBody, _, _, hDer⟩ := hCertificate
  have hAll : Stands der 0 (der ++ []) := by
    rw [List.append_nil]
    exact Stands.start der
  obtain ⟨certStart, hCert, hInside⟩ := hAll.parseTlv hDer
  rw [List.append_nil] at hInside
  obtain ⟨tbsStart, hTbs, hContent⟩ := hInside.parseTlv hBody
  have hExtract : ∀ steps found,
      findSpki der (tbsStart + body.content.length) steps tbsStart = some found →
        extractP256PublicKey steps certBase64 =
          some (found.elim (.error "subjectPublicKeyInfo with EC algorithm not found")
            (readSpki der)) := by
    intro steps found hSearch
    rw [extract_of_atob hBytes, extractFromDer, hCert]
    refine (if_neg fun hOther => hOther rfl).trans ?_
    dsimp only
    rw [hTbs]
    refine (if_neg fun hOther => hOther rfl).trans ?_
    rw [hSearch]
    cases found <;> rfl
  have hStart : Leads der (tbsStart + body.content.length) (signatureAlgorithm ++ signature)
      tbsStart body.content :=
    ⟨tbsStart, Skips.refl _ _ _, hContent, rfl⟩
  -- with an algorithm of elliptic curves the search finds the key
  have hFound : oid = ecPublicKeyOid → ∃ n spki algorithm bitString after,
      (∀ steps, n ≤ steps → extractP256PublicKey steps certBase64 = some (readSpki der spki)) ∧
        AlgorithmIdentifier oid parameters algorithm ∧ Element 0x03 key bitString ∧
        Stands der spki.contentStart (algorithm ++ (bitString ++ after)) := by
    intro hOid
    obtain ⟨algorithm, bitString, hAlgorithm, hBitString, hKey⟩ := body.hSubjectPublicKeyInfo
    have hPrefix : ecPublicKeyOid <+: oid ++ parameters := by
      rw [hOid]
      exact List.prefix_append _ _
    obtain ⟨n, spki, hSearch, hStands⟩ :=
      (leads_to_key hStart).found hKey rfl hAlgorithm.2.2 hPrefix
    refine ⟨n, spki, algorithm, bitString, _, fun steps hSteps => ?_, hAlgorithm, hBitString,
      hStands⟩
    exact hExtract steps _ (hSearch steps hSteps)
  constructor
  · rintro point hOid hCurve hKey hPoint hFirst
    obtain ⟨n, spki, algorithm, bitString, after, hReturns, hAlgorithm, hBitString, hStands⟩ :=
      hFound hOid
    refine ⟨n, fun steps hSteps => ?_⟩
    rw [hOid] at hAlgorithm
    rw [hReturns steps hSteps,
      (readSpki_cases hAlgorithm hBitString hStands).2 point hCurve hKey hPoint hFirst]
  · intro hOther
    by_cases hOid : oid = ecPublicKeyOid
    · obtain ⟨n, spki, algorithm, bitString, after, hReturns, hAlgorithm, hBitString, hStands⟩ :=
        hFound hOid
      refine ⟨n, "Curve is not secp256r1 (P-256)", fun steps hSteps => ?_⟩
      rw [hOid] at hAlgorithm
      rw [hReturns steps hSteps, (readSpki_cases hAlgorithm hBitString hStands).1
        fun hCurve => hOther ⟨hOid, hCurve⟩]
    · obtain ⟨n, hSearch⟩ := nothing_found hStart hOid
      refine ⟨n, "subjectPublicKeyInfo with EC algorithm not found", fun steps hSteps => ?_⟩
      exact hExtract steps _ (hSearch steps hSteps)

/-! ## A certificate with empty names -/

def samplePoint : List UInt8 := 0x04 :: List.replicate 64 0x01

def sampleAlgorithm : List UInt8 := element 0x30 (ecPublicKeyOid ++ secp256r1Oid)

/-- The body of a certificate that names neither its issuer nor its subject. -/
def sampleBody : TbsCertificate ecPublicKeyOid secp256r1Oid (0 :: samplePoint) :=
  have hAlgorithm : AlgorithmIdentifier ecPublicKeyOid secp256r1Oid sampleAlgorithm :=
    ⟨⟨_, ecPublicKeyOid_element⟩, Or.inr (.single secp256r1Oid_element),
      element_valid (by decide)⟩
  have hName : Name (element 0x30 []) := ⟨[], by simp, element_valid (by decide)⟩
  have hTime : Time (element 0x17 [0x5a]) := ⟨_, Or.inl (element_valid (by decide))⟩
  { version := element 0xa0 [0x02, 0x01, 0x02]
    serialNumber := element 0x02 [0x01]
    signature := sampleAlgorithm
    issuer := element 0x30 []
    validity := element 0x30 (element 0x17 [0x5a] ++ element 0x17 [0x5a])
    subject := element 0x30 []
    subjectPublicKeyInfo := element 0x30 (sampleAlgorithm ++ element 0x03 (0 :: samplePoint))
    trailers := [element 0xa3 []]
    hVersion := Or.inr ⟨_, element_valid (by decide)⟩
    hSerialNumber := ⟨_, element_valid (by decide)⟩
    hSignature := ⟨_, _, hAlgorithm⟩
    hIssuer := hName
    hValidity := ⟨_, _, hTime, hTime, element_valid (by decide)⟩
    hSubject := hName
    hSubjectPublicKeyInfo :=
      ⟨_, _, hAlgorithm, element_valid (by decide), element_valid (by decide)⟩
    hTrailers := by
      intro trailer hMem
      rw [List.mem_singleton.mp hMem]
      exact ⟨0xa3, [], by decide, by decide, element_valid (by decide)⟩ }

def sampleCertificate : List UInt8 :=
  element 0x30 (element 0x30 sampleBody.content ++ (sampleAlgorithm ++ element 0x03 [0x00]))

set_option maxRecDepth 20000 in
theorem sampleCertificate_valid :
    Certificate ecPublicKeyOid secp256r1Oid (0 :: samplePoint) sampleCertificate :=
  ⟨sampleBody, _, _, _, element_valid (by decide), sampleBody.hSignature,
    ⟨_, element_valid (by decide)⟩, element_valid (by decide)⟩

theorem extract_exact_sample : ∃ n, ∀ steps, n ≤ steps →
    extractP256PublicKey steps (Base64.encode sampleCertificate) = some (.ok samplePoint) :=
  (extract_exact (Base64.atob_encode sampleCertificate) sampleCertificate_valid).1 samplePoint rfl
    rfl rfl (by decide) rfl

end Verifier
end Signet
