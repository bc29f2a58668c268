import Signet.Core.InviteCrypto

/-!
# Compressed invites

Bytes are compressed when that makes them shorter.  Compressed bytes begin with a marker and with
the size of what they hold; other bytes are left as they are, whatever they begin with.

* `Header` — the parts of bytes that begin with the marker.
* `decompress_header`, `decompress_unmarked` — the two ways of reading.
* `compression_iff` — which bytes come back, how long a result can be, and when it has the size
  that is declared for it.
-/

namespace Signet
namespace Core

open Kit Schemas

variable {host : CryptoHost} {config : InviteCryptoConfig} {field : String}

/-- Bytes that begin with the marker, four bytes of a size, and the compressed form. -/
def Header (config : InviteCryptoConfig) (data : Bytes) (declaredSize : Nat)
    (compressed : Bytes) : Prop :=
  ∃ a b c d : UInt8, data = config.compressionMarker :: a :: b :: c :: d :: compressed ∧
    declaredSize = a.toNat * 0x1000000 + b.toNat * 0x10000 + c.toNat * 0x100 + d.toNat

variable {data result : Bytes}

theorem Header.unique {compressed compressed' : Bytes} {declaredSize declaredSize' : Nat}
    (h : Header config data declaredSize compressed)
    (h' : Header config data declaredSize' compressed') :
    declaredSize = declaredSize' ∧ compressed = compressed' := by
  obtain ⟨a, b, c, d, rfl, rfl⟩ := h
  obtain ⟨a', b', c', d', hSame, rfl⟩ := h'
  simp only [List.cons.injEq, true_and] at hSame
  obtain ⟨rfl, rfl, rfl, rfl, rfl⟩ := hSame
  exact ⟨rfl, rfl⟩

/-- Bytes without the marker are taken as they are. -/
theorem decompress_unmarked (h : data.head? ≠ some config.compressionMarker) :
    decompress host config field data = .ok data := by
  cases data with
  | nil => rfl
  | cons byte rest => exact if_pos fun hSame => h (by rw [hSame]; rfl)

/-- Bytes behind a header are inflated, when neither the size nor the result is too large. -/
theorem decompress_header {compressed : Bytes} {declaredSize : Nat}
    (h : Header config data declaredSize compressed) :
    decompress host config field data = .ok result ↔
      declaredSize ≤ config.maxDecompressedSize ∧
        host.inflate config.maxDecompressedSize compressed = .ok result ∧
        result.length ≤ config.maxDecompressedSize := by
  obtain ⟨a, b, c, d, rfl, rfl⟩ := h
  simp only [decompress, ne_eq, not_true_eq_false, if_false]
  by_cases hDeclared : a.toNat * 0x1000000 + b.toNat * 0x10000 + c.toNat * 0x100 + d.toNat >
      config.maxDecompressedSize
  · rw [if_pos hDeclared]
    refine iff_of_false ?_ fun hAll => by omega
    intro hOk
    cases hOk
  · rw [if_neg hDeclared]
    cases hInflate : host.inflate config.maxDecompressedSize compressed with
    | error cause =>
      refine iff_of_false ?_ ?_
      · intro hOk
        cases hOk
      · rintro ⟨_, hOk, _⟩
        cases hOk
    | ok inflated =>
      dsimp only
      by_cases hLong : inflated.length > config.maxDecompressedSize
      · rw [if_pos hLong]
        refine iff_of_false ?_ ?_
        · intro hOk
          cases hOk
        · rintro ⟨_, hOk, hShort⟩
          cases hOk
          omega
      · rw [if_neg hLong]
        constructor
        · intro hOk
          cases hOk
          exact ⟨by omega, rfl, by omega⟩
        · rintro ⟨_, hOk, _⟩
          cases hOk
          rfl

theorem header_of_ok (hMarked : data.head? = some config.compressionMarker)
    (h : decompress host config field data = .ok result) :
    ∃ declaredSize compressed, Header config data declaredSize compressed := by
  match data with
  | [] => cases hMarked
  | [_] | [_, _] | [_, _, _] | [_, _, _, _] =>
    obtain rfl := Option.some.inj hMarked
    simp [decompress] at h
  | _ :: a :: b :: c :: d :: compressed =>
    obtain rfl := Option.some.inj hMarked
    exact ⟨_, compressed, a, b, c, d, rfl, rfl⟩

/-- Compressing makes the bytes shorter, and they are long enough for it. -/
def Shrinks (host : CryptoHost) (config : InviteCryptoConfig) (data : Bytes) : Prop :=
  config.compressionThresholdBytes < data.length ∧ (host.deflate data).length + 5 < data.length

theorem compress_of_not_shrinks (h : ¬ Shrinks host config data) :
    compress host config data = data := by
  unfold compress
  split
  · rfl
  · next hLong =>
    exact if_neg fun hShort => h ⟨Nat.lt_of_not_le hLong, hShort⟩

theorem header_of_shrinks (h : Shrinks host config data) :
    ∃ declaredSize ≤ data.length,
      Header config (compress host config data) declaredSize (host.deflate data) := by
  have hCompress : compress host config data =
      config.compressionMarker :: (sizeBytes data.length ++ host.deflate data) := by
    unfold compress
    rw [if_neg (Nat.not_le.mpr h.1)]
    exact if_pos h.2
  -- a size of more than 32 bits loses its high bits
  refine ⟨_, ?_, _, _, _, _, hCompress, rfl⟩
  simp only [UInt8.toNat_ofNat']
  omega

/-- The bytes say of themselves that they are compressed, and inflate to themselves. -/
def InflatesToItself (host : CryptoHost) (config : InviteCryptoConfig) (data : Bytes) : Prop :=
  ∃ declaredSize compressed, Header config data declaredSize compressed ∧
    declaredSize ≤ config.maxDecompressedSize ∧
    host.inflate config.maxDecompressedSize compressed = .ok data

theorem comes_back_iff (hInflate : ∀ data : Bytes, data.length ≤ config.maxDecompressedSize →
      host.inflate config.maxDecompressedSize (host.deflate data) = .ok data)
    (hShort : data.length ≤ config.maxDecompressedSize) :
    decompress host config field (compress host config data) = .ok data ↔
      Shrinks host config data ∨ data.head? ≠ some config.compressionMarker ∨
        InflatesToItself host config data := by
  by_cases hShrinks : Shrinks host config data
  · obtain ⟨declaredSize, hDeclared, hHeader⟩ := header_of_shrinks hShrinks
    -- the declared size is no larger than the bytes, so it passes the limit
    refine iff_of_true ?_ (Or.inl hShrinks)
    exact (decompress_header hHeader).mpr ⟨by omega, hInflate data hShort, hShort⟩
  · rw [compress_of_not_shrinks hShrinks, or_iff_right hShrinks]
    by_cases hMarked : data.head? = some config.compressionMarker
    · rw [or_iff_right (not_not.mpr hMarked)]
      constructor
      · intro hOk
        obtain ⟨declaredSize, compressed, hHeader⟩ := header_of_ok hMarked hOk
        obtain ⟨hDeclared, hResult, _⟩ := (decompress_header hHeader).mp hOk
        exact ⟨declaredSize, compressed, hHeader, hDeclared, hResult⟩
      · rintro ⟨declaredSize, compressed, hHeader, hDeclared, hResult⟩
        exact (decompress_header hHeader).mpr ⟨hDeclared, hResult, hShort⟩
    · exact iff_of_true (decompress_unmarked hMarked) (Or.inl hMarked)

/-- A result is no longer than the limit, or than what has been read. -/
theorem length_of_decompress (h : decompress host config field data = .ok result) :
    result.length ≤ max config.maxDecompressedSize data.length := by
  by_cases hMarked : data.head? = some config.compressionMarker
  · obtain ⟨declaredSize, compressed, hHeader⟩ := header_of_ok hMarked h
    exact Nat.le_trans ((decompress_header hHeader).mp h).2.2 (Nat.le_max_left _ _)
  · rw [decompress_unmarked hMarked, Except.ok.injEq] at h
    rw [h]
    exact Nat.le_max_right _ _

/-- Bytes of the allowed size come back exactly when they are compressed, do not begin with the
marker, or inflate to themselves.  No result is longer than allowed; behind a marker it has the
size that is declared exactly when the compressed form was made of as many bytes. -/
theorem compression_iff (host : CryptoHost) (config : InviteCryptoConfig) (field : String)
    (hInflate : ∀ data : Bytes, data.length ≤ config.maxDecompressedSize →
      host.inflate config.maxDecompressedSize (host.deflate data) = .ok data) :
    (∀ data : Bytes, data.length ≤ config.maxDecompressedSize →
        (decompress host config field (compress host config data) = .ok data ↔
          Shrinks host config data ∨ data.head? ≠ some config.compressionMarker ∨
            InflatesToItself host config data)) ∧
      (∀ data result, decompress host config field data = .ok result →
        result.length ≤ max config.maxDecompressedSize data.length) ∧
      ∀ data, data.head? = some config.compressionMarker →
        ((∀ result, decompress host config field data = .ok result →
            ∃ compressed, Header config data result.length compressed) ↔
          ∀ declaredSize compressed inflated, Header config data declaredSize compressed →
            declaredSize ≤ config.maxDecompressedSize →
            host.inflate config.maxDecompressedSize compressed = .ok inflated →
            inflated.length ≤ config.maxDecompressedSize → inflated.length = declaredSize) := by
  refine ⟨fun data hShort => comes_back_iff hInflate hShort,
    fun data result hOk => length_of_decompress hOk, fun data hMarked => ?_⟩
  constructor
  · intro hDeclares declaredSize compressed inflated hHeader hDeclared hInflated hShort
    obtain ⟨compressed', hHeader'⟩ :=
      hDeclares inflated ((decompress_header hHeader).mpr ⟨hDeclared, hInflated, hShort⟩)
    exact (hHeader.unique hHeader').1.symm
  · intro hSizes result hOk
    obtain ⟨declaredSize, compressed, hHeader⟩ := header_of_ok hMarked hOk
    obtain ⟨hDeclared, hInflated, hShort⟩ := (decompress_header hHeader).mp hOk
    have hSize := hSizes declaredSize compressed result hHeader hDeclared hInflated hShort
    exact ⟨compressed, hSize ▸ hHeader⟩

/-! ## A host that compresses two messages -/

def sevens : Bytes := List.replicate 24 7

def deflatedSevens : Bytes := [120, 156, 99, 103, 199, 14, 0, 8, 76, 0, 169]

def deflatedSeven : Bytes := [120, 156, 99, 7, 0, 0, 8, 0, 8]

/-- The compressed forms of the two messages; other messages are put behind a zero. -/
def deflateSevens (data : Bytes) : Bytes :=
  if data = sevens then deflatedSevens else if data = [7] then deflatedSeven else 0 :: data

def inflateSevens (data : Bytes) : Bytes :=
  if data = deflatedSevens then sevens else if data = deflatedSeven then [7] else data.tail

theorem inflateSevens_deflateSevens (data : Bytes) :
    inflateSevens (deflateSevens data) = data := by
  unfold deflateSevens
  by_cases hSevens : data = sevens
  · rw [if_pos hSevens, inflateSevens, if_pos rfl, hSevens]
  · rw [if_neg hSevens]
    by_cases hSeven : data = [7]
    · rw [if_pos hSeven, inflateSevens, if_neg (by decide), if_pos rfl, hSeven]
    · have hSevens' : (0 :: data : Bytes) ≠ deflatedSevens := fun hSame => nomatch hSame
      have hSeven' : (0 :: data : Bytes) ≠ deflatedSeven := fun hSame => nomatch hSame
      rw [if_neg hSeven, inflateSevens, if_neg hSevens', if_neg hSeven', List.tail_cons]

def sevensHost : CryptoHost where
  hkdf := fun key _ _ => key
  encrypt := fun _ _ _ plaintext => plaintext
  decrypt := fun _ _ _ ciphertext => .ok ciphertext
  sha256 := fun data => data
  sign := fun _ key => .ok (key, 0)
  recoverPublicKey := fun _ compact _ => .ok compact
  getPublicKey := fun key => .ok key
  deflate := deflateSevens
  inflate := fun limit data =>
    if (inflateSevens data).length ≤ limit then .ok (inflateSevens data) else .error "too large"

theorem sevensHost_inflate (limit : Nat) (h : data.length ≤ limit) :
    sevensHost.inflate limit (sevensHost.deflate data) = .ok data := by
  have hSame := inflateSevens_deflateSevens data
  have hResult : sevensHost.inflate limit (sevensHost.deflate data) =
      if (inflateSevens (deflateSevens data)).length ≤ limit then
        .ok (inflateSevens (deflateSevens data))
      else .error "too large" := rfl
  rw [hResult, hSame, if_pos h]

/-- A configuration that compresses short messages. -/
def sevensConfig : InviteCryptoConfig := { salt := "sevens", compressionThresholdBytes := 16 }

theorem compression_iff_sevens :
    decompress sevensHost sevensConfig "inviteData" (compress sevensHost sevensConfig sevens) =
      .ok sevens := by
  have hInflate : ∀ data : Bytes, data.length ≤ sevensConfig.maxDecompressedSize →
      sevensHost.inflate sevensConfig.maxDecompressedSize (sevensHost.deflate data) = .ok data :=
    fun _ hShort => sevensHost_inflate _ hShort
  have hLength : sevens.length = 24 := rfl
  have hMax : sevensConfig.maxDecompressedSize = 1048576 := rfl
  have hShrinks : Shrinks sevensHost sevensConfig sevens := ⟨by decide, by decide⟩
  have hShort : sevens.length ≤ sevensConfig.maxDecompressedSize := by omega
  exact ((compression_iff sevensHost sevensConfig "inviteData" hInflate).1 sevens hShort).mpr
    (Or.inl hShrinks)

/-- One byte that is the marker is left as it is and not read again, and a compressed form is read
that declares no bytes and holds one. -/
theorem marker_is_ambiguous :
    compress sevensHost convosInviteCrypto [0x1f] = [0x1f] ∧
      decompress sevensHost convosInviteCrypto "inviteData" [0x1f] =
        .error (ValidationError.create "inviteData" "Compressed invite data is truncated") ∧
      decompress sevensHost convosInviteCrypto "inviteData"
        ([0x1f, 0x00, 0x00, 0x00, 0x00] ++ deflatedSeven) = .ok [7] := by
  have hMax : convosInviteCrypto.maxDecompressedSize = 1048576 := rfl
  have hShort : ([7] : Bytes).length ≤ convosInviteCrypto.maxDecompressedSize := by
    rw [hMax]
    decide
  have hHeader : Header convosInviteCrypto ([0x1f, 0x00, 0x00, 0x00, 0x00] ++ deflatedSeven) 0
      deflatedSeven := ⟨0, 0, 0, 0, rfl, rfl⟩
  exact ⟨rfl, rfl, (decompress_header hHeader).mpr
    ⟨Nat.zero_le _, sevensHost_inflate _ hShort, hShort⟩⟩

end Core
end Signet
