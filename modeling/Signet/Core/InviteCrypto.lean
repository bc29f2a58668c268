import Signet.Kit.Utf8
import Signet.Schemas.Errors

/-!
# The cryptography of invites

The primitives an onboarding scheme shares: encrypted tokens, recoverable signatures
and the optional compression of an invite.  The algorithms behind them come from
libraries and are given by `CryptoHost`.

* `hexToBytes`, `bytesToHex`
* `encryptToken`, `decryptToken`
* `sign`, `verifySignatureMatchesKey`
* `compress`, `decompress`
-/

namespace Signet
namespace Core

open Kit Schemas

/-- Bytes of a `Uint8Array`. -/
abbrev Bytes := List UInt8

/-! ## Hexadecimal -/

/-- The value of a hexadecimal digit in either case. -/
def hexValue (c : Char) : Option Nat :=
  if '0' ≤ c ∧ c ≤ '9' then some (c.toNat - '0'.toNat)
  else if 'a' ≤ c ∧ c ≤ 'f' then some (c.toNat - 'a'.toNat + 10)
  else if 'A' ≤ c ∧ c ≤ 'F' then some (c.toNat - 'A'.toNat + 10)
  else none

/-- The white space that `trim` and `parseInt` skip. -/
def isWhiteSpace (c : Char) : Bool :=
  let n := c.toNat
  (9 ≤ n && n ≤ 13) || n = 32 || n = 0xA0 || n = 0x1680 || (0x2000 ≤ n && n ≤ 0x200A)
    || n = 0x2028 || n = 0x2029 || n = 0x202F || n = 0x205F || n = 0x3000 || n = 0xFEFF

/-- `parseInt(pair, 16)` as an array of bytes stores it: digits up to the first
character that is none, after white space or a sign. -/
def parseHexPair : List Char → UInt8
  | [a, b] =>
    match hexValue a, hexValue b with
    | some high, some low => UInt8.ofNat (16 * high + low)
    | some high, none => UInt8.ofNat high
    | none, some low =>
      if isWhiteSpace a || a = '+' then UInt8.ofNat low
      else if a = '-' then 0 - UInt8.ofNat low
      else 0
    | none, none => 0
  | [a] => UInt8.ofNat ((hexValue a).getD 0)
  | _ => 0

/-- The bytes of pairs of characters; a last one without a partner is dropped. -/
def pairBytes : List Char → Bytes
  | a :: b :: rest => parseHexPair [a, b] :: pairBytes rest
  | _ => []

/-- `hexToBytes` -/
def hexToBytes (hex : String) : Bytes :=
  match hex.toList with
  | '0' :: 'x' :: rest => pairBytes rest
  | chars => pairBytes chars

/-- `bytesToHex` -/
def bytesToHex (data : Bytes) : String :=
  String.ofList (data.flatMap fun byte =>
    [Json.hexDigit (byte.toNat / 16), Json.hexDigit (byte.toNat % 16)])

/-! ## Text -/

/-- `new TextEncoder().encode(text)` -/
def textEncode (text : String) : Bytes := Utf8.encode text

/-- `new TextDecoder().decode(data)`; a byte order mark at the beginning is dropped. -/
def textDecode (data : Bytes) : String :=
  match data with
  | 0xEF :: 0xBB :: 0xBF :: rest => Utf8.decode rest
  | data => Utf8.decode data

/-! ## Primitives -/

/-- The cryptography and the compression of the host; what throws has the message of
the error. -/
structure CryptoHost where
  /-- `hkdf(sha256, key, salt, info, 32)` -/
  hkdf (key salt info : Bytes) : Bytes
  /-- `chacha20poly1305(key, nonce, aad).encrypt(plaintext)` -/
  encrypt (key nonce aad plaintext : Bytes) : Bytes
  /-- `chacha20poly1305(key, nonce, aad).decrypt(ciphertext)` -/
  decrypt (key nonce aad ciphertext : Bytes) : Except String Bytes
  sha256 (data : Bytes) : Bytes
  /-- `secp256k1.sign(hash, key)`: the compact signature and its recovery bit. -/
  sign (hash key : Bytes) : Except String (Bytes × UInt8)
  recoverPublicKey (hash compact : Bytes) (recoveryBit : UInt8) : Except String Bytes
  /-- `secp256k1.getPublicKey(key, false)` -/
  getPublicKey (key : Bytes) : Except String Bytes
  deflate (data : Bytes) : Bytes
  /-- `inflateSync` with a limit on the length of its result. -/
  inflate (maxOutputLength : Nat) (data : Bytes) : Except String Bytes

/-- The configuration of a scheme; the byte fields are bytes, as `requireByteConfig`
demands. -/
structure InviteCryptoConfig where
  salt : String
  formatVersion : UInt8 := 1
  compressionMarker : UInt8 := 0x1f
  compressionThresholdBytes : Nat := 100
  maxDecompressedSize : Nat := 1024 * 1024

def convosInviteCrypto : InviteCryptoConfig := { salt := "ConvosInviteV1" }

variable (host : CryptoHost) (config : InviteCryptoConfig)

/-- `deriveTokenKey` -/
def deriveTokenKey (privateKeyBytes : Bytes) (inboxId : String) : Bytes :=
  host.hkdf privateKeyBytes (textEncode config.salt) (textEncode ("inbox:" ++ inboxId))

/-- `encryptToken`; the nonce of twelve bytes is drawn at random. -/
def encryptToken (nonce plaintext : Bytes) (inboxId : String) (privateKeyBytes : Bytes) :
    Bytes :=
  let key := deriveTokenKey host config privateKeyBytes inboxId
  config.formatVersion ::
    (nonce ++ host.encrypt key nonce (textEncode inboxId) plaintext)

def byteText : Option UInt8 → String
  | none => "undefined"
  | some byte => toString byte.toNat

/-- `decryptToken` -/
def decryptToken (tokenBytes : Bytes) (inboxId : String) (privateKeyBytes : Bytes) :
    Except String Bytes :=
  if tokenBytes.head? ≠ some config.formatVersion then
    .error ("Unsupported token version: " ++ byteText tokenBytes.head?)
  else
    let nonce := (tokenBytes.drop 1).take 12
    let key := deriveTokenKey host config privateKeyBytes inboxId
    host.decrypt key nonce (textEncode inboxId) (tokenBytes.drop 13)

/-- `sign`: a compact signature with its recovery bit. -/
def sign (payloadBytes privateKeyBytes : Bytes) : Except String Bytes :=
  (host.sign (host.sha256 payloadBytes) privateKeyBytes).map fun signature =>
    signature.1 ++ [signature.2]

/-- `verifySignatureMatchesKey`: the signature was made with the private key. -/
def verifySignatureMatchesKey (payloadBytes signatureBytes privateKeyBytes : Bytes) : Bool :=
  if signatureBytes.length ≠ 65 then false
  else
    match signatureBytes[64]? with
    | none => false
    | some recoveryBit =>
      if recoveryBit > 3 then false
      else
        match host.recoverPublicKey (host.sha256 payloadBytes) (signatureBytes.take 64)
            recoveryBit, host.getPublicKey privateKeyBytes with
        | .ok recovered, .ok expected => decide (recovered = expected)
        | _, _ => false

/-! ## Compression -/

/-- The four bytes of a size, most significant first. -/
def sizeBytes (size : Nat) : Bytes :=
  [UInt8.ofNat (size / 0x1000000), UInt8.ofNat (size / 0x10000), UInt8.ofNat (size / 0x100),
    UInt8.ofNat size]

/-- `compress` -/
def compress (data : Bytes) : Bytes :=
  if data.length ≤ config.compressionThresholdBytes then data
  else
    let compressed := host.deflate data
    if compressed.length + 5 < data.length then
      config.compressionMarker :: (sizeBytes data.length ++ compressed)
    else data

/-- `decompress` -/
def decompress (errorField : String) : Bytes → Except SignetError Bytes
  | [] => .ok []
  | marker :: rest =>
    if marker ≠ config.compressionMarker then .ok (marker :: rest)
    else
      match rest with
      | a :: b :: c :: d :: compressed =>
        let declaredSize := a.toNat * 0x1000000 + b.toNat * 0x10000 + c.toNat * 0x100 + d.toNat
        if declaredSize > config.maxDecompressedSize then
          .error (ValidationError.create errorField
            ("Decompressed size exceeds maximum: " ++ toString declaredSize))
        else
          match host.inflate config.maxDecompressedSize compressed with
          | .error cause =>
            .error (ValidationError.create errorField
              ("Failed to decompress invite data: " ++ cause))
          | .ok decompressed =>
            if decompressed.length > config.maxDecompressedSize then
              .error (ValidationError.create errorField
                ("Decompressed size exceeds maximum: " ++ toString decompressed.length))
            else .ok decompressed
      | _ => .error (ValidationError.create errorField "Compressed invite data is truncated")

end Core
end Signet
