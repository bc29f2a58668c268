import Mathlib.Data.List.Basic

/-!
# Base64

Bytes as sextets, sextets as characters.  Reading skips every character outside
the alphabet, the padding among them, and takes the URL alphabet as well.
-/

namespace Signet
namespace Kit
namespace Base64

/-- The alphabet, in the order of its values. -/
def alphabet : List Char :=
  "ABCDEFGHIJKLMNOPQRSTUVWXYZabcdefghijklmnopqrstuvwxyz0123456789+/".toList

/-- The character of a sextet. -/
def digit (n : Nat) : Char := alphabet.getD n '='

/-- The sextet of a character. -/
def value (c : Char) : Option Nat :=
  if c = '-' then some 62
  else if c = '_' then some 63
  else alphabet.idxOf? c

/-- The sextets of bytes; the bits missing in the last one are zero. -/
def sextets : List UInt8 → List Nat
  | [] => []
  | [a] => [a.toNat / 4, a.toNat % 4 * 16]
  | [a, b] => [a.toNat / 4, a.toNat % 4 * 16 + b.toNat / 16, b.toNat % 16 * 4]
  | a :: b :: c :: rest =>
    a.toNat / 4 :: (a.toNat % 4 * 16 + b.toNat / 16) ::
      (b.toNat % 16 * 4 + c.toNat / 64) :: c.toNat % 64 :: sextets rest

/-- The bytes of sextets; bits that do not fill a byte are dropped. -/
def bytes : List Nat → List UInt8
  | w :: x :: y :: z :: rest =>
    UInt8.ofNat (w * 4 + x / 16) :: UInt8.ofNat (x % 16 * 16 + y / 4) ::
      UInt8.ofNat (y % 4 * 64 + z) :: bytes rest
  | [w, x, y] => [UInt8.ofNat (w * 4 + x / 16), UInt8.ofNat (x % 16 * 16 + y / 4)]
  | [w, x] => [UInt8.ofNat (w * 4 + x / 16)]
  | _ => []

/-- The text of bytes, padded to a multiple of four characters. -/
def encode (data : List UInt8) : String :=
  String.ofList ((sextets data).map digit ++ List.replicate ((3 - data.length % 3) % 3) '=')

/-- The bytes of a text. -/
def decode (text : String) : List UInt8 := bytes (text.toList.filterMap value)

variable {n : Nat}

theorem value_digit (h : n < 64) : value (digit n) = some n := by
  have hAll : ∀ m < 64, value (digit m) = some m := by decide +kernel
  exact hAll n h

theorem sextets_lt (data : List UInt8) : ∀ n ∈ sextets data, n < 64 := by
  fun_induction sextets data with
  | case1 => simp
  | case2 a =>
    have ha := a.toNat_lt
    simp only [List.mem_cons, List.not_mem_nil, or_false]
    omega
  | case3 a b =>
    have ha := a.toNat_lt
    have hb := b.toNat_lt
    simp only [List.mem_cons, List.not_mem_nil, or_false]
    omega
  | case4 a b c rest ih =>
    have ha := a.toNat_lt
    have hb := b.toNat_lt
    have hc := c.toNat_lt
    intro n hn
    simp only [List.mem_cons] at hn
    rcases hn with hn | hn | hn | hn | hn
    · omega
    · omega
    · omega
    · omega
    · exact ih n hn

/-- A byte put together from its parts. -/
theorem ofNat_eq {a : UInt8} (h : n = a.toNat) : UInt8.ofNat n = a := by
  rw [h]
  exact UInt8.ofNat_toNat

theorem bytes_sextets (data : List UInt8) : bytes (sextets data) = data := by
  fun_induction sextets data with
  | case1 => rfl
  | case2 a =>
    have ha := a.toNat_lt
    rw [bytes, ofNat_eq (a := a) (by omega)]
  | case3 a b =>
    have ha := a.toNat_lt
    have hb := b.toNat_lt
    rw [bytes, ofNat_eq (a := a) (by omega), ofNat_eq (a := b) (by omega)]
  | case4 a b c rest ih =>
    have ha := a.toNat_lt
    have hb := b.toNat_lt
    have hc := c.toNat_lt
    rw [bytes, ih, ofNat_eq (a := a) (by omega), ofNat_eq (a := b) (by omega),
      ofNat_eq (a := c) (by omega)]

theorem filterMap_digit {l : List Nat} (h : ∀ n ∈ l, n < 64) :
    (l.map digit).filterMap value = l := by
  induction l with
  | nil => rfl
  | cons n l ih =>
    have hValue := value_digit (h n List.mem_cons_self)
    have hRest := ih fun m hm => h m (List.mem_cons_of_mem n hm)
    rw [List.map_cons, List.filterMap_cons_some hValue, hRest]

theorem filterMap_padding (k : Nat) : (List.replicate k '=').filterMap value = [] := by
  have hNone : value '=' = none := by decide
  induction k with
  | zero => rfl
  | succ k ih => rw [List.replicate_succ, List.filterMap_cons_none hNone, ih]

/-- What is written is read back. -/
theorem decode_encode (data : List UInt8) : decode (encode data) = data := by
  unfold decode encode
  rw [String.toList_ofList, List.filterMap_append, filterMap_digit (sextets_lt data),
    filterMap_padding, List.append_nil, bytes_sextets]

example : encode [77, 97, 110, 121] = "TWFueQ==" := by decide

/-! ## Reading that can fail -/

/-- The white space that is left out. -/
def isAsciiWhitespace (c : Char) : Bool :=
  c = '\t' || c = '\n' || c = '\x0c' || c = '\r' || c = ' '

/-- A text without one or two characters of padding at its end. -/
def dropPadding (chars : List Char) : List Char :=
  match chars.reverse with
  | '=' :: '=' :: rest => rest.reverse
  | '=' :: rest => rest.reverse
  | _ => chars

/-- `atob`: the bytes of a text, or nothing where it throws. -/
def atob (text : String) : Option (List UInt8) :=
  let chars := text.toList.filter fun c => !isAsciiWhitespace c
  let digits := if chars.length % 4 = 0 then dropPadding chars else chars
  if digits.length % 4 = 1 then none
  else (digits.mapM fun c => alphabet.idxOf? c).map bytes

theorem length_sextets (data : List UInt8) :
    (sextets data).length + (3 - data.length % 3) % 3 = (data.length + 2) / 3 * 4 := by
  fun_induction sextets data with
  | case1 => rfl
  | case2 a => simp
  | case3 a b => simp
  | case4 a b c rest ih =>
    simp only [List.length_cons]
    omega

set_option maxRecDepth 20000 in
/-- A character of the alphabet stands for its sextet; it is neither padding nor white space. -/
theorem digit_spec (h : n < 64) :
    alphabet.idxOf? (digit n) = some n ∧ digit n ≠ '=' ∧ isAsciiWhitespace (digit n) = false := by
  have hAll : ∀ m < 64, alphabet.idxOf? (digit m) = some m ∧ digit m ≠ '=' ∧
      isAsciiWhitespace (digit m) = false := by decide
  exact hAll n h

theorem dropPadding_append {chars : List Char} (h : ∀ c ∈ chars, c ≠ '=') {k : Nat} (hk : k < 3) :
    dropPadding (chars ++ List.replicate k '=') = chars := by
  have hNone : dropPadding chars = chars := by
    unfold dropPadding
    split
    · next hReverse => exact absurd rfl (h '=' (List.mem_reverse.mp (by rw [hReverse]; simp)))
    · next hReverse => exact absurd rfl (h '=' (List.mem_reverse.mp (by rw [hReverse]; simp)))
    · rfl
  have hOne : dropPadding (chars ++ ['=']) = chars := by
    unfold dropPadding
    rw [List.reverse_append]
    split
    · next rest hReverse =>
      have hMem : '=' ∈ chars.reverse := by
        simp only [List.reverse_singleton, List.singleton_append, List.cons.injEq] at hReverse
        rw [hReverse.2]
        exact List.mem_cons_self
      exact absurd rfl (h '=' (List.mem_reverse.mp hMem))
    · next rest hNot hReverse =>
      simp only [List.reverse_singleton, List.singleton_append, List.cons.injEq] at hReverse
      rw [← hReverse.2, List.reverse_reverse]
    · next _ hNot => exact (hNot chars.reverse rfl).elim
  match k, hk with
  | 0, _ => rw [List.replicate_zero, List.append_nil, hNone]
  | 1, _ => exact hOne
  | 2, _ =>
    unfold dropPadding
    simp [List.replicate]

/-- What is written is read without a failure. -/
theorem atob_encode (data : List UInt8) : atob (encode data) = some data := by
  have hDigits : ∀ c ∈ (sextets data).map digit,
      c ≠ '=' ∧ isAsciiWhitespace c = false := by
    intro c hc
    obtain ⟨n, hn, rfl⟩ := List.mem_map.mp hc
    exact (digit_spec (sextets_lt data n hn)).2
  have hKept : (encode data).toList.filter (fun c => !isAsciiWhitespace c) =
      (sextets data).map digit ++ List.replicate ((3 - data.length % 3) % 3) '=' := by
    unfold encode
    rw [String.toList_ofList, List.filter_eq_self]
    intro c hc
    rcases List.mem_append.mp hc with hDigit | hPadding
    · simp [(hDigits c hDigit).2]
    · rw [List.eq_of_mem_replicate hPadding]
      decide
  have hLength := length_sextets data
  have hRead : ((sextets data).map digit).mapM (fun c => alphabet.idxOf? c) =
      some (sextets data) := by
    generalize hAll : sextets data = l at *
    have hSmall : ∀ n ∈ l, n < 64 := hAll ▸ sextets_lt data
    clear hAll hKept hLength hDigits
    induction l with
    | nil => rfl
    | cons n l ih =>
      rw [List.map_cons, List.mapM_cons, (digit_spec (hSmall n List.mem_cons_self)).1,
        ih fun m hm => hSmall m (List.mem_cons_of_mem n hm)]
      rfl
  have hFull : ((sextets data).map digit ++
      List.replicate ((3 - data.length % 3) % 3) '=').length % 4 = 0 := by
    rw [List.length_append, List.length_map, List.length_replicate]
    omega
  unfold atob
  dsimp only
  rw [hKept, if_pos hFull, dropPadding_append (fun c hc => (hDigits c hc).1) (by omega), hRead,
    if_neg (by rw [List.length_map]; omega), Option.map_some, bytes_sextets]

end Base64
end Kit
end Signet
