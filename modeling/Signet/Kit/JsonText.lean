import Signet.Kit.Json
import Mathlib.Tactic.SplitIfs

/-!
# A compact text determines its value

No JSON value has the text of another one, and a text can be told from what
follows it: a quote ends a string, a bracket an array or an object, and what
follows a number is no part of it.

* `Closes` — what may follow the text of a value.
* `stringify_cancel` — two values with one text, whatever follows, are the same.
* `stringify_injective`.
-/

namespace Signet
namespace Kit
namespace Json

/-! ## Strings -/

/-- The value of a hexadecimal digit. -/
def hexValue (c : Char) : Nat := "0123456789abcdef".toList.idxOf c

/-- Read one character of a JSON string from its text. -/
def readChar : List Char → Option (Char × List Char)
  | '\\' :: 'u' :: '0' :: '0' :: high :: low :: rest =>
    some (Char.ofNat (16 * hexValue high + hexValue low), rest)
  | '\\' :: 'n' :: rest => some ('\n', rest)
  | '\\' :: 'r' :: rest => some ('\r', rest)
  | '\\' :: 't' :: rest => some ('\t', rest)
  | '\\' :: 'b' :: rest => some (Char.ofNat 8, rest)
  | '\\' :: 'f' :: rest => some (Char.ofNat 12, rest)
  | '\\' :: c :: rest => some (c, rest)
  | c :: rest => some (c, rest)
  | [] => none

theorem hexValue_hexDigit : ∀ n < 32,
    16 * hexValue (hexDigit (n / 16)) + hexValue (hexDigit (n % 16)) = n := by decide

theorem ofNat_of_toNat_eq {c : Char} {n : Nat} (h : c.toNat = n) : Char.ofNat n = c := by
  rw [← h]
  exact Char.ofNat_toNat c

/-- The text of a character is read back. -/
theorem readChar_escapeChar (c : Char) (rest : List Char) :
    readChar (escapeChar c ++ rest) = some (c, rest) := by
  unfold escapeChar
  split_ifs with hQuote hBackslash hLine hReturn hTab hBackspace hFeed hControl
  · rw [hQuote]
    rfl
  · rw [hBackslash]
    rfl
  · rw [hLine]
    rfl
  · rw [hReturn]
    rfl
  · rw [hTab]
    rfl
  · show some (Char.ofNat 8, rest) = _
    rw [ofNat_of_toNat_eq hBackspace]
  · show some (Char.ofNat 12, rest) = _
    rw [ofNat_of_toNat_eq hFeed]
  · show some (Char.ofNat _, rest) = _
    rw [hexValue_hexDigit c.toNat hControl, Char.ofNat_toNat]
  · unfold readChar
    split <;> simp_all

theorem escapeChar_head_ne (c : Char) (rest rest' : List Char) :
    escapeChar c ++ rest ≠ '"' :: rest' := by
  intro h
  have hRead := readChar_escapeChar c rest
  rw [h] at hRead
  have hPlain : readChar ('"' :: rest') = some ('"', rest') := rfl
  rw [hPlain] at hRead
  cases hRead
  cases h

variable {rest rest' : List Char}

/-- The end of a string is its first quote that is not escaped. -/
theorem escaped_cancel (l l' : List Char)
    (h : l.flatMap escapeChar ++ '"' :: rest = l'.flatMap escapeChar ++ '"' :: rest') :
    l = l' ∧ rest = rest' := by
  induction l generalizing l' with
  | nil =>
    cases l' with
    | nil =>
      simp only [List.flatMap_nil, List.nil_append, List.cons.injEq, true_and] at h
      exact ⟨rfl, h⟩
    | cons c l' =>
      rw [List.flatMap_cons, List.append_assoc] at h
      exact absurd h.symm (escapeChar_head_ne c _ _)
  | cons c l ih =>
    cases l' with
    | nil =>
      rw [List.flatMap_cons, List.append_assoc] at h
      exact absurd h (escapeChar_head_ne c _ _)
    | cons c' l' =>
      rw [List.flatMap_cons, List.flatMap_cons, List.append_assoc, List.append_assoc] at h
      have hRead := congrArg readChar h
      rw [readChar_escapeChar, readChar_escapeChar] at hRead
      obtain ⟨rfl, hRest⟩ : c = c' ∧ _ := by simpa using hRead
      obtain ⟨rfl, rfl⟩ := ih l' hRest
      exact ⟨rfl, rfl⟩

theorem toList_quote (s : String) : (quote s).toList = '"' :: s.toList.flatMap escapeChar ++ ['"'] := by
  unfold quote
  rw [String.toList_ofList]

theorem quote_cancel {s s' : String} (h : (quote s).toList ++ rest = (quote s').toList ++ rest') :
    s = s' ∧ rest = rest' := by
  rw [toList_quote, toList_quote] at h
  simp only [List.cons_append, List.append_assoc, List.cons.injEq, true_and,
    List.nil_append] at h
  obtain ⟨hText, hRest⟩ := escaped_cancel _ _ h
  exact ⟨String.toList_inj.mp hText, hRest⟩

/-! ## Numbers -/

/-- A character of the text of a number. -/
def isNumeral (c : Char) : Bool := c.isDigit || c == '-'

/-- What may follow the text of a value: nothing, or the end of an item. -/
def Closes (rest : List Char) : Prop :=
  ∀ c, rest.head? = some c → c = ',' ∨ c = ']' ∨ c = '}'

theorem closes_cons {c : Char} (rest : List Char) (h : c = ',' ∨ c = ']' ∨ c = '}') :
    Closes (c :: rest) := by
  intro c' hHead
  cases hHead
  exact h

theorem isDigit_repr (n : Nat) : ∀ c ∈ n.repr.toList, c.isDigit = true := by
  intro c hc
  rw [Nat.toList_repr] at hc
  exact Nat.isDigit_of_mem_toDigits (by decide) (by decide) hc

theorem repr_nat_injective {n m : Nat} (h : n.repr.toList = m.repr.toList) : n = m := by
  rw [Nat.toList_repr, Nat.toList_repr] at h
  have hRead := congrArg (fun digits => Nat.ofDigitChars 10 digits 0) h
  rwa [Nat.ofDigitChars_toDigits (by decide) (by decide),
    Nat.ofDigitChars_toDigits (by decide) (by decide)] at hRead

/-- The text of a number: its digits, after a sign if it is negative. -/
theorem toList_toString (n : Int) : (toString n).toList =
    match n with
    | .ofNat m => m.repr.toList
    | .negSucc m => '-' :: (m + 1).repr.toList := by
  cases n with
  | ofNat m => rfl
  | negSucc m =>
    show ("-" ++ (m + 1).repr).toList = _
    simp

theorem isNumeral_toString (n : Int) : ∀ c ∈ (toString n).toList, isNumeral c = true := by
  intro c hc
  rw [toList_toString] at hc
  cases n with
  | ofNat m =>
    have hDigit := isDigit_repr m c hc
    simp [isNumeral, hDigit]
  | negSucc m =>
    rcases List.mem_cons.mp hc with rfl | hRest
    · rfl
    · have hDigit := isDigit_repr (m + 1) c hRest
      simp [isNumeral, hDigit]

theorem toString_ne_nil (n : Int) : (toString n).toList ≠ [] := by
  rw [toList_toString]
  cases n with
  | ofNat m =>
    show m.repr.toList ≠ []
    rw [Nat.toList_repr]
    exact Nat.toDigits_ne_nil
  | negSucc m => exact List.cons_ne_nil _ _

theorem toString_injective {n m : Int} (h : (toString n).toList = (toString m).toList) :
    n = m := by
  -- the digits of one are not the sign of the other
  have hSign : ∀ k l : Nat, k.repr.toList ≠ '-' :: l.repr.toList := by
    intro k l hEq
    have hMinus : '-' ∈ k.repr.toList := by
      rw [hEq]
      exact List.mem_cons_self ..
    exact absurd (isDigit_repr k _ hMinus) (by decide)
  rw [toList_toString, toList_toString] at h
  cases n with
  | ofNat k =>
    cases m with
    | ofNat l => exact congrArg Int.ofNat (repr_nat_injective h)
    | negSucc l => exact absurd h (hSign k (l + 1))
  | negSucc k =>
    cases m with
    | ofNat l => exact absurd h.symm (hSign l (k + 1))
    | negSucc l =>
      have hNext := repr_nat_injective (List.cons.inj h).2
      exact congrArg Int.negSucc (Nat.succ.inj hNext)

theorem number_cancel {n m : Int} (hRest : Closes rest) (hRest' : Closes rest')
    (h : (toString n).toList ++ rest = (toString m).toList ++ rest') :
    n = m ∧ rest = rest' := by
  have hStops : ∀ {rest : List Char}, Closes rest → rest.takeWhile isNumeral = [] := by
    intro rest hCloses
    cases rest with
    | nil => rfl
    | cons c rest => rcases hCloses c rfl with rfl | rfl | rfl <;> rfl
  have hText := congrArg (List.takeWhile isNumeral) h
  rw [List.takeWhile_append_of_pos (isNumeral_toString n),
    List.takeWhile_append_of_pos (isNumeral_toString m), hStops hRest, hStops hRest',
    List.append_nil, List.append_nil] at hText
  have hSame : n = m := toString_injective hText
  subst hSame
  exact ⟨rfl, List.append_cancel_left h⟩

/-! ## Values -/

/-- What the first character of a text tells about its value. -/
inductive Kind where
  | null
  | bool (value : Bool)
  | number
  | string
  | array
  | object
deriving DecidableEq

def kind : Json → Kind
  | .null => .null
  | .bool value => .bool value
  | .number _ => .number
  | .string _ => .string
  | .array _ => .array
  | .object _ => .object

/-- The kind a first character stands for. -/
def kindOfChar (c : Char) : Option Kind :=
  if c = 'n' then some .null
  else if c = 't' then some (.bool true)
  else if c = 'f' then some (.bool false)
  else if c = '"' then some .string
  else if c = '[' then some .array
  else if c = '\x7b' then some .object
  else if isNumeral c then some .number
  else none

theorem kindOfChar_numeral {c : Char} (h : isNumeral c = true) :
    kindOfChar c = some .number := by
  unfold kindOfChar
  split_ifs with hNull hTrue hFalse hString hArray hObject
  · rw [hNull] at h
    cases h
  · rw [hTrue] at h
    cases h
  · rw [hFalse] at h
    cases h
  · rw [hString] at h
    cases h
  · rw [hArray] at h
    cases h
  · rw [hObject] at h
    cases h
  · rfl

/-- A text starts with a character of its kind. -/
theorem head_stringify (a : Json) :
    ∃ c rest, (stringify a).toList = c :: rest ∧ kindOfChar c = some a.kind := by
  cases a with
  | null => exact ⟨'n', _, rfl, rfl⟩
  | bool value =>
    cases value with
    | false => exact ⟨'f', _, rfl, rfl⟩
    | true => exact ⟨'t', _, rfl, rfl⟩
  | number value =>
    obtain ⟨c, rest, hText⟩ := List.exists_cons_of_ne_nil (toString_ne_nil value)
    refine ⟨c, rest, hText, kindOfChar_numeral ?_⟩
    apply isNumeral_toString value
    rw [hText]
    exact List.mem_cons_self ..
  | string value =>
    refine ⟨'"', _, toList_quote value, rfl⟩
  | array items =>
    refine ⟨'[', (stringifyItems items).toList ++ [']'], ?_, rfl⟩
    simp [stringify]
  | object members =>
    refine ⟨'\x7b', (stringifyMembers members).toList ++ ['\x7d'], ?_, rfl⟩
    simp [stringify]

theorem kind_eq {a b : Json} (h : (stringify a).toList ++ rest = (stringify b).toList ++ rest') :
    a.kind = b.kind := by
  obtain ⟨c, more, hText, hKind⟩ := head_stringify a
  obtain ⟨c', more', hText', hKind'⟩ := head_stringify b
  rw [hText, hText'] at h
  rw [(List.cons.inj h).1, hKind'] at hKind
  exact (Option.some.inj hKind).symm

/-- The texts of items, with what ends the array. -/
theorem items_cons (item : Json) (items : List Json) (rest : List Char) :
    ∃ more, (stringifyItems (item :: items)).toList ++ ']' :: rest =
        (stringify item).toList ++ more ∧ Closes more ∧
      (items = [] ∧ more = ']' :: rest ∨
        items ≠ [] ∧ more = ',' :: ((stringifyItems items).toList ++ ']' :: rest)) := by
  cases items with
  | nil => exact ⟨']' :: rest, rfl, closes_cons _ (by simp), .inl ⟨rfl, rfl⟩⟩
  | cons next items =>
    refine ⟨_, ?_, closes_cons _ (.inl rfl), .inr ⟨by simp, rfl⟩⟩
    simp [stringifyItems]

/-- The texts of members, with what ends the object. -/
theorem members_cons (key : String) (value : Json) (members : List (String × Json))
    (rest : List Char) :
    ∃ more, (stringifyMembers ((key, value) :: members)).toList ++ '\x7d' :: rest =
        (quote key).toList ++ ':' :: ((stringify value).toList ++ more) ∧ Closes more ∧
      (members = [] ∧ more = '\x7d' :: rest ∨
        members ≠ [] ∧ more = ',' :: ((stringifyMembers members).toList ++ '\x7d' :: rest)) := by
  cases members with
  | nil =>
    refine ⟨'\x7d' :: rest, ?_, closes_cons _ (by simp), .inl ⟨rfl, rfl⟩⟩
    simp [stringifyMembers]
  | cons next members =>
    refine ⟨_, ?_, closes_cons _ (.inl rfl), .inr ⟨by simp, rfl⟩⟩
    simp [stringifyMembers]

theorem items_ne_nil (item : Json) (items : List Json) (rest rest' : List Char) :
    (stringifyItems (item :: items)).toList ++ ']' :: rest ≠ ']' :: rest' := by
  obtain ⟨more, hText, -⟩ := items_cons item items rest
  obtain ⟨c, tail, hHead, hKind⟩ := head_stringify item
  rw [hText, hHead]
  intro h
  rw [(List.cons.inj h).1] at hKind
  cases hKind

mutual

/-- **A text determines its value**, and where it ends. -/
theorem stringify_cancel (a b : Json) {rest rest' : List Char} (hRest : Closes rest)
    (hRest' : Closes rest') (h : (stringify a).toList ++ rest = (stringify b).toList ++ rest') :
    a = b ∧ rest = rest' := by
  have hKind := kind_eq h
  cases a with
  | null =>
    cases b <;> cases hKind
    exact ⟨rfl, List.append_cancel_left h⟩
  | bool value =>
    cases b <;> cases hKind
    exact ⟨rfl, List.append_cancel_left h⟩
  | number n =>
    cases b <;> cases hKind
    next m =>
    obtain ⟨rfl, rfl⟩ := number_cancel hRest hRest' h
    exact ⟨rfl, rfl⟩
  | string s =>
    cases b <;> cases hKind
    next s' =>
    obtain ⟨rfl, rfl⟩ := quote_cancel h
    exact ⟨rfl, rfl⟩
  | array items =>
    cases b <;> cases hKind
    next items' =>
    have hItems : (stringifyItems items).toList ++ ']' :: rest =
        (stringifyItems items').toList ++ ']' :: rest' := by
      simpa [stringify] using h
    obtain ⟨rfl, rfl⟩ := stringifyItems_cancel items items' hItems
    exact ⟨rfl, rfl⟩
  | object members =>
    cases b <;> cases hKind
    next members' =>
    have hMembers : (stringifyMembers members).toList ++ '\x7d' :: rest =
        (stringifyMembers members').toList ++ '\x7d' :: rest' := by
      simpa [stringify] using h
    obtain ⟨rfl, rfl⟩ := stringifyMembers_cancel members members' hMembers
    exact ⟨rfl, rfl⟩

theorem stringifyItems_cancel (xs ys : List Json) {rest rest' : List Char}
    (h : (stringifyItems xs).toList ++ ']' :: rest =
      (stringifyItems ys).toList ++ ']' :: rest') : xs = ys ∧ rest = rest' := by
  cases xs with
  | nil =>
    cases ys with
    | nil => exact ⟨rfl, (List.cons.inj h).2⟩
    | cons y ys => exact absurd h.symm (items_ne_nil y ys rest' rest)
  | cons x xs =>
    cases ys with
    | nil => exact absurd h (items_ne_nil x xs rest rest')
    | cons y ys =>
      obtain ⟨more, hText, hCloses, hMore⟩ := items_cons x xs rest
      obtain ⟨more', hText', hCloses', hMore'⟩ := items_cons y ys rest'
      rw [hText, hText'] at h
      obtain ⟨rfl, rfl⟩ := stringify_cancel x y hCloses hCloses' h
      rcases hMore with ⟨rfl, hEnd⟩ | ⟨hNe, hNext⟩
      · rcases hMore' with ⟨rfl, hEnd'⟩ | ⟨hNe', hNext'⟩
        · rw [hEnd] at hEnd'
          exact ⟨rfl, (List.cons.inj hEnd').2⟩
        · rw [hEnd] at hNext'
          cases (List.cons.inj hNext').1
      · rcases hMore' with ⟨rfl, hEnd'⟩ | ⟨hNe', hNext'⟩
        · rw [hNext] at hEnd'
          cases (List.cons.inj hEnd').1
        · rw [hNext] at hNext'
          obtain ⟨rfl, rfl⟩ := stringifyItems_cancel xs ys (List.cons.inj hNext').2
          exact ⟨rfl, rfl⟩

theorem stringifyMembers_cancel (xs ys : List (String × Json)) {rest rest' : List Char}
    (h : (stringifyMembers xs).toList ++ '\x7d' :: rest =
      (stringifyMembers ys).toList ++ '\x7d' :: rest') : xs = ys ∧ rest = rest' := by
  match xs, ys with
  | [], [] => exact ⟨rfl, (List.cons.inj h).2⟩
  | [], (key, value) :: ys =>
    obtain ⟨more, hText, -⟩ := members_cons key value ys rest'
    rw [hText, toList_quote] at h
    cases (List.cons.inj h).1
  | (key, value) :: xs, [] =>
    obtain ⟨more, hText, -⟩ := members_cons key value xs rest
    rw [hText, toList_quote] at h
    cases (List.cons.inj h).1
  | (key, value) :: xs, (key', value') :: ys =>
    obtain ⟨more, hText, hCloses, hMore⟩ := members_cons key value xs rest
    obtain ⟨more', hText', hCloses', hMore'⟩ := members_cons key' value' ys rest'
    rw [hText, hText'] at h
    obtain ⟨rfl, hColon⟩ := quote_cancel h
    obtain ⟨rfl, rfl⟩ := stringify_cancel value value' hCloses hCloses' (List.cons.inj hColon).2
    rcases hMore with ⟨rfl, hEnd⟩ | ⟨hNe, hNext⟩
    · rcases hMore' with ⟨rfl, hEnd'⟩ | ⟨hNe', hNext'⟩
      · rw [hEnd] at hEnd'
        exact ⟨rfl, (List.cons.inj hEnd').2⟩
      · rw [hEnd] at hNext'
        cases (List.cons.inj hNext').1
    · rcases hMore' with ⟨rfl, hEnd'⟩ | ⟨hNe', hNext'⟩
      · rw [hNext] at hEnd'
        cases (List.cons.inj hEnd').1
      · rw [hNext] at hNext'
        obtain ⟨rfl, rfl⟩ := stringifyMembers_cancel xs ys (List.cons.inj hNext').2
        exact ⟨rfl, rfl⟩

end

theorem stringify_injective {a b : Json} (h : stringify a = stringify b) : a = b := by
  have hNothing : Closes [] := by
    intro c hHead
    cases hHead
  have hText : (stringify a).toList ++ [] = (stringify b).toList ++ [] := by rw [h]
  exact (stringify_cancel a b hNothing hNothing hText).1

end Json
end Kit
end Signet
