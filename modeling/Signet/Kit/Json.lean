import Mathlib.Data.List.Basic

/-!
# JSON values and their compact text

The values a JSON serializer distinguishes, with decidable equality, and the
compact rendering without whitespace.  Object members keep the order they were
built in; a caller that wants sorted keys sorts them first.
-/

namespace Signet
namespace Kit

/-- A JSON value with integer numbers. -/
inductive Json where
  | null
  | bool (value : Bool)
  | number (value : Int)
  | string (value : String)
  | array (items : List Json)
  | object (members : List (String × Json))
deriving Repr, Inhabited

namespace Json

mutual

/-- Decide whether two JSON values are the same. -/
def decEq : (a b : Json) → Decidable (a = b)
  | .null, .null => isTrue rfl
  | .bool x, .bool y => decidable_of_iff (x = y) (by simp)
  | .number x, .number y => decidable_of_iff (x = y) (by simp)
  | .string x, .string y => decidable_of_iff (x = y) (by simp)
  | .array xs, .array ys =>
    have := decEqItems xs ys
    decidable_of_iff (xs = ys) (by simp)
  | .object xs, .object ys =>
    have := decEqMembers xs ys
    decidable_of_iff (xs = ys) (by simp)
  | .null, .bool _ | .null, .number _ | .null, .string _ | .null, .array _
  | .null, .object _ | .bool _, .null | .bool _, .number _ | .bool _, .string _
  | .bool _, .array _ | .bool _, .object _ | .number _, .null | .number _, .bool _
  | .number _, .string _ | .number _, .array _ | .number _, .object _
  | .string _, .null | .string _, .bool _ | .string _, .number _
  | .string _, .array _ | .string _, .object _ | .array _, .null | .array _, .bool _
  | .array _, .number _ | .array _, .string _ | .array _, .object _
  | .object _, .null | .object _, .bool _ | .object _, .number _
  | .object _, .string _ | .object _, .array _ => isFalse (by simp)

/-- Decide whether two lists of JSON values are the same. -/
def decEqItems : (xs ys : List Json) → Decidable (xs = ys)
  | [], [] => isTrue rfl
  | x :: xs, y :: ys =>
    have := decEq x y
    have := decEqItems xs ys
    decidable_of_iff (x = y ∧ xs = ys) (by simp)
  | [], _ :: _ | _ :: _, [] => isFalse (by simp)

/-- Decide whether two lists of object members are the same. -/
def decEqMembers : (xs ys : List (String × Json)) → Decidable (xs = ys)
  | [], [] => isTrue rfl
  | (k, x) :: xs, (l, y) :: ys =>
    have := decEq x y
    have := decEqMembers xs ys
    decidable_of_iff ((k = l ∧ x = y) ∧ xs = ys) (by simp)
  | [], _ :: _ | _ :: _, [] => isFalse (by simp)

end

instance : DecidableEq Json := decEq

/-- The lower-case hexadecimal digit of a number below sixteen. -/
def hexDigit (n : Nat) : Char := "0123456789abcdef".toList.getD n '0'

/-- The text of one character inside a JSON string. -/
def escapeChar (c : Char) : List Char :=
  if c = '"' then ['\\', '"']
  else if c = '\\' then ['\\', '\\']
  else if c = '\n' then ['\\', 'n']
  else if c = '\r' then ['\\', 'r']
  else if c = '\t' then ['\\', 't']
  else if c.toNat = 8 then ['\\', 'b']
  else if c.toNat = 12 then ['\\', 'f']
  else if c.toNat < 32 then
    ['\\', 'u', '0', '0', hexDigit (c.toNat / 16), hexDigit (c.toNat % 16)]
  else [c]

def quote (s : String) : String :=
  String.ofList ('"' :: s.toList.flatMap escapeChar ++ ['"'])

mutual

/-- The compact text of a JSON value. -/
def stringify : Json → String
  | .null => "null"
  | .bool value => if value then "true" else "false"
  | .number value => toString value
  | .string value => quote value
  | .array items => "[" ++ stringifyItems items ++ "]"
  | .object members => "\x7b" ++ stringifyMembers members ++ "\x7d"

/-- The comma-separated texts of a list of JSON values. -/
def stringifyItems : List Json → String
  | [] => ""
  | [item] => stringify item
  | item :: items => stringify item ++ "," ++ stringifyItems items

/-- The comma-separated texts of a list of object members. -/
def stringifyMembers : List (String × Json) → String
  | [] => ""
  | [(key, value)] => quote key ++ ":" ++ stringify value
  | (key, value) :: members =>
    quote key ++ ":" ++ stringify value ++ "," ++ stringifyMembers members

end

/-- An object from its members, leaving out the absent ones. -/
def ofMembers (members : List (String × Option Json)) : Json :=
  .object (members.filterMap fun m => m.2.map fun value => (m.1, value))

end Json

end Kit
end Signet
