import Signet.Kit.Json

/-!
# Reading a parsed value

What a program without a schema sees of a parsed JSON value: the property under a key, which
only an object has, whether the value counts as true, and the text it is converted to.
-/

namespace Signet
namespace Kit
namespace Json

def property (value : Json) (key : String) : Option Json :=
  match value with
  | .object members => members.lookup key
  | _ => none

/-- The value counts as true in a condition. -/
def truthy : Json → Bool
  | .null => false
  | .bool value => value
  | .number value => value != 0
  | .string value => value != ""
  | .array _ | .object _ => true

mutual

def toText : Json → String
  | .null => "null"
  | .bool value => if value then "true" else "false"
  | .number value => toString value
  | .string value => value
  | .array items => itemsToText items
  | .object _ => "[object Object]"

/-- The comma-separated texts of the items of an array; `null` has none there. -/
def itemsToText : List Json → String
  | [] => ""
  | [item] => if item = .null then "" else toText item
  | item :: items => (if item = .null then "" else toText item) ++ "," ++ itemsToText items

end

end Json
end Kit
end Signet
