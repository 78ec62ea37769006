import MacAgent.Value.FormatError

/-! # JSON values -/

namespace MacAgent

/-- A JSON value. The fields of an object have distinct names and are listed in the order of these,
code point by code point. -/
inductive Json where
  | null
  | bool (value : Bool)
  /-- A number written without fraction and exponent. -/
  | integer (value : Int)
  /-- Any other number, as it is written. -/
  | decimal (text : String)
  | string (value : String)
  | array (items : List Json)
  | object (fields : List (String × Json))
deriving Inhabited

/-- What a value is, as an error message calls it. -/
def Json.describe : Json → String
  | null => "null"
  | bool value => "boolean `" ++ (if value then "true" else "false") ++ "`"
  | integer value => "integer `" ++ toString value ++ "`"
  | decimal text => "floating point `" ++ text ++ "`"
  | string value => "string " ++ Text.quote value
  | array _ => "sequence"
  | object _ => "map"

end MacAgent
