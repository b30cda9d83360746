import Testbed.Toml.DateTime

/-!
# TOML values

What a TOML document says. Of a number with a fraction only its being one is kept, since nothing
here is configured by such a number.
-/

namespace Testbed.Toml

inductive Value where
  | string (value : String)
  | integer (value : Int)
  | float
  | boolean (value : Bool)
  | dateTime (value : DateTime)
  | array (values : List Value)
  /-- Keys with their values, in the order in which they were first mentioned. -/
  | table (entries : List (String × Value))
  deriving Repr

/-- The value of a key of a table. -/
def Value.get? : Value → String → Option Value
  | table entries, key => entries.lookup key
  | _, _ => none

end Testbed.Toml
