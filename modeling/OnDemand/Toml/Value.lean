/-!
# TOML values

What a TOML document can say. Numbers with a fraction and dates keep their
spelling, since nothing here computes with them.
-/

namespace OnDemand

/-- A value of a TOML document. -/
inductive TomlValue where
  | text (value : String)
  | integer (value : Int)
  | float (spelling : String)
  | boolean (value : Bool)
  | date (spelling : String)
  | array (items : List TomlValue)
  | table (entries : List (String × TomlValue))

end OnDemand
