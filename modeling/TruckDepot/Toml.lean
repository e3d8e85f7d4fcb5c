import TruckDepot.Decimal.Binary

/-!
# TOML values

What a TOML document holds. Floats are 64-bit numbers. Dates and times are left out: no setting of
the depot takes one, so a document that holds one is refused as a whole. -/

namespace TruckDepot

/-- A TOML value. -/
inductive Toml where
  /-- A string. -/
  | text (value : String)
  /-- An integer. -/
  | integer (value : Int)
  /-- A float. -/
  | float (value : Decimal.Binary)
  /-- A truth value. -/
  | truth (value : Bool)
  /-- An array. -/
  | array (items : List Toml)
  /-- A table. -/
  | table (entries : List (String × Toml))
  deriving Repr

end TruckDepot
