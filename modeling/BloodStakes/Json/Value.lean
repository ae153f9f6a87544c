/-!
JSON documents as they are written: numbers keep their digits, and a string may hold an
escape that names no character, which only matters to whoever reads that string.
-/
namespace BloodStakes

/-- A number as written: its digits before and after the point, and its exponent. -/
structure Numeral where
  negative : Bool
  whole : List Nat
  fraction? : Option (List Nat)
  /-- Whether the exponent is negative, and its digits. -/
  exponent? : Option (Bool × List Nat)
  deriving Repr

inductive Json where
  | null
  | bool (b : Bool)
  | number (n : Numeral)
  /-- `none` is a string in which half of a surrogate pair stands alone. -/
  | string (text? : Option String)
  | array (items : List Json)
  /-- Members in the order written, repeated names included. -/
  | object (members : List (Option String × Json))

end BloodStakes
