import BloodStakes.Json.Value

/-!
The value of a written number. Whole numbers that fit 64 bits are exact. All others become
binary fractions: the leading digits that fit 64 bits, scaled by a power of ten in binary
arithmetic, so the last binary place may differ from the nearest one.
-/
namespace BloodStakes

/-- The value of a number: whole, or a binary fraction. -/
inductive Quantity where
  | whole (n : Int)
  | fraction (x : Float)

namespace Numeral

/-- The bound on the digits that are kept. -/
def significandLimit : Nat := UInt64.size

/-- A decimal significand under construction. -/
structure Significand where
  digits : Nat := 0
  /-- The power of ten it is to be scaled by. -/
  scale : Int := 0

/-- Digits before the point: from the first that does not fit, each only counts as a place. -/
def Significand.ofWhole (ds : List Nat) : Significand :=
  ds.foldl (fun s d =>
    if s.scale = 0 ∧ s.digits * 10 + d < significandLimit then { s with digits := s.digits * 10 + d }
    else { s with scale := s.scale + 1 }) {}

/-- Digits after the point: from the first that does not fit, all are dropped. -/
def Significand.addFraction (s : Significand) : List Nat → Significand
  | [] => s
  | d :: ds =>
    if s.digits * 10 + d < significandLimit then
      Significand.addFraction { digits := s.digits * 10 + d, scale := s.scale - 1 } ds
    else s

def natOfDigits (ds : List Nat) : Nat :=
  ds.foldl (fun n d => n * 10 + d) 0

def powerOfTen (n : Nat) : Float :=
  Float.ofScientific 1 false n

/-- Scales by a power of ten of at most 308 at a time; `none` if the value is too large. -/
def scaleByTen (x : Float) (scale : Int) : (fuel : Nat) → Option Float
  | 0 => some 0
  | fuel + 1 =>
    if scale.natAbs ≤ 308 then
      if 0 ≤ scale then
        let y := x * powerOfTen scale.natAbs
        if y.isFinite then some y else none
      else some (x / powerOfTen scale.natAbs)
    else if x == 0 then some x
    else if 0 ≤ scale then none
    else scaleByTen (x / powerOfTen 308) (scale + 308) fuel

/-- Exponents must stay below this bound. -/
def exponentLimit : Nat := 1 <<< 31

/-- The value as a binary fraction; `none` if it is too large. Three divisions by `10 ^ 308`
bring every 64-bit significand down to zero. -/
def toFloat? (n : Numeral) : Option Float :=
  let s := (Significand.ofWhole n.whole).addFraction (n.fraction?.getD [])
  let size? :=
    match n.exponent? with
    | none => scaleByTen (Float.ofNat s.digits) s.scale 8
    | some (negative, ds) =>
      let e := natOfDigits ds
      if exponentLimit ≤ e then
        if s.digits = 0 ∨ negative then some 0 else none
      else scaleByTen (Float.ofNat s.digits) (s.scale + if negative then -(e : Int) else e) 8
  size?.map fun size => if n.negative then -size else size

/-- A number without point and exponent is whole if it fits 64 bits, with or without a sign;
negative zero is a fraction. -/
def quantity? (n : Numeral) : Option Quantity :=
  let size := natOfDigits n.whole
  if n.fraction?.isSome ∨ n.exponent?.isSome then n.toFloat?.map .fraction
  else if !n.negative ∧ size < UInt64.size then some (.whole size)
  else if n.negative ∧ 0 < size ∧ size ≤ UInt64.size / 2 then some (.whole (-size))
  else n.toFloat?.map .fraction

end Numeral

end BloodStakes
