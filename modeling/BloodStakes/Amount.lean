/-!
Amounts of blood are whole numbers; effects and scaling work on binary fractions.
Here are the ways between the two.
-/
namespace BloodStakes

namespace Amount

def greatest : Int := 0x7fffffffffffffff

def least : Int := -0x8000000000000000

/-- Whether a number is within the range of amounts. -/
def Fits (n : Int) : Prop := least ≤ n ∧ n ≤ greatest

instance (n : Int) : Decidable (Fits n) := inferInstanceAs (Decidable (_ ∧ _))

/-- The amount a sum or product comes to in 64 bits: past the one end of the range it goes on
at the other. -/
def wrap (n : Int) : Int := n.bmod UInt64.size

theorem wrap_of_fits {n : Int} (h : Fits n) : wrap n = n := by
  obtain ⟨hleast, hgreatest⟩ := h
  unfold least at hleast
  unfold greatest at hgreatest
  apply Int.bmod_eq_of_le
  · simp only [UInt64.size]
    omega
  · simp only [UInt64.size]
    omega

@[simp] theorem wrap_zero : wrap 0 = 0 := rfl

theorem wrap_le {n : Int} (h : 0 ≤ n) : wrap n ≤ n := by
  unfold wrap Int.bmod
  simp only [UInt64.size]
  split <;> omega

/-- The whole number next to `x` toward zero, within the range of amounts;
no number at all counts as zero. -/
def truncate (x : Float) : Int :=
  if x < 0 then max least (-((-x).toUInt64.toNat : Int))
  else min greatest (x.toUInt64.toNat : Int)

/-- The fraction `multiplier` of `amount`, rounded down and at least zero.
A product that is not finite counts as zero. -/
def scale (amount : Int) (multiplier : Float) : Int :=
  let scaled := Float.ofInt amount * multiplier
  if scaled.isFinite then max 0 (truncate scaled) else 0

end Amount

/-- `x` to the power `n`, by repeated squaring from the lowest binary digit of `n`; `acc`
holds the product so far. `fuel` bounds the number of binary digits. -/
def squaringPower (x acc : Float) (n : Nat) : (fuel : Nat) → Float
  | 0 => acc
  | fuel + 1 =>
    let acc := if n % 2 = 1 then acc * x else acc
    if n / 2 = 0 then acc else squaringPower (x * x) acc (n / 2) fuel

/-- `x` to a whole power; a negative power is the reciprocal of the positive one. -/
def floatPower (x : Float) (n : Int) : Float :=
  let power := squaringPower x 1 n.natAbs (n.natAbs.log2 + 1)
  if n < 0 then 1 / power else power

end BloodStakes
