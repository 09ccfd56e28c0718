/-!
# The curve of account keys

Keys are numbers below the order of a base point on the curve `y² = x³ + 7` over a prime field.

## Main definitions

* `Curve.Point` — a point: the neutral one, or a pair of coordinates
* `Curve.add`, `Curve.multiply` — addition, and addition of a point to itself many times
* `Curve.base`, `Curve.order` — the base point and its order
-/

namespace CrossCall.Curve

/-- The number of elements of the field. -/
def fieldSize : Nat := 0xfffffffffffffffffffffffffffffffffffffffffffffffffffffffefffffc2f

/-- The order of the base point. -/
def order : Nat := 0xfffffffffffffffffffffffffffffffebaaedce6af48a03bbfd25e8cd0364141

theorem one_lt_order : 1 < order := by decide

/-- Half the order, rounded down. -/
def halfOrder : Nat := order / 2

/-- The coefficient of `a` in a combination of `a` and `m` that gives their greatest common divisor,
with `x` and `y` the coefficients of `a` and `b` reached so far. -/
def bezout (a b : Nat) (x y : Int) : Int :=
  if b = 0 then x else bezout b (a % b) y (x - (a / b : Nat) * y)
termination_by b
decreasing_by exact Nat.mod_lt _ (by omega)

/-- The inverse of `a` modulo a prime `m`. -/
def inverse (m a : Nat) : Nat := (bezout (a % m) m 1 0 % m).toNat

/-- The difference of two field elements. -/
def sub (a b : Nat) : Nat := (a + (fieldSize - b)) % fieldSize

/-- A point of the curve. -/
inductive Point
  | zero
  | affine (x y : Nat)
deriving DecidableEq

/-- The point on the line with a given slope through two points, reflected. -/
def onLine (slope x₁ y₁ x₂ : Nat) : Point :=
  let x := sub (sub (slope * slope % fieldSize) x₁) x₂
  .affine x (sub (slope * sub x₁ x % fieldSize) y₁)

/-- Twice a point. -/
def double : Point → Point
  | .zero => .zero
  | .affine x y =>
    if y = 0 then .zero
    else onLine (3 * x * x * inverse fieldSize (2 * y) % fieldSize) x y x

/-- The sum of two points. -/
def add : Point → Point → Point
  | .zero, q => q
  | p, .zero => p
  | .affine x₁ y₁, .affine x₂ y₂ =>
    if x₁ = x₂ then if y₁ = y₂ then double (.affine x₁ y₁) else .zero
    else onLine (sub y₂ y₁ * inverse fieldSize (sub x₂ x₁) % fieldSize) x₁ y₁ x₂

/-- The sum of `n` copies of a point. -/
def multiply (n : Nat) (p : Point) : Point :=
  if n = 0 then .zero
  else
    let half := multiply (n / 2) (double p)
    if n % 2 = 1 then add half p else half
termination_by n
decreasing_by omega

/-- The base point. -/
def base : Point :=
  .affine 0x79be667ef9dcbbac55a06295ce870b07029bfcdb2dce28d959f2815b16f81798
    0x483ada7726a3c4655da4fbfc0e1108a8fd17b448a68554199c47d08ffb10d4b8

end CrossCall.Curve
