import Conformance.Number.Binary64

set_option autoImplicit false

/-!
# The shortest decimal that reads back

Around each double lies the interval of reals that round to it; its ends belong to it when the
significand is even, and below a power of two it reaches only half as far down as up.  The
shortest decimal of a double is the point of that interval on the coarsest grid of a power of ten
that meets it: the grid point nearest to the double, and of two equally near points the larger.
-/

namespace Conformance

/-- The decimal number `digits * 10 ^ exponent`. -/
structure Decimal where
  digits : Nat
  exponent : Int
  deriving DecidableEq, Repr, Inhabited

namespace Binary64

/-- The number lies just above the point where the gap to the smaller neighbour is halved. -/
def isPowerOfTwo (x : Binary64) : Bool := x.fraction == 0 && 1 < x.exponentField

/-- Upper end of the interval that rounds to the magnitude, in quarter units. -/
def upperEnd (x : Binary64) : Nat := 4 * x.units + 2 * x.gap

/-- Lower end of the interval that rounds to the magnitude, in quarter units. -/
def lowerEnd (x : Binary64) : Nat :=
  4 * x.units - (if x.isPowerOfTwo then x.gap else 2 * x.gap)

/-- Whether a point reads back as the magnitude.  The point is `point / scale` quarter units. -/
def readsBack (x : Binary64) (point scale : Nat) : Bool :=
  if x.significand % 2 = 0 then
    x.lowerEnd * scale ≤ point && point ≤ x.upperEnd * scale
  else
    x.lowerEnd * scale < point && point < x.upperEnd * scale

/-- Spacing of the grid `10 ^ k` and the scale that makes it a whole number of quarter units. -/
def gridStep : Int → Nat × Nat
  | .ofNat k => (Nat.pow 10 k * (4 * unitsPerOne), 1)
  | .negSucc k => (4 * unitsPerOne, Nat.pow 10 (k + 1))

/-- The point of the grid `10 ^ k` that reads back as the magnitude and lies nearest to it. -/
def gridPoint? (x : Binary64) (k : Int) : Option Nat :=
  let (step, scale) := gridStep k
  let value := 4 * x.units * scale
  let below := value / step
  let lowerHit := x.readsBack (below * step) scale
  let upperHit := x.readsBack ((below + 1) * step) scale
  if upperHit && (!lowerHit || step ≤ 2 * (value % step)) then some (below + 1)
  else if lowerHit then some below
  else none

/-- Exponents of the grids that can meet the interval of a double, coarsest first. -/
def gridExponents : List Int := (List.range 634).map fun (i : Nat) => 309 - (i : Int)

/-- The shortest decimal that reads back as the magnitude of a finite number. -/
def shortest (x : Binary64) : Decimal :=
  (gridExponents.findSome? fun k => (x.gridPoint? k).map fun n => ⟨n, k⟩).getD ⟨0, 0⟩

end Binary64

end Conformance
