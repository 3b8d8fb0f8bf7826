import ForestQuery.Decimal.Basic

/-!
# The shortest decimal of a finite number

`Finite.shortest` is the decimal with the fewest digits that rounds back to a magnitude, and of
those the one nearest to it. On the grid of decimals with a given number of digits only the two
neighbours of the magnitude need a look, and whether one of them reads back is tested by rounding
it.
-/

namespace ForestQuery.Finite

/-- A whole number of steps of a power of ten. -/
abbrev Steps := Nat × Int

/-- Whether so many steps of `10 ^ exponent` round to the magnitude. -/
def readsBack (units count : Nat) (exponent : Int) : Bool :=
  let ratio := Decimal.unitRatio count exponent
  roundUnits ratio.1 ratio.2 == units

/-- The magnitude counted in steps of `10 ^ exponent`, as a quotient. -/
def stepRatio (units : Nat) (exponent : Int) : Nat × Nat :=
  match exponent with
  | .ofNat e => (units, unitsPerOne * Nat.pow 10 e)
  | .negSucc e => (units * Nat.pow 10 (e + 1), unitsPerOne)

/-- The power of ten of the magnitude's first digit. Scaling by `10 ^ 400` makes every magnitude
at least one, so that its digits can be counted. -/
def leadingPower (units : Nat) : Int :=
  Decimal.digitCount (units * Nat.pow 10 400 / unitsPerOne) - 401

/-- The neighbour of the magnitude on the grid of steps of `10 ^ exponent` that reads back: the
nearer one if both do, and the even one if both are equally near. -/
def neighbour? (units : Nat) (exponent : Int) : Option Steps :=
  let ratio := stepRatio units exponent
  let below := ratio.1 / ratio.2
  let rest := ratio.1 % ratio.2
  match readsBack units below exponent, readsBack units (below + 1) exponent with
  | true, true =>
    -- both read back: the nearer one, and at equal distance the even one
    if ratio.2 < 2 * rest ∨ (ratio.2 = 2 * rest ∧ below % 2 = 1) then
      some (below + 1, exponent)
    else
      some (below, exponent)
  | true, false => some (below, exponent)
  | false, true => some (below + 1, exponent)
  | false, false => none

/-- The same decimal without zeros at its end. -/
def stripZeros (count : Nat) (exponent : Int) : Steps :=
  if 0 < count ∧ count % 10 = 0 then stripZeros (count / 10) (exponent + 1) else (count, exponent)
termination_by count

/-- The first decimal that reads back, looked for from one digit up to seventeen. -/
def candidate? (units : Nat) : Option Steps :=
  (List.range 17).findSome? fun (extra : Nat) => neighbour? units (leadingPower units - extra)

/-- The shortest decimal that rounds to a positive magnitude. Seventeen digits always suffice; the
magnitude's own decimal expansion stands behind them. -/
def shortest (units : Nat) : Steps :=
  (candidate? units).elim (units * Nat.pow 5 1074, -1074) fun steps => stripZeros steps.1 steps.2

end ForestQuery.Finite
