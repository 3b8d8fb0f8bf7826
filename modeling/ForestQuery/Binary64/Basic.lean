/-!
# Numbers of the 64-bit binary format

A finite number of the format is a sign and a magnitude, and every magnitude is a whole number of
units of `2 ^ -1074`, the smallest positive magnitude. Counting in that unit keeps all of the
format's arithmetic in `Nat` and `Int`: `place?` puts every number but the undefined one on a line
of integers, and comparison is comparison of places.
-/

namespace ForestQuery

/-- The number of units in one. -/
def unitsPerOne : Nat := Nat.pow 2 1074

/-- The largest finite magnitude, in units: 53 one bits at the top of the exponent range. -/
def maxUnits : Nat := (Nat.pow 2 53 - 1) * Nat.pow 2 2045

/-- The power of two below which the bits of a magnitude of this size are dropped: 53 bits are
kept, and magnitudes under `2 ^ 53` units keep all of theirs. -/
def droppedBits (units : Nat) : Nat := units.log2 - 52

/-- A magnitude that the format can hold: at most 53 significant bits, and not too large. -/
def Representable (units : Nat) : Prop :=
  units % Nat.pow 2 (droppedBits units) = 0 ∧ units ≤ maxUnits

instance (units : Nat) : Decidable (Representable units) :=
  inferInstanceAs (Decidable (_ ∧ _))

/-- A finite number of the format. The two zeros differ in their sign. -/
structure Finite where
  /-- Whether the sign bit is set. -/
  negative : Bool
  /-- The magnitude, in units of `2 ^ -1074`. -/
  units : Nat
  /-- The format holds this magnitude. -/
  representable : Representable units
deriving DecidableEq

namespace Finite

theorem representable_zero : Representable 0 := by
  refine ⟨Nat.zero_mod _, Nat.zero_le _⟩

theorem representable_maxUnits : Representable maxUnits := by
  refine ⟨?_, Nat.le_refl _⟩
  decide +kernel

/-- A zero of the given sign. -/
def zero (negative : Bool) : Finite := ⟨negative, 0, representable_zero⟩

/-- The finite number of the given sign that lies furthest from zero. -/
def largest (negative : Bool) : Finite := ⟨negative, maxUnits, representable_maxUnits⟩

/-- The number's value in units. -/
def place (x : Finite) : Int :=
  if x.negative then -(x.units : Int) else x.units

/-- Equality of values: the two zeros are equal. -/
def same (x y : Finite) : Bool := x.place == y.place

@[simp] theorem place_zero (negative : Bool) : (zero negative).place = 0 := by
  cases negative <;> rfl

end Finite

/-- A number of the format, with its infinities and the undefined number. -/
inductive Binary64
  /-- A finite number. -/
  | finite (x : Finite)
  /-- The infinity of a sign. -/
  | infinite (negative : Bool)
  /-- The undefined number. -/
  | undefined
deriving DecidableEq

namespace Binary64

/-- The place of an infinity: one unit of the next exponent range, beyond every finite number. -/
def infinitePlace : Int := Nat.pow 2 2098

/-- The number's place on the line, or none for the undefined number. -/
def place? : Binary64 → Option Int
  | finite x => some x.place
  | infinite true => some (-infinitePlace)
  | infinite false => some infinitePlace
  | undefined => none

/-- The order of two numbers; the undefined number has none. -/
def compare? (x y : Binary64) : Option Ordering :=
  match x.place?, y.place? with
  | some a, some b => some (compare a b)
  | _, _ => none

/-- Whether `x` lies strictly below `y`. -/
def lt (x y : Binary64) : Bool := x.compare? y == some .lt

/-- The nearest finite number: an infinity becomes the largest number of its sign, and the
undefined number has none. -/
def clamp? : Binary64 → Option Finite
  | finite x => some x
  | infinite negative => some (.largest negative)
  | undefined => none

/-- The number itself if it is finite. -/
def finite? : Binary64 → Option Finite
  | finite x => some x
  | _ => none

end Binary64

end ForestQuery
