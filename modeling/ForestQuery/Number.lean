import ForestQuery.Binary64.Shortest

/-!
# Document numbers

A number in a document is a whole number of a 64-bit word, signed or unsigned, or a finite number
of the 64-bit binary format. The two kinds stay apart: `1` and `1.0` are different numbers, though
`Number.toBinary64` takes both to the same place. `Number.text` writes a number.
-/

namespace ForestQuery

/-- A whole number that a signed or an unsigned 64-bit word holds. -/
def InWordRange (n : Int) : Prop := -9223372036854775808 ≤ n ∧ n < 18446744073709551616

instance (n : Int) : Decidable (InWordRange n) :=
  inferInstanceAs (Decidable (_ ∧ _))

/-- A number in a document. -/
inductive Number
  /-- A whole number within 64 bits. -/
  | int (value : Int) (fits : InWordRange value)
  /-- A finite number of the binary format. -/
  | float (value : Finite)
deriving DecidableEq

/-- The powers of ten of the first digit between which a decimal is written positionally. -/
structure PositionalRange where
  /-- The lowest power of ten. -/
  lowest : Int
  /-- The highest power of ten. -/
  highest : Int

namespace Number

/-- A whole number: of the integer kind if it fits into 64 bits, else rounded, and none if it lies
beyond the binary format. -/
def ofInteger? (n : Int) : Option Number :=
  if h : InWordRange n then some (.int n h) else (Binary64.ofInt n).finite?.map .float

/-- A word as a number. -/
def ofUInt64 (n : UInt64) : Number :=
  .int n.toNat (by have := n.toNat_lt; unfold InWordRange; omega)

/-- The number in the binary format, rounded if it is a long whole number. -/
def toBinary64 : Number → Binary64
  | int n _ => .ofInt n
  | float x => .finite x

/-- Equality of values: numbers of different kinds differ, and the two zeros are equal. -/
def same : Number → Number → Bool
  | int m _, int n _ => m == n
  | float x, float y => x.same y
  | _, _ => false

/-- Every number equals itself. -/
theorem same_self : (n : Number) → n.same n
  | int m _ => beq_self_eq_true m
  | float x => beq_self_eq_true x.place

/-- The word, if the number is of the integer kind and not negative. -/
def toUInt64? : Number → Option UInt64
  | int n _ => if 0 ≤ n then some (UInt64.ofNat n.toNat) else none
  | float _ => none

/-- Decimals are written positionally from `0.00001` up to sixteen digits before the point, and
with an exponent beyond. -/
def positional : PositionalRange := ⟨-5, 15⟩

/-- The text of digits whose first one counts `10 ^ power`, in positional notation. -/
def positionalText (ds : List Nat) (power : Int) : String :=
  match power with
  | .ofNat p =>
    let whole := ds.take (p + 1) ++ List.replicate (p + 1 - ds.length) 0
    let fraction := ds.drop (p + 1)
    let fraction := if fraction.isEmpty then [0] else fraction
    String.ofList (Decimal.digitChars whole ++ '.' :: Decimal.digitChars fraction)
  | .negSucc p =>
    String.ofList ('0' :: '.' :: Decimal.digitChars (List.replicate p 0 ++ ds))

/-- The text of digits whose first one counts `10 ^ power`, with an exponent. -/
def exponentText (ds : List Nat) (power : Int) : String :=
  let mantissa :=
    match ds with
    | d :: e :: rest => Decimal.digitChar d :: '.' :: Decimal.digitChars (e :: rest)
    | short => Decimal.digitChars short
  let sign := if power < 0 then "e-" else "e+"
  String.ofList mantissa ++ sign ++ Decimal.natText power.natAbs

/-- The text of a magnitude. -/
def magnitudeText (units : Nat) : String :=
  if units = 0 then
    "0.0"
  else
    let steps := Finite.shortest units
    let ds := Decimal.digits steps.1
    let power := steps.2 + (ds.length - 1 : Nat)
    if positional.lowest ≤ power ∧ power ≤ positional.highest then
      positionalText ds power
    else
      exponentText ds power

/-- The text of a finite number: its shortest decimal, with a point or an exponent. -/
def finiteText (x : Finite) : String :=
  if x.negative then "-" ++ magnitudeText x.units else magnitudeText x.units

/-- The text of a number. -/
def text : Number → String
  | int n _ => Decimal.intText n
  | float x => finiteText x

end Number

end ForestQuery
