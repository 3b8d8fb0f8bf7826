import ForestQuery.Decimal.Basic
import ForestQuery.Text.Blank

/-!
# The decimal literal at the start of a text

A text may open with a number and go on with anything: `"12.5kg"` is read as 12.5. A literal is an
optional sign and then either the word `Infinity`, or digits with an optional point (digits on at
least one side of it) and an optional exponent, which counts only if a digit follows it. White
space before the literal is skipped.
-/

namespace ForestQuery.Decimal

/-- The sign at the start of a text, negative or not, and the text after it. -/
def takeSign : List Char → Bool × List Char
  | '-' :: rest => (true, rest)
  | '+' :: rest => (false, rest)
  | rest => (false, rest)

/-- The digits after a point at the start of a text, and the text after them. -/
def takeFraction : List Char → List Nat × List Char
  | '.' :: rest => takeDigits rest
  | rest => ([], rest)

/-- The exponent at the start of a text: zero unless an exponent mark, an optional sign and a digit
stand there. -/
def leadingExponent : List Char → Int
  | c :: rest =>
    if c = 'e' ∨ c = 'E' then
      let signed := takeSign rest
      let value := ofDigits (takeDigits signed.2).1
      if signed.1 then -value else value
    else
      0
  | [] => 0

/-- The unsigned decimal number at the start of a text. -/
def leadingDecimal? (negative : Bool) (cs : List Char) : Option Decimal :=
  let whole := takeDigits cs
  let fraction := takeFraction whole.2
  if whole.1.isEmpty && fraction.1.isEmpty then
    none
  else
    some ⟨negative, ofDigits (whole.1 ++ fraction.1),
      leadingExponent fraction.2 - fraction.1.length⟩

/-- The number that a text opens with, after white space. -/
def leadingNumber? (text : String) : Option Binary64 :=
  let signed := takeSign (Text.trimStart text.toList)
  if "Infinity".toList.isPrefixOf signed.2 then
    some (.infinite signed.1)
  else
    (leadingDecimal? signed.1 signed.2).map toBinary64

end ForestQuery.Decimal
