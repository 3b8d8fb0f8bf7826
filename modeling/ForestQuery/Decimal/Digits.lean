/-!
# Decimal digits

The digits of a natural number, its text in plain decimal, and the run of digits at the start of a
text. `ofDigits_digits` says that the digits of a number have its value, and `length_takeDigits`
that reading a run loses nothing.
-/

namespace ForestQuery.Decimal

/-- The digits of a number, the most significant first; zero has one digit. -/
def digits (n : Nat) : List Nat :=
  if n < 10 then [n] else digits (n / 10) ++ [n % 10]
termination_by n

/-- The number with these digits, the most significant first. -/
def ofDigits (ds : List Nat) : Nat :=
  ds.foldl (fun n d => 10 * n + d) 0

/-- The number of digits of a number. -/
def digitCount (n : Nat) : Nat :=
  if n < 10 then 1 else digitCount (n / 10) + 1
termination_by n

/-- The character of a digit. -/
def digitChar (d : Nat) : Char := Char.ofNat ('0'.toNat + d)

/-- The value of a digit character. -/
def digitValue? (c : Char) : Option Nat :=
  if '0' ≤ c ∧ c ≤ '9' then some (c.toNat - '0'.toNat) else none

/-- The characters of a run of digits. -/
def digitChars (ds : List Nat) : List Char := ds.map digitChar

/-- The text of a natural number in plain decimal. -/
def natText (n : Nat) : String := String.ofList (digitChars (digits n))

/-- The text of a whole number in plain decimal. -/
def intText (n : Int) : String :=
  if n < 0 then "-" ++ natText n.natAbs else natText n.natAbs

/-- The digits at the start of a text, and the text after them. -/
def takeDigits : List Char → List Nat × List Char
  | [] => ([], [])
  | c :: rest =>
    match digitValue? c with
    | some d => (d :: (takeDigits rest).1, (takeDigits rest).2)
    | none => ([], c :: rest)

/-- Every character is taken as a digit or left. -/
theorem length_takeDigits (cs : List Char) :
    (takeDigits cs).1.length + (takeDigits cs).2.length = cs.length := by
  fun_induction takeDigits cs with
  | case1 => rfl
  | case2 c rest d hd ih => simp only [List.length_cons]; omega
  | case3 c rest hd => exact Nat.zero_add _

theorem takeDigits_length_le (cs : List Char) : (takeDigits cs).2.length ≤ cs.length := by
  have := length_takeDigits cs
  omega

theorem ofDigits_append_singleton (ds : List Nat) (d : Nat) :
    ofDigits (ds ++ [d]) = 10 * ofDigits ds + d := by
  simp [ofDigits, List.foldl_append]

/-- The digits of a number have its value. -/
theorem ofDigits_digits (n : Nat) : ofDigits (digits n) = n := by
  fun_induction digits n with
  | case1 n h => simp [ofDigits]
  | case2 n h ih => rw [ofDigits_append_singleton, ih]; omega

end ForestQuery.Decimal
