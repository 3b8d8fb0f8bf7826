import ForestQuery.Json.Basic
import ForestQuery.Decimal.Literal

/-!
# Tokens of JSON text

A JSON text is cut into tokens from the left, up to the first place where no token can be
completed. There the text is either at its end or malformed. Which of the two it counts as can
depend on whether the token is read for its value or only skipped, so a break says both: skipping
looks at less. A number or a string may also be complete and yet have no value, a number because it
lies beyond the binary format, a string because it escapes half of a surrogate pair.
-/

namespace ForestQuery.Json

/-- What is wrong with a text at the first place where it cannot be read on. -/
inductive Fault
  /-- The text ends too early. -/
  | endOfText
  /-- The text goes on in a way that no JSON text does. -/
  | malformed
deriving DecidableEq

/-- A place where a text cannot be read on. -/
structure Break where
  /-- What is wrong for a reader of the value that stands there. -/
  read : Fault
  /-- What is wrong for a reader that skips this value. -/
  skipped : Fault
deriving DecidableEq

/-- A break that is the same for both readers. -/
def Break.both (fault : Fault) : Break := ⟨fault, fault⟩

/-- A token of a JSON text. -/
inductive Token
  /-- An opening bracket. -/
  | openArray
  /-- A closing bracket. -/
  | closeArray
  /-- An opening brace. -/
  | openObject
  /-- A closing brace. -/
  | closeObject
  /-- A comma. -/
  | comma
  /-- A colon. -/
  | colon
  /-- The word of the null value. -/
  | null
  /-- The word of a truth value. -/
  | bool (value : Bool)
  /-- A number, with its value if the binary format holds it. -/
  | number (value : Option Number)
  /-- A string, with its text unless it escapes half of a surrogate pair. -/
  | string (value : Option String)
  /-- A string that breaks off. -/
  | brokenString (cause : Break)
  /-- Anything else that cannot be read on. -/
  | brokenWord (cause : Break)

namespace Token

/-! ### Strings -/

/-- A piece of a string: a character, or a code unit written as four hexadecimal digits. -/
inductive Piece
  /-- A character that stands for itself or is escaped by one letter. -/
  | char (c : Char)
  /-- An escaped code unit. -/
  | unit (n : Nat)

/-- The value of a hexadecimal digit. -/
def hexValue? (c : Char) : Option Nat :=
  if '0' ≤ c ∧ c ≤ '9' then some (c.toNat - '0'.toNat)
  else if 'a' ≤ c ∧ c ≤ 'f' then some (c.toNat - 'a'.toNat + 10)
  else if 'A' ≤ c ∧ c ≤ 'F' then some (c.toNat - 'A'.toNat + 10)
  else none

/-- The code unit of four hexadecimal digits. -/
def codeUnit? (a b c d : Char) : Option Nat := do
  let a ← hexValue? a
  let b ← hexValue? b
  let c ← hexValue? c
  let d ← hexValue? d
  return ((a * 16 + b) * 16 + c) * 16 + d

/-- The character that a letter after a backslash stands for. -/
def escaped? (c : Char) : Option Char :=
  if c = '"' ∨ c = '\\' ∨ c = '/' then some c
  else if c = 'b' then some '\x08'
  else if c = 'f' then some '\x0c'
  else if c = 'n' then some '\n'
  else if c = 'r' then some '\r'
  else if c = 't' then some '\t'
  else none

/-- How the body of a string ends: at its closing quote, or where it cannot be read on. -/
abbrev StringEnd := Except Fault (List Char)

/-- The pieces of a string up to its closing quote, and the text after it. Four hexadecimal digits
take at least four bytes: a text with less left than that has ended. -/
def takePieces : List Char → List Piece × StringEnd
  | [] => ([], .error .endOfText)
  | c :: cs =>
    if c = '"' then ([], .ok cs)
    else if c = '\\' then
      match cs with
      | [] => ([], .error .endOfText)
      | e :: rest =>
        if e = 'u' then
          match rest with
          | h₁ :: h₂ :: h₃ :: h₄ :: rest =>
            match codeUnit? h₁ h₂ h₃ h₄ with
            | some n => (.unit n :: (takePieces rest).1, (takePieces rest).2)
            | none => ([], .error .malformed)
          | short =>
            let fault := if (String.ofList short).utf8ByteSize < 4 then .endOfText else .malformed
            ([], .error fault)
        else
          match escaped? e with
          | some c => (.char c :: (takePieces rest).1, (takePieces rest).2)
          | none => ([], .error .malformed)
    else if c < ' ' then ([], .error .malformed)
    else (.char c :: (takePieces cs).1, (takePieces cs).2)

/-- Whether a code unit opens a surrogate pair. -/
def opensPair (n : Nat) : Bool := 0xD800 ≤ n && n ≤ 0xDBFF

/-- Whether a code unit closes a surrogate pair. -/
def closesPair (n : Nat) : Bool := 0xDC00 ≤ n && n ≤ 0xDFFF

/-- The text of pieces; none if half of a surrogate pair stands alone. -/
def pieceChars? : List Piece → Option (List Char)
  | [] => some []
  | .char c :: rest => (pieceChars? rest).map (c :: ·)
  | .unit n :: .unit m :: rest =>
    if opensPair n then
      if closesPair m then
        (pieceChars? rest).map
          (Char.ofNat (0x10000 + (n - 0xD800) * 0x400 + (m - 0xDC00)) :: ·)
      else none
    else if closesPair n then none
    else (pieceChars? (.unit m :: rest)).map (Char.ofNat n :: ·)
  | .unit n :: rest =>
    if opensPair n || closesPair n then none
    else (pieceChars? rest).map (Char.ofNat n :: ·)

/-- The pieces that a reader has judged when a string breaks off after them: of a pair's first half
at the end it still awaits the second. -/
def judged (pieces : List Piece) : List Piece :=
  match pieces.getLast? with
  | some (.unit n) => if opensPair n then pieces.dropLast else pieces
  | _ => pieces

/-- The string token whose body starts here, and the text after it. -/
def scanString (body : List Char) : Token × List Char :=
  match takePieces body with
  | (pieces, .ok rest) => (.string ((pieceChars? pieces).map String.ofList), rest)
  | (pieces, .error fault) =>
    let read := if (pieceChars? (judged pieces)).isSome then fault else .malformed
    (.brokenString ⟨read, fault⟩, [])

/-! ### Numbers and words -/

/-- The break inside a number: a reader that skips it takes the end of the text for one more
character that does not belong there. -/
def breakInNumber (rest : List Char) : Break :=
  if rest.isEmpty then ⟨.endOfText, .malformed⟩ else .both .malformed

/-- The digits before the point: at least one, and no zero before another digit. -/
def takeWhole (cs : List Char) : Except Break (List Nat × List Char) :=
  let whole := Decimal.takeDigits cs
  if whole.1.isEmpty then .error (breakInNumber whole.2)
  else if whole.1.head? = some 0 ∧ 1 < whole.1.length then .error (.both .malformed)
  else .ok whole

/-- The digits after the point, if there is a point: then at least one. -/
def takePoint : List Char → Except Break (Option (List Nat) × List Char)
  | '.' :: cs =>
    match Decimal.takeDigits cs with
    | ([], rest) => .error (breakInNumber rest)
    | (ds, rest) => .ok (some ds, rest)
  | cs => .ok (none, cs)

/-- The exponent, if there is an exponent mark: then at least one digit. -/
def takeExponent : List Char → Except Break (Option Int × List Char)
  | c :: cs =>
    if c = 'e' ∨ c = 'E' then
      match Decimal.takeDigits (Decimal.takeSign cs).2 with
      | ([], rest) => .error (breakInNumber rest)
      | (ds, rest) =>
        let value : Int := Decimal.ofDigits ds
        .ok (some (if (Decimal.takeSign cs).1 then -value else value), rest)
    else
      .ok (none, c :: cs)
  | [] => .ok (none, [])

/-- The value of a number. Without point and exponent it is a whole number, but for the negative
zero. -/
def numberValue? (negative : Bool) (whole : List Nat) (fraction : Option (List Nat))
    (exponent : Option Int) : Option Number :=
  match fraction, exponent with
  | none, none =>
    let magnitude := Decimal.ofDigits whole
    -- no whole number is a negative zero, so that one is of the binary format
    if negative then
      if magnitude = 0 then some (.float (.zero true)) else Number.ofInteger? (-magnitude)
    else
      Number.ofInteger? magnitude
  | _, _ =>
    let ds := fraction.getD []
    -- every digit after the point lowers the power of ten by one
    let decimal : Decimal :=
      ⟨negative, Decimal.ofDigits (whole ++ ds), exponent.getD 0 - ds.length⟩
    decimal.toBinary64.finite?.map .float

/-- The minus sign of a number, and the text after it. -/
def takeMinus : List Char → Bool × List Char
  | '-' :: cs => (true, cs)
  | cs => (false, cs)

/-- The number at the start of a text, and the text after it. -/
def takeNumber (cs : List Char) : Except Break (Option Number × List Char) :=
  match takeWhole (takeMinus cs).2 with
  | .error b => .error b
  | .ok (whole, rest) =>
    match takePoint rest with
    | .error b => .error b
    | .ok (fraction, rest) =>
      match takeExponent rest with
      | .error b => .error b
      | .ok (exponent, rest) =>
        .ok (numberValue? (takeMinus cs).1 whole fraction exponent, rest)

/-- The number token at the start of a text, and the text after it. -/
def scanNumber (cs : List Char) : Token × List Char :=
  match takeNumber cs with
  | .ok (value, rest) => (.number value, rest)
  | .error b => (.brokenWord b, [])

/-- The token of a word whose first letter was read, and the text after it. -/
def scanWord (token : Token) : List Char → List Char → Token × List Char
  | [], rest => (token, rest)
  | _ :: _, [] => (.brokenWord (.both .endOfText), [])
  | e :: expected, c :: rest =>
    if c = e then scanWord token expected rest else (.brokenWord (.both .malformed), [])

/-- The token of a punctuation mark. -/
def punctuation? : Char → Option Token
  | '[' => some .openArray
  | ']' => some .closeArray
  | '\x7b' => some .openObject
  | '\x7d' => some .closeObject
  | ',' => some .comma
  | ':' => some .colon
  | _ => none

/-- The token of the word that starts with a letter, and the letters that must follow. -/
def word? : Char → Option (Token × List Char)
  | 'n' => some (.null, ['u', 'l', 'l'])
  | 't' => some (.bool true, ['r', 'u', 'e'])
  | 'f' => some (.bool false, ['a', 'l', 's', 'e'])
  | _ => none

/-- The token that starts with a character, and the text after it. -/
def scan (c : Char) (rest : List Char) : Token × List Char :=
  match punctuation? c, word? c with
  | some token, _ => (token, rest)
  | none, some (token, expected) => scanWord token expected rest
  | none, none =>
    if c = '"' then scanString rest
    else if c = '-' ∨ (Decimal.digitValue? c).isSome then scanNumber (c :: rest)
    else (.brokenWord (.both .malformed), [])

/-- The white space of JSON text. -/
def isSpace (c : Char) : Bool := c = ' ' || c = '\n' || c = '\t' || c = '\r'

/-! ### A token takes at least one character -/

private theorem takePieces_length_le {cs rest : List Char} (h : (takePieces cs).2 = .ok rest) :
    rest.length ≤ cs.length := by
  fun_induction takePieces cs generalizing rest with
  | case2 =>
    simp only [Except.ok.injEq] at h
    subst h
    exact Nat.le_succ _
  | case4 _ h₁ h₂ h₃ h₄ tail n hn ih =>
    have := ih h
    simp only [List.length_cons]
    omega
  | case7 _ _ tail _ c hc ih =>
    have := ih h
    simp only [List.length_cons]
    omega
  | case10 c cs _ _ _ ih =>
    have := ih h
    simp only [List.length_cons]
    omega
  | _ => simp at h

private theorem scanString_length_le (cs : List Char) : (scanString cs).2.length ≤ cs.length := by
  rw [scanString]
  split
  · next rest heq => exact takePieces_length_le (by rw [heq])
  · exact Nat.zero_le _

private theorem scanWord_length_le (token : Token) (expected cs : List Char) :
    (scanWord token expected cs).2.length ≤ cs.length := by
  fun_induction scanWord token expected cs with
  | case1 => exact Nat.le_refl _
  | case2 => exact Nat.le_refl _
  | case3 expected c rest ih => exact Nat.le_succ_of_le ih
  | case4 => exact Nat.zero_le _

private theorem takeWhole_length_lt {cs rest : List Char} {ds : List Nat}
    (h : takeWhole cs = .ok (ds, rest)) : rest.length < cs.length := by
  have hlen := Decimal.length_takeDigits cs
  rw [takeWhole] at h
  split at h
  · exact nomatch h
  · next hne =>
    split at h
    · exact nomatch h
    · simp only [Except.ok.injEq] at h
      rw [h] at hlen hne
      -- at least one character went into the digits
      have := List.length_pos_iff.2 (mt List.isEmpty_iff.2 hne)
      simp only at hlen this
      omega

private theorem takeSign_length_le (cs : List Char) :
    (Decimal.takeSign cs).2.length ≤ cs.length := by
  rw [Decimal.takeSign.eq_def]
  split <;> simp

private theorem takePoint_length_le {cs rest : List Char} {ds : Option (List Nat)}
    (h : takePoint cs = .ok (ds, rest)) : rest.length ≤ cs.length := by
  rw [takePoint.eq_def] at h
  split at h
  · next cs =>
    have hle := Decimal.takeDigits_length_le cs
    split at h
    · exact nomatch h
    · next heq =>
      simp only [Except.ok.injEq, Prod.mk.injEq] at h
      rw [heq, h.2] at hle
      exact Nat.le_succ_of_le hle
  · simp only [Except.ok.injEq, Prod.mk.injEq] at h
    exact Nat.le_of_eq (congrArg List.length h.2.symm)

private theorem takeExponent_length_le {cs rest : List Char} {e : Option Int}
    (h : takeExponent cs = .ok (e, rest)) : rest.length ≤ cs.length := by
  rw [takeExponent.eq_def] at h
  split at h
  · next c cs =>
    split at h
    · have hle := Decimal.takeDigits_length_le (Decimal.takeSign cs).2
      have := takeSign_length_le cs
      split at h
      · exact nomatch h
      · next heq =>
        simp only [Except.ok.injEq, Prod.mk.injEq] at h
        rw [heq, h.2] at hle
        simp only [List.length_cons] at *
        omega
    · simp only [Except.ok.injEq, Prod.mk.injEq] at h
      exact Nat.le_of_eq (congrArg List.length h.2.symm)
  · simp only [Except.ok.injEq, Prod.mk.injEq] at h
    exact Nat.le_of_eq (congrArg List.length h.2.symm)

private theorem takeMinus_length_le (cs : List Char) : (takeMinus cs).2.length ≤ cs.length := by
  rw [takeMinus.eq_def]
  split <;> simp

private theorem scanNumber_length_lt (c : Char) (cs : List Char) :
    (scanNumber (c :: cs)).2.length < (c :: cs).length := by
  have hminus := takeMinus_length_le (c :: cs)
  rw [scanNumber]
  split
  · next value rest heq =>
    rw [takeNumber] at heq
    split at heq
    · exact nomatch heq
    · next hwhole =>
      split at heq
      · exact nomatch heq
      · next hpoint =>
        split at heq
        · exact nomatch heq
        · next hexp =>
          simp only [Except.ok.injEq, Prod.mk.injEq] at heq
          -- only the digits before the point must be there
          have h₁ := takeWhole_length_lt hwhole
          have h₂ := takePoint_length_le hpoint
          have h₃ := takeExponent_length_le hexp
          rw [heq.2] at h₃
          exact Nat.lt_of_le_of_lt h₃ (by omega)
  · exact Nat.succ_pos _

/-- What is left after a token is no longer than the text after the token's first character. -/
theorem scan_length_le (c : Char) (rest : List Char) : (scan c rest).2.length ≤ rest.length := by
  unfold scan
  split
  · exact Nat.le_refl _
  · exact scanWord_length_le _ _ rest
  · split
    · exact scanString_length_le rest
    · split
      · exact Nat.le_of_lt_succ (scanNumber_length_lt c rest)
      · exact Nat.zero_le _

end Token

/-- The tokens of a text, up to the first that cannot be completed. -/
def tokens : List Char → List Token
  | [] => []
  | c :: rest =>
    if Token.isSpace c then tokens rest
    else (Token.scan c rest).1 :: tokens (Token.scan c rest).2
termination_by cs => cs.length
decreasing_by
  · exact Nat.lt_succ_self _
  · exact Nat.lt_succ_of_le (Token.scan_length_le c rest)

end ForestQuery.Json
