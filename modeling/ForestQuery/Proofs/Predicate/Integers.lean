import ForestQuery.Proofs.Decimal.Shortest
import ForestQuery.Proofs.Predicate.Comparison

/-!
# Integers in conditions

Conditions compare integers as they compare all numbers, by their places in the binary format.
Rounding keeps the order of integers, so a condition never takes the lower of two integers for the
higher one. But it may bring two integers to the same place, and then conditions take them for
equal. This happens only if both have more than 53 bits.

## Key results

- `roundUnits_mono`: rounding keeps the order
- `Number.place_int_le_place_int`, `Number.eq_of_place_int_eq`: the places of integers are in the
  order of the integers, and integers of at most 53 bits share theirs with no other one
- `Predicate.answersAs_place`: conditions answer as the places stand to each other
- `Predicate.isMatch_integer_iff`: they answer as the integers do exactly if these have different
  places or are equal
-/

namespace ForestQuery

/-! ### Rounding and the order -/

/-- Rounding keeps the order. -/
theorem roundUnits_mono {num num' den : Nat} (hden : 0 < den) (hle : num ≤ num') :
    roundUnits num den ≤ roundUnits num' den := by
  -- if the two were the wrong way round, each quotient would lie on the wrong side of their middle
  have hnearest : gap num den (roundUnits num den) ≤ gap num den (roundUnits num' den) :=
    roundUnits_nearest hden (roundUnits_mod num' den)
  have hnearest' : gap num' den (roundUnits num' den) ≤ gap num' den (roundUnits num den) :=
    roundUnits_nearest hden (roundUnits_mod num den)
  obtain rfl | hlt := Nat.eq_or_lt_of_le hle
  · exact Nat.le_refl _
  · rw [← Nat.not_lt]
    intro hwrong
    have hmul := Nat.mul_lt_mul_of_pos_right hwrong hden
    rw [gap, gap] at hnearest hnearest'
    omega

/-- The magnitude of a natural number in the format, in units. -/
def magnitude (n : Nat) : Nat := roundUnits (n * unitsPerOne) 1

theorem magnitude_mono {m n : Nat} (hle : m ≤ n) : magnitude m ≤ magnitude n :=
  roundUnits_mono Nat.one_pos (Nat.mul_le_mul_right _ hle)

/-- A number of at most 53 bits is kept. -/
theorem magnitude_eq {n : Nat} (hle : n ≤ Nat.pow 2 53) : magnitude n = n * unitsPerOne := by
  have hmod : n * unitsPerOne % Nat.pow 2 (droppedBits (n * unitsPerOne)) = 0 := by
    -- the power of two is not to be evaluated
    obtain ⟨e, he⟩ : ∃ e, unitsPerOne = Nat.pow 2 e := ⟨1074, by delta unitsPerOne; rfl⟩
    rw [he]
    exact mod_droppedBits_of_mul hle
  have hnearest :
      gap (n * unitsPerOne) 1 (magnitude n) ≤ gap (n * unitsPerOne) 1 (n * unitsPerOne) :=
    roundUnits_nearest Nat.one_pos hmod
  rw [gap, gap] at hnearest
  omega

/-! ### The places of integers -/

namespace Number

variable {a b : Int} (ha : InWordRange a) (hb : InWordRange b)

/-- The place of an integer. -/
theorem place_int :
    (int a ha).place = if a < 0 then -(magnitude a.natAbs : Int) else magnitude a.natAbs := by
  obtain ⟨x, hx⟩ := Binary64.ofInt_finite ha
  rw [place_eq (n := int a ha) hx]
  rw [Binary64.ofInt, Binary64.ofRatio] at hx
  split at hx
  · obtain rfl := Binary64.finite.inj hx
    simp [Finite.place, magnitude]
  · cases hx

/-- The places of integers are in the order of the integers. -/
theorem place_int_le_place_int (hle : a ≤ b) : (int a ha).place ≤ (int b hb).place := by
  rw [place_int, place_int]
  by_cases hneg : b < 0
  · have hmagnitude : magnitude b.natAbs ≤ magnitude a.natAbs := magnitude_mono (by omega)
    rw [if_pos hneg, if_pos (by omega)]
    omega
  · rw [if_neg hneg]
    split
    · omega
    · have hmagnitude : magnitude a.natAbs ≤ magnitude b.natAbs := magnitude_mono (by omega)
      omega

theorem natAbs_place_int : (int a ha).place.natAbs = magnitude a.natAbs := by
  rw [place_int]
  split <;> omega

/-- The place of an integer of at most 53 bits. -/
theorem place_int_of_le (hle : a.natAbs ≤ Nat.pow 2 53) : (int a ha).place = a * unitsPerOne := by
  rw [place_int, magnitude_eq hle, Int.natCast_mul]
  split
  · rw [← Int.neg_mul, Int.ofNat_natAbs_of_nonpos (by omega), Int.neg_neg]
  · rw [Int.natAbs_of_nonneg (by omega)]

/-- An integer of at most 53 bits shares its place with no other one. -/
theorem eq_of_place_int_eq (hlt : a.natAbs < Nat.pow 2 53)
    (hplace : (int a ha).place = (int b hb).place) : a = b := by
  have hunits : 0 < unitsPerOne := by decide +kernel
  have hmagnitude : magnitude a.natAbs = magnitude b.natAbs := by
    rw [← natAbs_place_int ha, hplace, natAbs_place_int hb]
  obtain hle | hlarge := Nat.le_total b.natAbs (Nat.pow 2 53)
  · rw [place_int_of_le ha (Nat.le_of_lt hlt), place_int_of_le hb hle] at hplace
    exact Int.eq_of_mul_eq_mul_right (by omega) hplace
  · -- the longer integer has a magnitude beyond that of the shorter one
    have hbeyond := magnitude_mono hlarge
    have hbelow := Nat.mul_lt_mul_of_pos_right hlt hunits
    rw [← hmagnitude, magnitude_eq (Nat.le_refl _), magnitude_eq (Nat.le_of_lt hlt)] at hbeyond
    exact absurd hbelow (Nat.not_lt.2 hbeyond)

/-- Integers compare as their places do, unless they differ and have the same place. -/
theorem compare_place_int_eq_iff :
    compare (int a ha).place (int b hb).place = compare a b ↔
      ((int a ha).place = (int b hb).place → a = b) := by
  constructor
  · intro hcompare hplace
    rw [Int.compare_eq_eq.2 hplace] at hcompare
    exact Int.compare_eq_eq.1 hcompare.symm
  · intro hsame
    obtain hlt | rfl | hgt := Int.lt_trichotomy a b
    · have hle := place_int_le_place_int ha hb (Int.le_of_lt hlt)
      have hne : (int a ha).place ≠ (int b hb).place :=
        fun hplace => Int.ne_of_lt hlt (hsame hplace)
      rw [Int.compare_eq_lt.2 hlt, Int.compare_eq_lt]
      omega
    · rw [Int.compare_eq_eq.2 rfl, Int.compare_eq_eq.2 rfl]
    · have hle := place_int_le_place_int hb ha (Int.le_of_lt hgt)
      have hne : (int a ha).place ≠ (int b hb).place :=
        fun hplace => Int.ne_of_lt hgt (hsame hplace).symm
      rw [Int.compare_eq_gt.2 hgt, Int.compare_eq_gt]
      omega

end Number

/-! ### Conditions -/

namespace Predicate

/-- The conditions with a value answer of a document as one integer stands to another one. -/
structure AnswersAs (compiles : String → Bool) (path : String) (value document : Json) (a b : Int) :
    Prop where
  /-- Equality holds if the integers are equal. -/
  equals : (field path (.equals value)).isMatch compiles document = true ↔ a = b
  /-- Inequality holds if they differ. -/
  differs : (field path (.differs value)).isMatch compiles document = true ↔ a ≠ b
  /-- A relation holds if the first stands in it to the second. -/
  range (relation : Relation) :
    (field path (.range relation value)).isMatch compiles document = true ↔ relation.Holds a b

variable {path : String} {document : Json}

/-- Of a stored number, conditions with a number answer as the places stand to each other. -/
theorem answersAs_place (compiles : String → Bool) {m : Number}
    (hstored : document.at? path = some (.number m)) (n : Number) :
    AnswersAs compiles path (.number n) document m.place n.place := by
  have hequals : (field path (.equals (.number n))).isMatch compiles document = true ↔
      m.place = n.place := by
    rw [isMatch, hstored]
    exact Json.equalsValue_number_number m n
  refine ⟨hequals, ?_, ?_⟩
  · show (!(field path (.equals (.number n))).isMatch compiles document) = true ↔ _
    rw [Bool.not_eq_true', ne_eq, ← hequals, Bool.not_eq_true]
  · intro relation
    rw [isMatch, hstored]
    show (Option.bind (some (Json.number m)) (·.compare? (.number n))).any relation.admits = true ↔
      _
    rw [Option.bind_some, Json.compare?_number_number, ← relation.admits_compare_iff]
    rfl

/-- What the conditions answer depends on how the integers compare, and tells it. -/
theorem AnswersAs.iff_compare_eq {compiles : String → Bool} {value : Json} {a b a' b' : Int}
    (h : AnswersAs compiles path value document a b) :
    AnswersAs compiles path value document a' b' ↔ compare a b = compare a' b' := by
  constructor
  · intro h'
    have hequal : a = b ↔ a' = b' := h.equals.symm.trans h'.equals
    have hless : a < b ↔ a' < b' := (h.range .less).symm.trans (h'.range .less)
    obtain hlt | heq | hgt := Int.lt_trichotomy a b
    · rw [Int.compare_eq_lt.2 hlt, Int.compare_eq_lt.2 (hless.1 hlt)]
    · rw [Int.compare_eq_eq.2 heq, Int.compare_eq_eq.2 (hequal.1 heq)]
    · rw [Int.compare_eq_gt.2 hgt, Int.compare_eq_gt.2 (by omega)]
  · intro hcompare
    have hequal : a = b ↔ a' = b' := by
      rw [← Int.compare_eq_eq, hcompare, Int.compare_eq_eq]
    refine ⟨h.equals.trans hequal, h.differs.trans (not_congr hequal), ?_⟩
    intro relation
    rw [h.range, ← relation.admits_compare_iff, hcompare, relation.admits_compare_iff]

/-- Of a stored integer, conditions with an integer answer as their places stand to each other. They
answer as the integers do exactly if these are equal or have different places, and so whenever one
of them is below `2 ^ 53` in magnitude. -/
theorem isMatch_integer_iff (compiles : String → Bool) {a b : Int} (ha : InWordRange a)
    (hb : InWordRange b) (hstored : document.at? path = some (.number (.int a ha))) :
    AnswersAs compiles path (.number (.int b hb)) document (Number.int a ha).place
      (Number.int b hb).place ∧
    (AnswersAs compiles path (.number (.int b hb)) document a b ↔
      ((Number.int a ha).place = (Number.int b hb).place → a = b)) ∧
    (a.natAbs < Nat.pow 2 53 ∨ b.natAbs < Nat.pow 2 53 →
      AnswersAs compiles path (.number (.int b hb)) document a b) := by
  have hplaces := answersAs_place compiles hstored (.int b hb)
  have hexact := hplaces.iff_compare_eq.trans (Number.compare_place_int_eq_iff ha hb)
  refine ⟨hplaces, hexact, ?_⟩
  intro hshort
  rw [hexact]
  intro hplace
  obtain hlt | hlt := hshort
  · exact Number.eq_of_place_int_eq ha hb hlt hplace
  · exact (Number.eq_of_place_int_eq hb ha hlt hplace.symm).symm

/-- Of two neighbours about `2 ^ 53`, the lower one keeps its place to itself. -/
theorem isMatch_integer_iff_neighbours :
    let stored : Number := .int 9007199254740992 (by decide)
    let document : Json := .object [("id", .number stored)]
    let compiles (_ : String) : Bool := true
    document.at? "id" = some (.number stored) ∧
      AnswersAs compiles "id" (.number (.int 9007199254740991 (by decide))) document
        9007199254740992 9007199254740991 := by
  intro stored document compiles
  have hnames : Path.Names "id" ["id"] := Path.names_iff.2 (by decide +kernel)
  have hstored : document.at? "id" = some (.number stored) :=
    Json.at?_eq_some_iff.2 ⟨["id"], hnames, .member rfl (.here _)⟩
  refine ⟨hstored, ?_⟩
  exact (isMatch_integer_iff compiles (by decide) (by decide) hstored).2.2 (.inr (by decide))

/-- The next integer after `2 ^ 53` is taken for it. -/
theorem not_answersAs_next_integer :
    let document : Json := .object [("id", .number (.int 9007199254740993 (by decide)))]
    let compiles (_ : String) : Bool := true
    ¬ AnswersAs compiles "id" (.number (.int 9007199254740992 (by decide))) document
      9007199254740993 9007199254740992 := by
  intro document compiles hanswers
  exact absurd (hanswers.equals.1 (by decide +kernel)) (by decide)

end Predicate

end ForestQuery
