import Mathlib.Algebra.Order.Field.Rat
import Mathlib.Tactic.FieldSimp
import Mathlib.Tactic.Linarith
import Mathlib.Tactic.NormNum
import Mathlib.Tactic.Positivity
import Mathlib.Tactic.Ring
import PresentationVerifier.Proofs.Integrity
import PresentationVerifier.Proofs.Printing

/-!
# Dates by value

A JSON number can be spelled in any number of ways: `1700000000`, `1700000000.0`, `1.7e9` and
`17000000000e-1` are one number. A date is read from the digits where they are an integer, and by way of the
nearest double where there is a point or an exponent. The two ways meet on every integer up to `2 ^ 53`, as
such an integer is a double, and nothing is rounded (`truncateNearest_of_le`).

Very large and very small numbers are settled by their count of digits alone, without a power of ten. An
integer up to `2 ^ 53` is neither (`digits_of_value`).

Main results:

* `read_of_denotes`: what the grammar says that a text denotes is the value of the number it is read as.
* `toSeconds?_of_value`: a number is read as the integer that is its value.
* `numericDate_by_value`: dates, and with them the checks of points in time, do not depend on spelling.
-/

namespace PresentationVerifier

namespace Json

/-! ## Rows of digits -/

/-- Digits in front of others are worth a power of ten more. -/
@[simp] theorem digitsValue_append (ds es : List Digit) :
    digitsValue (ds ++ es) = digitsValue ds * 10 ^ es.length + digitsValue es := by
  -- the digits so far are multiplied by ten for each digit that follows
  have hFold : ∀ (es : List Digit) (n : Nat),
      es.foldl (fun n d => n * 10 + d.val) n = n * 10 ^ es.length + digitsValue es := by
    intro es
    induction es with
    | nil => intro n; simp [digitsValue]
    | cons d es ih =>
      intro n
      rw [digitsValue, List.foldl_cons, List.foldl_cons, ih (n * 10 + d.val), ih (0 * 10 + d.val),
        List.length_cons, pow_succ]
      ring
  rw [digitsValue, List.foldl_append, hFold]
  rfl

@[simp] theorem digitsValue_cons (d : Digit) (ds : List Digit) :
    digitsValue (d :: ds) = d.val * 10 ^ ds.length + digitsValue ds := by
  have hOne : digitsValue [d] = d.val := by simp [digitsValue]
  rw [← List.singleton_append, digitsValue_append, hOne]

/-- Digits are worth less than the power of ten that has one digit more. -/
theorem digitsValue_lt (ds : List Digit) : digitsValue ds < 10 ^ ds.length := by
  -- by induction on the digits, the first of which is at most nine
  induction ds with
  | nil => simp [digitsValue]
  | cons d ds ih =>
    have hDigit : d.val ≤ 9 := by omega
    have hFirst : d.val * 10 ^ ds.length ≤ 9 * 10 ^ ds.length := Nat.mul_le_mul_right _ hDigit
    rw [digitsValue_cons, List.length_cons, pow_succ]
    omega

/-- Zeros in front say nothing. -/
theorem digitsValue_dropZeros (ds : List Digit) :
    digitsValue (ds.dropWhile (·.val = 0)) = digitsValue ds := by
  induction ds with
  | nil => rfl
  | cons d ds ih =>
    by_cases hZero : d.val = 0
    · rw [List.dropWhile_cons_of_pos (by simpa using hZero), ih, digitsValue_cons, hZero]
      omega
    · rw [List.dropWhile_cons_of_neg (by simpa using hZero)]

namespace Number

/-- The digits of a coefficient without the zeros in front tell its size. -/
theorem coefficient_bounds {n : Number} (h : n.coefficient ≠ 0) :
    ∃ k, n.significant = k + 1 ∧ 10 ^ k ≤ n.coefficient ∧ n.coefficient < 10 ^ (k + 1) := by
  have hValue := digitsValue_dropZeros (n.whole ++ n.fraction)
  have hBelow := digitsValue_lt ((n.whole ++ n.fraction).dropWhile (·.val = 0))
  rw [hValue] at hBelow
  unfold coefficient significant at *
  cases hDigits : (n.whole ++ n.fraction).dropWhile (·.val = 0) with
  | nil =>
    rw [hDigits] at hValue
    exact absurd hValue.symm h
  | cons d ds =>
    rw [hDigits] at hValue hBelow
    -- what is left begins with a digit that is no zero, and this digit alone is worth a power of ten
    have hFirst : d.val ≠ 0 := by
      have hNot := List.head?_dropWhile_not (fun d : Digit => decide (d.val = 0)) (n.whole ++ n.fraction)
      rw [hDigits] at hNot
      simpa using hNot
    refine ⟨ds.length, rfl, ?_, hBelow⟩
    rw [← hValue, digitsValue_cons]
    have hPower : 1 * 10 ^ ds.length ≤ d.val * 10 ^ ds.length := Nat.mul_le_mul_right _ (by omega)
    omega

end Number

/-! ## Doubles -/

/-- A quotient without a remainder is not rounded. -/
theorem roundHalfEven_mul (m : Nat) {den : Nat} (hDen : 0 < den) : roundHalfEven (m * den) den = m := by
  have hQuotient : m * den / den = m := Nat.mul_div_cancel m hDen
  have hRemainder : m * den % den = 0 := Nat.mul_mod_left m den
  unfold roundHalfEven
  simp only [hQuotient, hRemainder]
  rw [if_pos (Or.inl (by omega))]

/-- A number below a power of two has no more bits than the exponent says. -/
theorem bitLength_le {m k : Nat} (h : m < 2 ^ k) : bitLength m ≤ k := by
  unfold bitLength
  split
  · omega
  · next hSome => exact (Nat.log2_lt hSome).mpr h

/-- **An integer that is a double is its own nearest double**, whatever the fraction it comes from. -/
theorem truncateNearest_double {m k den : Nat} (hDen : 0 < den) (hSignificand : m < 2 ^ 53)
    (hFinite : m * 2 ^ k < 1 <<< 1024) :
    truncateNearest (m * 2 ^ k * den) den = some (m * 2 ^ k) := by
  have hQuotient : m * 2 ^ k * den / den = m * 2 ^ k := Nat.mul_div_cancel _ hDen
  have hSize : bitLength (m * 2 ^ k) ≤ 53 + k := by
    refine bitLength_le ?_
    rw [pow_add]
    exact Nat.mul_lt_mul_of_pos_right hSignificand (Nat.two_pow_pos k)
  unfold truncateNearest
  simp only [hQuotient]
  -- by how fine the doubles of this size are
  split
  · -- the grid is finer than the integers
    generalize 53 - bitLength (m * 2 ^ k) = j
    have hScaled : (m * 2 ^ k * den) <<< j = (m * 2 ^ k) <<< j * den := by
      rw [Nat.shiftLeft_eq, Nat.shiftLeft_eq]
      ring
    rw [hScaled, roundHalfEven_mul _ hDen, Nat.shiftLeft_shiftRight]
  · -- the grid is coarser, and the integer is on it
    generalize hj : bitLength (m * 2 ^ k) - 53 = j
    have hSplit : m * 2 ^ k = m * 2 ^ (k - j) * 2 ^ j := by
      rw [Nat.mul_assoc, ← pow_add, Nat.sub_add_cancel (by omega)]
    have hScaled : m * 2 ^ k * den = m * 2 ^ (k - j) * (den <<< j) := by
      rw [hSplit, Nat.shiftLeft_eq]
      ring
    have hCoarse : 0 < den <<< j := by
      rw [Nat.shiftLeft_eq]
      exact Nat.mul_pos hDen (Nat.two_pow_pos j)
    rw [hScaled, roundHalfEven_mul _ hCoarse, Nat.shiftLeft_eq (m * 2 ^ (k - j)), ← hSplit, if_pos hFinite]

/-- Integers up to `2 ^ 53` are doubles. -/
theorem truncateNearest_of_le {m den : Nat} (hDen : 0 < den) (hSmall : m ≤ 2 ^ 53) :
    truncateNearest (m * den) den = some m := by
  have hFinite : 2 ^ 53 < 1 <<< 1024 := by decide
  rcases Nat.lt_or_eq_of_le hSmall with hBelow | rfl
  · have hDouble := truncateNearest_double (k := 0) hDen hBelow
    rw [pow_zero, mul_one] at hDouble
    exact hDouble (hBelow.trans hFinite)
  · -- the last of them has one bit too many, but it is even
    have hDouble := truncateNearest_double (m := 2 ^ 52) (k := 1) hDen (by omega)
    exact hDouble hFinite

/-! ## Values -/

namespace Number

/-- The power of ten that an exponent stands for. -/
def power : Option Exponent → Int
  | none => 0
  | some e => if e.negative then -(digitsValue e.digits : Int) else digitsValue e.digits

/-- The number that is denoted, exactly. -/
def value (n : Number) : ℚ :=
  (if n.negative then -1 else 1) * n.coefficient * 10 ^ n.scale

theorem scale_eq (n : Number) : n.scale = power n.exponent - n.fraction.length := rfl

/-- The value from the parts that are written: the digits before the point, those behind it, the exponent. -/
theorem value_eq (n : Number) :
    n.value = (if n.negative then -1 else 1) *
      (digitsValue n.whole + digitsValue n.fraction / 10 ^ n.fraction.length) * 10 ^ power n.exponent := by
  -- the digits behind the point are moved in front of it, which the scale makes up for
  rw [value, coefficient, digitsValue_append, scale_eq, zpow_sub₀ (by norm_num), zpow_natCast]
  push_cast
  field_simp

/-- A value that is a natural number, without fractions. -/
theorem mul_zpow_eq_iff {c m : Nat} {s : Int} :
    (c : ℚ) * 10 ^ s = m ↔ c * 10 ^ s.toNat = m * 10 ^ (-s).toNat := by
  -- by the sign of the power: on one side or on the other there is nothing to multiply by
  obtain ⟨k, rfl | rfl⟩ := s.eq_nat_or_neg
  · have hNone : (-(k : Int)).toNat = 0 := by omega
    rw [hNone, Int.toNat_natCast, zpow_natCast, pow_zero, mul_one]
    norm_cast
  · have hNone : (-(k : Int)).toNat = 0 := by omega
    rw [hNone, neg_neg, Int.toNat_natCast, zpow_neg, zpow_natCast, pow_zero, mul_one, ← div_eq_mul_inv,
      div_eq_iff (by positivity)]
    norm_cast

section Integers

variable {n : Number} {m : Nat}

/-- A coefficient is zero just when the number is. -/
theorem coefficient_eq_zero_iff (hValue : n.coefficient * 10 ^ n.scale.toNat = m * 10 ^ (-n.scale).toNat) :
    n.coefficient = 0 ↔ m = 0 := by
  constructor
  · intro hZero
    rw [hZero, Nat.zero_mul] at hValue
    exact (Nat.mul_eq_zero.mp hValue.symm).resolve_right (Nat.pow_pos (by omega)).ne'
  · intro hZero
    rw [hZero, Nat.zero_mul] at hValue
    exact (Nat.mul_eq_zero.mp hValue).resolve_right (Nat.pow_pos (by omega)).ne'

/-- A positive integer up to `2 ^ 53` has between one and sixteen digits, however it is spelled. -/
theorem digits_of_value (hValue : n.coefficient * 10 ^ n.scale.toNat = m * 10 ^ (-n.scale).toNat)
    (hSome : m ≠ 0) (hSmall : m ≤ 2 ^ 53) :
    0 < n.significant + n.scale ∧ n.significant + n.scale ≤ 16 := by
  have hCoefficient : n.coefficient ≠ 0 := fun hZero => hSome ((coefficient_eq_zero_iff hValue).mp hZero)
  obtain ⟨k, hDigits, hLower, hUpper⟩ := coefficient_bounds hCoefficient
  -- either bound compares two powers of ten, one of which has the scale and the other its negative
  have hMost : k + n.scale.toNat < 16 + (-n.scale).toNat := by
    have hPower : 10 ^ (k + n.scale.toNat) < 10 ^ (16 + (-n.scale).toNat) := by
      calc 10 ^ (k + n.scale.toNat) ≤ n.coefficient * 10 ^ n.scale.toNat := by
            rw [pow_add]
            exact Nat.mul_le_mul_right _ hLower
        _ = m * 10 ^ (-n.scale).toNat := hValue
        _ < 10 ^ (16 + (-n.scale).toNat) := by
            rw [pow_add]
            exact Nat.mul_lt_mul_of_pos_right (by omega) (Nat.pow_pos (by omega))
    exact (Nat.pow_lt_pow_iff_right (by omega)).mp hPower
  have hLeast : (-n.scale).toNat < k + 1 + n.scale.toNat := by
    have hPower : 10 ^ (-n.scale).toNat < 10 ^ (k + 1 + n.scale.toNat) := by
      calc 10 ^ (-n.scale).toNat ≤ m * 10 ^ (-n.scale).toNat :=
            Nat.le_mul_of_pos_left _ (Nat.pos_of_ne_zero hSome)
        _ = n.coefficient * 10 ^ n.scale.toNat := hValue.symm
        _ < 10 ^ (k + 1 + n.scale.toNat) := by
            rw [pow_add]
            exact Nat.mul_lt_mul_of_pos_right hUpper (Nat.pow_pos (by omega))
    exact (Nat.pow_lt_pow_iff_right (by omega)).mp hPower
  omega

/-- An integer up to `2 ^ 53` is found by way of the nearest double, without its sign. -/
theorem truncateAbs_of_value (hValue : (n.coefficient : ℚ) * 10 ^ n.scale = m) (hSmall : m ≤ 2 ^ 53) :
    n.truncateAbs = some m := by
  rw [mul_zpow_eq_iff] at hValue
  have hNone := coefficient_eq_zero_iff hValue
  unfold truncateAbs
  dsimp only
  by_cases hZero : m = 0
  · rw [if_pos (Or.inl (hNone.mpr hZero)), hZero]
  · -- neither of the shortcuts for the very small and the very large is taken
    obtain ⟨hLeast, hMost⟩ := digits_of_value hValue hZero hSmall
    rw [if_neg (by omega), if_neg (by omega)]
    simp only [Nat.pow_eq]
    -- a scale that is not negative multiplies, and another one divides
    split
    · next hScale =>
      have hNone : (-n.scale).toNat = 0 := by omega
      rw [hNone, pow_zero] at hValue
      rw [hValue]
      exact truncateNearest_of_le Nat.one_pos hSmall
    · next hScale =>
      have hNone : n.scale.toNat = 0 := by omega
      rw [hNone, pow_zero, mul_one] at hValue
      rw [hValue]
      exact truncateNearest_of_le (Nat.pow_pos (by omega)) hSmall

end Integers

/-- The sign of a number in front of its absolute value. -/
theorem magnitude_of_value {n : Number} {v : Int} (hValue : n.value = v) :
    (n.coefficient : ℚ) * 10 ^ n.scale = v.natAbs ∧
      (if n.negative then -(v.natAbs : Int) else v.natAbs) = v := by
  have hNonneg : (0 : ℚ) ≤ n.coefficient * 10 ^ n.scale :=
    mul_nonneg (Nat.cast_nonneg _) (zpow_nonneg (by norm_num) _)
  have hCast : (v.natAbs : ℚ) = ((v.natAbs : Int) : ℚ) := (Int.cast_natCast _).symm
  rw [value, mul_assoc] at hValue
  -- zero may have either sign, so the sign says where the integer lies and not what it is
  cases hSign : n.negative with
  | true =>
    simp only [hSign, if_true] at hValue ⊢
    have hNonpos : v ≤ 0 := by
      have : (v : ℚ) ≤ 0 := by linarith
      exact_mod_cast this
    rw [hCast, Int.ofNat_natAbs_of_nonpos hNonpos, Int.neg_neg]
    refine ⟨?_, rfl⟩
    push_cast
    linarith
  | false =>
    simp only [hSign, Bool.false_eq_true, if_false, one_mul] at hValue ⊢
    have hPos : 0 ≤ v := by
      have : (0 : ℚ) ≤ v := by linarith
      exact_mod_cast this
    rw [hCast, Int.natAbs_of_nonneg hPos]
    exact ⟨hValue, rfl⟩

theorem truncate?_of_value {n : Number} {v : Int} (hValue : n.value = v) (hSmall : |v| ≤ 2 ^ 53) :
    n.truncate? = some v := by
  obtain ⟨hMagnitude, hSign⟩ := magnitude_of_value hValue
  -- the bound holds of the absolute value as well
  have hAbs : v.natAbs ≤ 2 ^ 53 := by
    rw [Int.abs_eq_natAbs] at hSmall
    exact_mod_cast hSmall
  rw [truncate?, truncateAbs_of_value hMagnitude hAbs]
  exact congrArg some hSign

/-- Digits without a point and an exponent are the integer that they denote. -/
theorem eq_of_toInt? {n : Number} {i v : Int} (h : n.toInt? = some i) (hValue : n.value = v) : i = v := by
  unfold toInt? at h
  split at h
  · next hPlain =>
    obtain ⟨hFraction, hExponent⟩ := hPlain
    obtain rfl := Option.some.inj h
    -- no digit stands behind the point, so the coefficient is not scaled
    have hScale : n.scale = 0 := by
      rw [scale_eq, hFraction, hExponent]
      rfl
    obtain ⟨hMagnitude, hSign⟩ := magnitude_of_value hValue
    rw [hScale, zpow_zero, mul_one, coefficient, hFraction, List.append_nil] at hMagnitude
    have hDigits : digitsValue n.whole = v.natAbs := by exact_mod_cast hMagnitude
    rw [hDigits, hSign]
  · cases h

/-- **A number is read by its value**: as the integer that it denotes, in whichever way it is written. -/
theorem toSeconds?_of_value {n : Number} {v : Int} (hValue : n.value = v) (hSmall : |v| ≤ 2 ^ 53) :
    n.toSeconds? = some (Int64.ofInt v) := by
  obtain ⟨hLower, hUpper⟩ := abs_le.mp hSmall
  unfold toSeconds?
  cases hInt : n.toInt? with
  | some i =>
    obtain rfl := eq_of_toInt? hInt hValue
    dsimp only
    rw [if_pos (by omega)]
  | none =>
    -- there is a point or an exponent, and the double is exact and in the range of 64 bits
    have hRange : max (-0x8000000000000000) (min 0x7FFFFFFFFFFFFFFF v) = v := by omega
    dsimp only
    rw [truncate?_of_value hValue hSmall, Option.map_some, saturate, hRange]

end Number

/-! ## Texts of the grammar -/

/-- The sign of an exponent, and whether it is a minus. A plus may be left out. -/
inductive DenotesSign : List Char → Bool → Prop
  | absent : DenotesSign [] false
  | plus : DenotesSign ['+'] false
  | minus : DenotesSign ['-'] true

/-- What may stand behind the digits of a number, and the power of ten that it denotes. -/
inductive DenotesExponent : List Char → Int → Prop
  | absent : DenotesExponent [] 0
  | written {letter : Char} (hLetter : letter = 'e' ∨ letter = 'E') {sign : List Char} {negative : Bool}
      (hSign : DenotesSign sign negative) {ds : List Digit} (hSome : ds ≠ []) :
      DenotesExponent (letter :: (sign ++ ds.map Digit.toChar))
        (if negative then -(digitsValue ds : Int) else digitsValue ds)

/-- The grammar of JSON numbers, with what each text of it denotes: a minus or nothing, digits without a
needless zero in front, a point with digits behind it or nothing, an exponent or nothing. -/
inductive Denotes : List Char → ℚ → Prop
  | written (negative : Bool) {whole : List Digit} (hSome : whole ≠ [])
      (hLeading : whole.head? = some 0 → whole.length = 1) (fraction : List Digit) {tail : List Char}
      {p : Int} (hTail : DenotesExponent tail p) :
      Denotes
        ((if negative then ['-'] else []) ++
          (whole.map Digit.toChar ++ (Number.fractionText fraction ++ tail)))
        ((if negative then -1 else 1) *
          (digitsValue whole + digitsValue fraction / 10 ^ fraction.length) * 10 ^ p)

/-- The sign of an exponent is read as what it denotes. -/
theorem readSign_of_denotes {sign : List Char} {negative : Bool} (h : DenotesSign sign negative)
    {ds : List Digit} (hSome : ds ≠ []) (rest : List Char) :
    readSign (sign ++ (ds.map Digit.toChar ++ rest)) = (negative, ds.map Digit.toChar ++ rest) := by
  -- without a sign the first character is a digit, which is neither of the two signs
  cases h with
  | plus => rfl
  | minus => rfl
  | absent =>
    cases ds with
    | nil => exact absurd rfl hSome
    | cons d ds =>
      have hDigit : ∀ d : Digit, d.toChar ≠ '-' ∧ d.toChar ≠ '+' := by decide
      obtain ⟨hMinus, hPlus⟩ := hDigit d
      rw [List.nil_append, List.map_cons, List.cons_append]
      unfold readSign
      split
      · next hFirst => exact absurd (List.cons.inj hFirst).1 hMinus
      · next hFirst => exact absurd (List.cons.inj hFirst).1 hPlus
      · rfl

/-- An exponent of the grammar is read as the power of ten that it denotes. -/
theorem readExponent_of_denotes {tail : List Char} {p : Int} (h : DenotesExponent tail p) :
    ∃ e, Number.power e = p ∧ ∀ {rest}, Stops rest →
      readExponent (tail ++ rest) = some (e, rest) ∧
        ∀ c ∈ (tail ++ rest).head?, isDigit c = false ∧ c ≠ '.' := by
  cases h with
  | absent =>
    refine ⟨none, rfl, fun hStops => ⟨readExponent_of_stops hStops, fun c hc => ?_⟩⟩
    obtain ⟨hDigit, hPoint, -⟩ := hStops c hc
    exact ⟨hDigit, hPoint⟩
  | @written letter hLetter sign negative hSign ds hSome =>
    refine ⟨some ⟨negative, ds⟩, rfl, fun {rest} hStops => ⟨?_, fun c hc => ?_⟩⟩
    · -- only the sign is kept of the way in which the exponent is spelled
      have hBack := readSign_of_denotes hSign hSome rest
      rw [List.cons_append, List.append_assoc]
      exact readExponent_signed hLetter hSome hStops hBack
    · obtain rfl := Option.some.inj hc
      rcases hLetter with rfl | rfl <;> decide

/-- **The grammar's texts are read.** Where a value may stand, the text is read as a number whose value is
what the text denotes. -/
theorem read_of_denotes {text : List Char} {q : ℚ} (h : Denotes text q) :
    ∃ n : Number, n.value = q ∧ ∀ depth {rest}, Stops rest →
      readValue depth (text ++ rest) = some (.number n, rest) := by
  cases h with
  | @written negative whole hSome hLeading fraction tail p hTail =>
    obtain ⟨e, hPower, hRead⟩ := readExponent_of_denotes hTail
    refine ⟨⟨negative, whole, fraction, e⟩, ?_, fun depth {rest} hStops => ?_⟩
    · rw [Number.value_eq, hPower]
    · obtain ⟨hExponent, hBehind⟩ := hRead hStops
      have hNumber : readNumber _ = some (⟨negative, whole, fraction, e⟩, rest) :=
        readNumber_append hSome hLeading hBehind hExponent
      obtain ⟨c, cs, hText, hFirst⟩ :=
        number_first negative hSome (Number.fractionText fraction ++ (tail ++ rest))
      rw [hText] at hNumber
      simp only [List.append_assoc]
      rw [hText]
      -- a number has no parts, so the depth does not matter
      cases depth with
      | zero => rw [readValue, readValueWith_number hFirst, hNumber, Option.map_some]
      | succ depth => rw [readValue, readValueWith_number hFirst, hNumber, Option.map_some]

end Json

namespace Claims

open Json.Number (digitsOf)

/-! ## Dates -/

/-- A claim is a number, and the number is the integer. -/
def DenotesInteger (payload : Json.Object) (claim : String) (v : Int) : Prop :=
  ∃ n : Json.Number, payload.get? claim = some (.number n) ∧ n.value = v

/-- Two payloads give one date: they have the same for the claim, or both have a number for it and the numbers
are one integer, of at most `2 ^ 53` without its sign. -/
def SameDate (payload payload' : Json.Object) (claim : String) : Prop :=
  payload.get? claim = payload'.get? claim ∨
    ∃ v : Int, |v| ≤ 2 ^ 53 ∧ DenotesInteger payload claim v ∧ DenotesInteger payload' claim v

theorem numericDate_of_value {payload : Json.Object} {claim : String} {v : Int}
    (h : DenotesInteger payload claim v) (hSmall : |v| ≤ 2 ^ 53) :
    numericDate payload claim = .ok (some (Int64.ofInt v)) := by
  obtain ⟨n, hClaim, hValue⟩ := h
  exact hasDate_iff.mp ⟨n, hClaim, Json.Number.toSeconds?_of_value hValue hSmall⟩

/-- Payloads that give one date are read alike. -/
theorem SameDate.numericDate_eq {payload payload' : Json.Object} {claim : String}
    (h : SameDate payload payload' claim) : numericDate payload claim = numericDate payload' claim := by
  rcases h with hSame | ⟨v, hSmall, hLeft, hRight⟩
  · rw [numericDate, numericDate, hSame]
  · rw [numericDate_of_value hLeft hSmall, numericDate_of_value hRight hSmall]

/-- **Dates by value.** A text of the grammar of numbers that denotes an integer of at most `2 ^ 53` without
its sign is read as a number, and a claim that is this number gives the integer as its date. So payloads that
give the same dates, in whichever spellings, are judged alike at every time. -/
theorem numericDate_by_value :
    (∀ (text : List Char) (v : Int), Json.Denotes text v → |v| ≤ 2 ^ 53 →
      ∃ n : Json.Number, n.value = v ∧
        (∀ depth rest, Json.Stops rest →
          Json.readValue depth (text ++ rest) = some (.number n, rest)) ∧
        ∀ payload claim, Json.Object.get? payload claim = some (.number n) →
          ∃ t : Int64, numericDate payload claim = .ok (some t) ∧ t.toInt = v) ∧
    ∀ payload payload' : Json.Object,
      (∀ claim ∈ ["exp", "nbf", "iat"], SameDate payload payload' claim) → ∀ clock,
        checkTemporal payload clock = checkTemporal payload' clock ∧
          checkIssuedAt payload clock = checkIssuedAt payload' clock := by
  constructor
  -- the text is read as a number by its value, and the number as a date by it again
  · intro text v hText hSmall
    obtain ⟨n, hValue, hRead⟩ := Json.read_of_denotes hText
    refine ⟨n, hValue, fun depth rest hStops => hRead depth hStops, fun payload claim hClaim => ?_⟩
    have hDate := numericDate_of_value ⟨n, hClaim, hValue⟩ hSmall
    obtain ⟨hLower, hUpper⟩ := abs_le.mp hSmall
    exact ⟨Int64.ofInt v, hDate, Int64.toInt_ofInt_of_le (by omega) (by omega)⟩
  -- all three claims are read alike, so that the checks are the same
  · intro payload payload' hSame clock
    have hDates : ∀ claim ∈ ["exp", "nbf", "iat"],
        numericDate payload claim = numericDate payload' claim :=
      fun claim hClaim => (hSame claim hClaim).numericDate_eq
    have hIssued := hDates "iat" (by simp)
    refine ⟨checkTemporal_of_dates hDates, ?_⟩
    rw [checkIssuedAt, checkIssuedAt, hIssued]

/-- The next integer is no double, and its spellings are told apart. -/
example :
    numericDate [("exp", .number ⟨false, digitsOf (2 ^ 53 + 1), [], none⟩)] "exp" =
        .ok (some 9007199254740993) ∧
      numericDate [("exp", .number ⟨false, digitsOf (2 ^ 53 + 1), digitsOf 0, none⟩)] "exp" =
        .ok (some 9007199254740992) :=
  ⟨by rfl, by rfl⟩

/-- One second for all three claims. -/
def plainDates : Json.Object :=
  [("exp", .ofInt 1700000000), ("iat", .ofInt 1700000000), ("nbf", .ofInt 1700000000)]

/-- The same second, spelled differently in each claim. -/
def spelledDates : Json.Object :=
  [("exp", .number ⟨false, digitsOf 1, digitsOf 7, some ⟨false, digitsOf 9⟩⟩),
    ("iat", .number ⟨false, digitsOf 17000000000, [], some ⟨true, digitsOf 1⟩⟩),
    ("nbf", .number ⟨false, digitsOf 1700000000, digitsOf 0, none⟩)]

/-- Payloads that spell one second in four ways pass at that second, and not at the next. -/
theorem numericDate_by_value_second :
    Json.parse "\x7b\"exp\":1700000000,\"iat\":1700000000,\"nbf\":1700000000\x7d" =
        some (.object plainDates) ∧
      Json.parse "\x7b\"exp\":1.7E9,\"iat\":17000000000e-1,\"nbf\":1700000000.0\x7d" =
        some (.object spelledDates) ∧
      (∀ claim ∈ ["exp", "nbf", "iat"], SameDate plainDates spelledDates claim) ∧
      checkTemporal spelledDates ⟨1700000000, 0⟩ = .ok () ∧
      checkTemporal spelledDates ⟨1700000001, 0⟩ = .error .expired ∧
      Json.Denotes "17000000000e-1".toList ((1700000000 : Int) : ℚ) ∧
      |(1700000000 : Int)| ≤ 2 ^ 53 ∧
      ∃ n, Json.readValue 0 "17000000000e-1".toList = some (.number n, []) ∧
        ∃ t : Int64, numericDate [("exp", .number n)] "exp" = .ok (some t) ∧ t.toInt = 1700000000 := by
  have hSmall : |(1700000000 : Int)| ≤ 2 ^ 53 := by decide
  have hSame : ∀ claim ∈ ["exp", "nbf", "iat"], SameDate plainDates spelledDates claim := by
    intro claim hClaim
    have hPlain : (Json.Number.ofInt 1700000000).value = (1700000000 : Int) := by
      show (1 : ℚ) * (1700000000 : Nat) * 10 ^ (0 : Int) = _
      norm_num
    refine Or.inr ⟨1700000000, hSmall, ?_⟩
    simp only [List.mem_cons, List.not_mem_nil, or_false] at hClaim
    rcases hClaim with rfl | rfl | rfl
    · refine ⟨⟨_, rfl, hPlain⟩, _, rfl, ?_⟩
      show (1 : ℚ) * (17 : Nat) * 10 ^ (8 : Int) = _
      norm_num
    · refine ⟨⟨_, rfl, hPlain⟩, _, rfl, ?_⟩
      show (1 : ℚ) * (17000000000 : Nat) * 10 ^ (-1 : Int) = _
      norm_num
    · refine ⟨⟨_, rfl, hPlain⟩, _, rfl, ?_⟩
      show (1 : ℚ) * (17000000000 : Nat) * 10 ^ (-1 : Int) = _
      norm_num
  have hText : Json.Denotes "17000000000e-1".toList ((1700000000 : Int) : ℚ) := by
    have hPower : Json.DenotesExponent ['e', '-', '1'] (-1) :=
      @Json.DenotesExponent.written 'e' (Or.inl rfl) ['-'] true .minus [1] (by decide)
    have hWritten := @Json.Denotes.written false [1, 7, 0, 0, 0, 0, 0, 0, 0, 0, 0] (by decide) (by decide) []
      ['e', '-', '1'] (-1) hPower
    norm_num [Json.digitsValue] at hWritten ⊢
    exact hWritten
  obtain ⟨hTexts, hPayloads⟩ := numericDate_by_value
  obtain ⟨n, -, hRead, hDate⟩ := hTexts _ _ hText hSmall
  obtain ⟨hThen, -⟩ := hPayloads _ _ hSame ⟨1700000000, 0⟩
  obtain ⟨hLater, -⟩ := hPayloads _ _ hSame ⟨1700000001, 0⟩
  refine ⟨by rfl, by rfl, hSame, ?_, ?_, hText, hSmall, n, ?_, hDate _ "exp" rfl⟩
  · rw [← hThen]
    rfl
  · rw [← hLater]
    rfl
  · have hWhole := hRead 0 [] Json.ends_nil.stops
    rwa [List.append_nil] at hWhole

end Claims

end PresentationVerifier
