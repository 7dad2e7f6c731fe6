import PresentationVerifier.Proofs.Integrity

/-!
# Exact times

Times are seconds in 64 bits, and a sum of them that leaves the range stops at its end. Compared with a
time such a sum is as good as the exact one, as long as the leeway is not negative: it is then cut off at
the upper end only, and no time lies above that end (`le_saturatingAdd_iff`). So the checks of points in
time decide what they would decide over all integers, at both ends of the range as well.

Main results:

* `toInt_saturatingAdd`: what a sum is, whatever its terms are.
* `checkTemporal_exact`: the checks of points in time, said over all integers.
-/

namespace PresentationVerifier

/-! ## Sums -/

/-- A sum of two times is the sum of the integers, moved to the end of the range that it passes. -/
theorem toInt_saturatingAdd (a b : Int64) :
    (saturatingAdd a b).toInt = max (-0x8000000000000000) (min 0x7FFFFFFFFFFFFFFF (a.toInt + b.toInt)) := by
  rw [saturatingAdd, toInt_saturate]

/-- To compare a time with a sum is to compare it with the exact sum. -/
theorem le_saturatingAdd_iff {skew : Int64} (hSkew : 0 ≤ skew) (t a : Int64) :
    t ≤ saturatingAdd a skew ↔ t.toInt ≤ a.toInt + skew.toInt := by
  have hNonneg : 0 ≤ skew.toInt := by
    rw [Int64.le_iff_toInt_le] at hSkew
    exact hSkew
  -- the lower end is not passed, and no time is above the upper one
  have hLower : -2 ^ 63 ≤ a.toInt := a.le_toInt
  have hUpper : t.toInt < 2 ^ 63 := t.toInt_lt
  rw [Int64.le_iff_toInt_le, toInt_saturatingAdd]
  omega

namespace Claims

/-! ## Points in time -/

/-- What is demanded of the points in time, with exact sums. -/
def exactDemands (payload : Json.Object) (now skew : Int64) : List (Demand Reason) :=
  dateDemands payload "exp" (fun exp => now.toInt ≤ exp.toInt + skew.toInt) .expired ++
    (dateDemands payload "nbf" (fun nbf => nbf.toInt ≤ now.toInt + skew.toInt) .notYetValid ++
    dateDemands payload "iat" (fun iat => iat.toInt ≤ now.toInt + skew.toInt) .issuedInFuture)

/-- With a leeway that is not negative the demands are those with exact sums. -/
theorem temporalDemands_eq_exact {skew : Int64} (hSkew : 0 ≤ skew) (payload : Json.Object)
    (now : Int64) : temporalDemands payload ⟨now, skew⟩ = exactDemands payload now skew := by
  unfold temporalDemands exactDemands
  simp only [le_saturatingAdd_iff hSkew]

/-- A claim can be read as a point in time that is as it should be, or it gives none. -/
theorem dated_iff {payload : Json.Object} {claim : String} {ok : Int64 → Prop} {reason : Reason} :
    (∀ d ∈ dateDemands payload claim ok reason, d.met) ↔
      ∃ date, numericDate payload claim = .ok date ∧ ∀ t, date = some t → ok t := by
  simp only [dateDemands, List.forall_mem_cons, List.not_mem_nil, false_implies, implies_true,
    and_true, mayDate_iff, hasDate_iff]
  constructor
  · intro h
    obtain ⟨⟨date, hDate⟩, hOk⟩ := h
    refine ⟨date, hDate, fun t ht => hOk t ?_⟩
    rw [hDate, ht]
  · intro h
    obtain ⟨date, hDate, hOk⟩ := h
    refine ⟨⟨date, hDate⟩, fun t ht => hOk t ?_⟩
    -- a claim is read as one point in time only
    rw [hDate] at ht
    exact Except.ok.inj ht

/-- **Exact times.** With a leeway that is not negative a payload passes when each of its points in time
can be read and is, over all integers, where it should be; else the first that is not gives the error,
`exp` before `nbf` before `iat`. No sum wraps around, whatever its terms are. -/
theorem checkTemporal_exact {skew : Int64} (hSkew : 0 ≤ skew) (payload : Json.Object) (now : Int64) :
    (checkTemporal payload ⟨now, skew⟩ = .ok () ↔ ∃ exp nbf iat,
      numericDate payload "exp" = .ok exp ∧ numericDate payload "nbf" = .ok nbf ∧
      numericDate payload "iat" = .ok iat ∧
      (∀ t, exp = some t → now.toInt ≤ t.toInt + skew.toInt) ∧
      (∀ t, nbf = some t → t.toInt ≤ now.toInt + skew.toInt) ∧
      ∀ t, iat = some t → t.toInt ≤ now.toInt + skew.toInt) ∧
    Decides (exactDemands payload now skew) (checkTemporal payload ⟨now, skew⟩) ∧
    ∀ a b : Int64,
      (saturatingAdd a b).toInt = max (-0x8000000000000000) (min 0x7FFFFFFFFFFFFFFF (a.toInt + b.toInt)) := by
  have hDecided : Decides (exactDemands payload now skew) (checkTemporal payload ⟨now, skew⟩) := by
    rw [← temporalDemands_eq_exact hSkew]
    exact checkTemporal_decided payload ⟨now, skew⟩
  refine ⟨?_, hDecided, toInt_saturatingAdd⟩
  -- a payload passes when it meets all demands, which are read claim by claim
  have hPasses : checkTemporal payload ⟨now, skew⟩ = .ok () ↔
      ∀ d ∈ exactDemands payload now skew, d.met := by
    rw [← hDecided.ok_iff]
    exact ⟨fun h => ⟨(), h⟩, fun ⟨_, h⟩ => h⟩
  rw [hPasses, exactDemands]
  simp only [List.forall_mem_append, dated_iff]
  constructor
  · rintro ⟨⟨exp, hExp, hExpiry⟩, ⟨nbf, hNbf, hStart⟩, iat, hIat, hIssued⟩
    exact ⟨exp, nbf, iat, hExp, hNbf, hIat, hExpiry, hStart, hIssued⟩
  · rintro ⟨exp, nbf, iat, hExp, hNbf, hIat, hExpiry, hStart, hIssued⟩
    exact ⟨⟨exp, hExp, hExpiry⟩, ⟨nbf, hNbf, hStart⟩, iat, hIat, hIssued⟩

/-- At the last second that there is, with the largest leeway, a payload passes that expired at zero and
was issued at this last second; one that expired a second before does not. -/
theorem checkTemporal_exact_extremes :
    0 ≤ Int64.maxValue ∧
      checkTemporal [("exp", .ofInt 0), ("iat", .ofInt 0x7FFFFFFFFFFFFFFF)]
        ⟨Int64.maxValue, Int64.maxValue⟩ = .ok () ∧
      checkTemporal [("exp", .ofInt (-1))] ⟨Int64.maxValue, Int64.maxValue⟩ ≠ .ok () := by
  have hSkew : 0 ≤ Int64.maxValue := by decide
  -- both sums are beyond the range
  refine ⟨hSkew, ?_, ?_⟩
  · obtain ⟨hPasses, -⟩ := checkTemporal_exact hSkew
      [("exp", .ofInt 0), ("iat", .ofInt 0x7FFFFFFFFFFFFFFF)] Int64.maxValue
    refine hPasses.mpr ⟨some 0, none, some Int64.maxValue, by rfl, by rfl, by rfl, ?_, ?_, ?_⟩
    · intro t ht
      obtain rfl := Option.some.inj ht
      decide
    · intro t ht
      cases ht
    · intro t ht
      obtain rfl := Option.some.inj ht
      decide
  · obtain ⟨hPasses, -⟩ := checkTemporal_exact hSkew [("exp", .ofInt (-1))] Int64.maxValue
    rw [Ne, hPasses]
    rintro ⟨exp, nbf, iat, hExp, -, -, hExpiry, -, -⟩
    have hDate : numericDate [("exp", .ofInt (-1))] "exp" = .ok (some (-1)) := by rfl
    rw [hDate] at hExp
    have hLate := hExpiry (-1) (Except.ok.inj hExp).symm
    revert hLate
    decide

end Claims

end PresentationVerifier
