import PresentationVerifier.Error
import PresentationVerifier.Json.Binary64
import PresentationVerifier.Json.Decode
import PresentationVerifier.Json.Printer

/-!
# Checks of registered claims

Points in time, the issuer, the audience and the type that a payload claims. A claim that is absent is
never an error here. Times are seconds in 64 bits; sums that leave the range stop at its ends, which
never changes the answer of a comparison as long as the leeway is not negative.
-/

namespace PresentationVerifier

/-! ## Times -/

/-- The number in the range of 64 bits that is nearest to an integer. -/
def saturate (i : Int) : Int64 :=
  Int64.ofInt (max (-0x8000000000000000) (min 0x7FFFFFFFFFFFFFFF i))

/-- Within the range nothing changes, and outside of it the nearest end is taken. -/
theorem toInt_saturate (i : Int) :
    (saturate i).toInt = max (-0x8000000000000000) (min 0x7FFFFFFFFFFFFFFF i) :=
  Int64.toInt_ofInt_of_le (by omega) (by omega)

/-- The sum of two times, at the end of the range when it would leave it. -/
def saturatingAdd (a b : Int64) : Int64 :=
  saturate (a.toInt + b.toInt)

/-- The time that a verification refers to. -/
structure Clock where
  /-- Seconds since the start of 1970. -/
  now : Int64
  /-- Leeway in seconds. -/
  skew : Int64
deriving DecidableEq, Repr

/-- The seconds that a number stands for: its value if it is written as an integer of 64 bits, else the
nearest double precision value, cut to an integer. -/
def Json.Number.toSeconds? (n : Json.Number) : Option Int64 :=
  match n.toInt? with
  | some i =>
    if -0x8000000000000000 ≤ i ∧ i < 0x8000000000000000 then some (Int64.ofInt i)
    else n.truncate?.map saturate
  | none => n.truncate?.map saturate

namespace Claims

/-! ## Reading claims -/

/-- The point in time that a claim gives, if it is there and not `null`. -/
def numericDate (payload : Json.Object) (claim : String) : Except Reason (Option Int64) :=
  match payload.get? claim with
  | none => .ok none
  | some .null => .ok none
  | some (.number n) =>
    match n.toSeconds? with
    | some t => .ok (some t)
    | none => .error (.malformedClaim claim)
  | some _ => .error (.malformedClaim claim)

/-- The text of a claim, if it is there and not `null`. -/
def text (payload : Json.Object) (claim : String) : Except Reason (Option String) :=
  match payload.get? claim with
  | none => .ok none
  | some .null => .ok none
  | some (.string s) => .ok (some s)
  | some _ => .error (.malformedClaim claim)

/-! ## Points in time -/

/-- The payload was not valid for too long: `exp`. -/
def checkExpiry (payload : Json.Object) (clock : Clock) : Except Reason Unit := do
  match ← numericDate payload "exp" with
  | some exp => if saturatingAdd exp clock.skew < clock.now then .error .expired else .ok ()
  | none => .ok ()

/-- The payload is valid already: `nbf`. -/
def checkStart (payload : Json.Object) (clock : Clock) : Except Reason Unit := do
  match ← numericDate payload "nbf" with
  | some nbf =>
    if saturatingAdd clock.now clock.skew < nbf then .error .notYetValid else .ok ()
  | none => .ok ()

/-- The payload was issued in the past: `iat`. -/
def checkIssuedAt (payload : Json.Object) (clock : Clock) : Except Reason Unit := do
  match ← numericDate payload "iat" with
  | some iat =>
    if saturatingAdd clock.now clock.skew < iat then .error .issuedInFuture else .ok ()
  | none => .ok ()

/-- The points in time: `exp`, then `nbf`, then `iat`. -/
def checkTemporal (payload : Json.Object) (clock : Clock) : Except Reason Unit := do
  checkExpiry payload clock
  checkStart payload clock
  checkIssuedAt payload clock

/-! ## Expectations -/

/-- The issuer, where both the claim and an expectation are there. The claim has to be a string even
without an expectation. -/
def checkIssuer (payload : Json.Object) (expected : Option String) : Except Reason Unit := do
  match ← text payload "iss", expected with
  | some found, some expected =>
    if found = expected then .ok () else .error (.issuerMismatch expected found)
  | _, _ => .ok ()

/-- The type, where both the claim and an expectation are there. The claim has to be a string even
without an expectation. -/
def checkVct (payload : Json.Object) (expected : Option String) : Except Reason Unit := do
  match ← text payload "vct", expected with
  | some found, some expected =>
    if found = expected then .ok () else .error (.vctMismatch expected found)
  | _, _ => .ok ()

/-- The audiences that a claim names: a string, or an array of strings. -/
def audiences? : Json → Option (List String)
  | .string s => some [s]
  | v => Json.asArrayOf? Json.asString? v

/-- The audience, where both the claim and an expectation are there: one of those named has to be the
expected one. -/
def checkAudience (payload : Json.Object) (expected : Option String) : Except Reason Unit :=
  match payload.get? "aud", expected with
  | some aud, some expected =>
    match audiences? aud with
    | none => .error (.malformedClaim "aud")
    | some names =>
      if names.contains expected then .ok () else .error (.audienceMismatch expected aud.compact)
  | _, _ => .ok ()

end Claims

end PresentationVerifier
