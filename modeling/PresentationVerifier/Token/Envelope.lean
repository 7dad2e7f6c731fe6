import PresentationVerifier.Token

/-!
# Encrypted envelopes

A token can be wrapped in encrypted envelopes, one in the other. The content encryption is not part of
this library: a `Decrypter` opens an envelope. How many envelopes are opened is bounded, because the
next one is whatever the decrypter gives.
-/

namespace PresentationVerifier

/-- Opens an envelope, given in its compact form; an error has a text. -/
abbrev Decrypter := String → Except String (List UInt8)

/-- A token taken out of its envelopes. -/
structure Unwrapped where
  /-- The envelopes that the decrypter was asked to open, in this order. -/
  opened : List String
  result : Except TokenError Token

namespace Token

/-- The error text for an envelope that does not hold text. -/
def notText : String := "plaintext is not valid UTF-8"

/-- Marks a token as taken out of an envelope. -/
def markDecrypted (t : Token) : Token :=
  { t with decrypted := true }

/-- Takes a token out of at most `remaining` envelopes. The content of an envelope takes the place of
the whole text and is read afresh; the limit is checked before the decrypter is asked. -/
def unwrapWithin (decrypter : Option Decrypter) (limit : Nat) : (remaining : Nat) → String → Unwrapped
  | remaining, text =>
    match read text with
    | .error e => ⟨[], .error e⟩
    | .ok (.signed token) => ⟨[], .ok token⟩
    | .ok (.encrypted jwe) =>
      match remaining, decrypter with
      | 0, _ => ⟨[], .error (.nestingTooDeep limit)⟩
      | _ + 1, none => ⟨[], .error .noDecrypter⟩
      | remaining + 1, some decrypt =>
        match decrypt jwe with
        | .error cause => ⟨[jwe], .error (.decryption cause)⟩
        | .ok bytes =>
          match Encoding.utf8Text? bytes with
          | none => ⟨[jwe], .error (.decryption notText)⟩
          | some inner =>
            let u := unwrapWithin decrypter limit remaining inner
            ⟨jwe :: u.opened, u.result.map markDecrypted⟩

/-- Takes a token out of its envelopes, of which there may be `limit`. -/
def unwrap (decrypter : Option Decrypter) (limit : Nat) (text : String) : Unwrapped :=
  unwrapWithin decrypter limit limit text

end Token

end PresentationVerifier
