import PresentationVerifier.Json.Reader

/-!
# Passing over JSON values

A value that nobody asks for is passed over. Its text has to follow the grammar, but there is no limit
on its nesting, and a `\u` escape in it need not give a character.
-/

namespace PresentationVerifier.Json

/-- What is pending in a string that is passed over: nothing, the character after a backslash, or
more digits of a `\u` escape. -/
inductive Skipping where
  | nothing
  | escape
  | hex (left : Nat)
deriving DecidableEq, Repr

/-- The effect of one character: `none` refuses it, `some none` ends the string. -/
def Skipping.step : Skipping → Char → Option (Option Skipping)
  | nothing, c =>
    if c = '\x22' then some none
    else if c = '\\' then some (some .escape)
    else if c.toNat < 0x20 then none
    else some (some .nothing)
  | escape, c =>
    if c = 'u' then some (some (.hex 4))
    else (unescape? c).map fun _ => some .nothing
  | hex left, c =>
    (hexValue? c).map fun _ => some (if left ≤ 1 then .nothing else .hex (left - 1))

/-- The rest of a string up to its closing quote. -/
def skipStringFrom (p : Skipping) : Reader Unit
  | [] => none
  | c :: rest =>
    match p.step c with
    | none => none
    | some none => some ((), rest)
    | some (some q) => skipStringFrom q rest

/-- A member: a name, a colon and a value. -/
def skipMember (value : Reader Unit) : Reader Unit := fun cs =>
  match skipSpace cs with
  | '\x22' :: rest =>
    (skipStringFrom .nothing rest).bind fun (_, cs) =>
      match skipSpace cs with
      | ':' :: rest => value rest
      | _ => none
  | _ => none

/-- A value with at most `depth` arrays and objects open at a time. -/
def skipWithin : (depth : Nat) → Reader Unit
  | 0, _ => none
  | depth + 1, cs =>
    match skipSpace cs with
    | [] => none
    | c :: rest =>
      if c = '\x22' then skipStringFrom .nothing rest
      else if c = '[' then
        (readSequence (fun r => skipWithin depth r) ']' rest).map fun (_, r) => ((), r)
      else if c = '\x7b' then
        (readSequence (skipMember fun r => skipWithin depth r) '\x7d' rest).map fun (_, r) =>
          ((), r)
      else if c = 'n' then readWord ['u', 'l', 'l'] rest
      else if c = 't' then readWord ['r', 'u', 'e'] rest
      else if c = 'f' then readWord ['a', 'l', 's', 'e'] rest
      else (readNumber (c :: rest)).map fun (_, r) => ((), r)

/-- A value of any nesting: no value nests deeper than its text is long. -/
def skipValue : Reader Unit := fun cs =>
  skipWithin (cs.length + 1) cs

end PresentationVerifier.Json
