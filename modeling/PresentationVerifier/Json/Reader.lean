import PresentationVerifier.Encoding.Utf8
import PresentationVerifier.Json.Basic

/-!
# Reading JSON text

A `Reader` takes something off the front of a text and gives back the rest. The reader of values is
built from readers of its parts and recurses on the number of arrays and objects that may still be
opened, so a text that nests deeper than `nestingLimit` is refused. Parts that repeat (elements,
members) recurse on the length of the text.

Some rules go beyond the grammar. Of two members with one name the later one counts. A `\u` escape
has to give a character: the two halves of a surrogate pair stand together or not at all. And an
object whose first member is called `numberMember` is not an object but the written form of a number.
-/

namespace PresentationVerifier.Json

/-- Takes something off the front of a text; `none` if the text does not start with it. -/
abbrev Reader (α : Type) := List Char → Option (α × List Char)

/-- The characters that may stand between the tokens of a text. -/
def isSpace (c : Char) : Bool :=
  c = ' ' || c = '\n' || c = '\t' || c = '\r'

/-- The text from its first token on. -/
def skipSpace (cs : List Char) : List Char :=
  cs.dropWhile isSpace

/-- How many arrays and objects may stand around a value, itself included. -/
def nestingLimit : Nat := 127

/-- The name that, as the first member of an object, announces a number: the object has no other
member and the member's value is a string that holds the text of the number. -/
def numberMember : String := "$serde_json::private::Number"

/-! ## Numbers -/

/-- A decimal digit character. -/
def isDigit (c : Char) : Bool :=
  decide ('0'.toNat ≤ c.toNat) && decide (c.toNat ≤ '9'.toNat)

/-- All digits at the front of a text. -/
def readDigits (cs : List Char) : List Digit × List Char :=
  ((cs.takeWhile isDigit).map Digit.ofChar, cs.dropWhile isDigit)

/-- A point with at least one digit after it, or nothing. -/
def readFraction : Reader (List Digit)
  | '.' :: rest =>
    match readDigits rest with
    | ([], _) => none
    | (ds, rest) => some (ds, rest)
  | cs => some ([], cs)

/-- An optional sign; the answer is whether it is a minus. -/
def readSign : List Char → Bool × List Char
  | '-' :: rest => (true, rest)
  | '+' :: rest => (false, rest)
  | cs => (false, cs)

/-- An exponent with at least one digit, or nothing. -/
def readExponent : Reader (Option Exponent)
  | [] => some (none, [])
  | c :: rest =>
    if c = 'e' ∨ c = 'E' then
      match readDigits (readSign rest).2 with
      | ([], _) => none
      | (ds, rest') => some (some ⟨(readSign rest).1, ds⟩, rest')
    else some (none, c :: rest)

/-- The digits before the point: a lone zero, or digits that do not start with one. -/
def readWhole : Reader (List Digit) := fun cs =>
  match readDigits cs with
  | ([], _) => none
  | (d :: ds, rest) => if d.val = 0 ∧ ds ≠ [] then none else some (d :: ds, rest)

/-- A number, sign included. -/
def readNumber : Reader Number := fun cs =>
  let (negative, cs) : Bool × List Char :=
    match cs with
    | '-' :: rest => (true, rest)
    | _ => (false, cs)
  (readWhole cs).bind fun (whole, cs) =>
    (readFraction cs).bind fun (fraction, cs) =>
      (readExponent cs).map fun (exponent, cs) => (⟨negative, whole, fraction, exponent⟩, cs)

/-- A text that is a number from end to end. -/
def numberOf? (s : String) : Option Number :=
  match readNumber s.toList with
  | some (n, []) => some n
  | _ => none

/-! ## Strings -/

/-- What the characters of a string that were read so far leave open. -/
inductive Pending where
  /-- Nothing: the next character stands for itself, closes the string or starts an escape. -/
  | nothing
  /-- The character after a backslash. -/
  | escape
  /-- More hexadecimal digits of a `\u` escape. `value` is what the digits so far denote, `high` the
  first half of a surrogate pair if this is the escape of its second half. -/
  | hex (left : Nat) (value : Nat) (high : Option Nat)
  /-- The backslash of the second half of a surrogate pair. -/
  | lowBackslash (high : Nat)
  /-- The `u` of the second half of a surrogate pair. -/
  | lowLetter (high : Nat)
deriving DecidableEq, Repr

/-- What one more character of a string does. -/
inductive Progress where
  /-- The string ends. -/
  | close
  /-- A character is complete. -/
  | give (c : Char)
  /-- Nothing is complete yet. -/
  | wait (p : Pending)
deriving DecidableEq, Repr

/-- The value of a hexadecimal digit of either case. -/
def hexValue? (c : Char) : Option Nat :=
  if '0'.toNat ≤ c.toNat ∧ c.toNat ≤ '9'.toNat then some (c.toNat - '0'.toNat)
  else if 'a'.toNat ≤ c.toNat ∧ c.toNat ≤ 'f'.toNat then some (c.toNat - 'a'.toNat + 10)
  else if 'A'.toNat ≤ c.toNat ∧ c.toNat ≤ 'F'.toNat then some (c.toNat - 'A'.toNat + 10)
  else none

/-- The character that a backslash and a letter stand for; `u` is not one of these letters. -/
def unescape? (c : Char) : Option Char :=
  if c = '\x22' ∨ c = '\\' ∨ c = '/' then some c
  else if c = 'b' then some '\x08'
  else if c = 'f' then some '\x0C'
  else if c = 'n' then some '\n'
  else if c = 'r' then some '\r'
  else if c = 't' then some '\t'
  else none

/-- What a complete `\u` escape gives. A first half of a surrogate pair waits for the second, and
neither half may stand alone. -/
def codeUnit (value : Nat) : Option Nat → Option Progress
  | none =>
    if 0xD800 ≤ value ∧ value ≤ 0xDBFF then some (.wait (.lowBackslash value))
    else if 0xDC00 ≤ value ∧ value ≤ 0xDFFF then none
    else some (.give (Char.ofNat value))
  | some high =>
    if 0xDC00 ≤ value ∧ value ≤ 0xDFFF then
      some (.give (Char.ofNat (0x10000 + (high - 0xD800) * 0x400 + (value - 0xDC00))))
    else none

/-- The effect of one character of a string, by what is pending. `none` refuses the character. -/
def Pending.step : Pending → Char → Option Progress
  | nothing, c =>
    if c = '\x22' then some .close
    else if c = '\\' then some (.wait .escape)
    else if c.toNat < 0x20 then none
    else some (.give c)
  | escape, c =>
    if c = 'u' then some (.wait (.hex 4 0 none)) else (unescape? c).map .give
  | hex left value high, c =>
    (hexValue? c).bind fun d =>
      if left ≤ 1 then codeUnit (value * 16 + d) high
      else some (.wait (.hex (left - 1) (value * 16 + d) high))
  | lowBackslash high, c => if c = '\\' then some (.wait (.lowLetter high)) else none
  | lowLetter high, c => if c = 'u' then some (.wait (.hex 4 0 (some high))) else none

/-- The rest of a string up to its closing quote. `acc` holds the characters so far, the last one
first. -/
def readStringFrom (acc : List Char) (p : Pending) : Reader String
  | [] => none
  | c :: rest =>
    match p.step c with
    | none => none
    | some .close => some (String.ofList acc.reverse, rest)
    | some (.give d) => readStringFrom (d :: acc) .nothing rest
    | some (.wait q) => readStringFrom acc q rest

/-- A string after its opening quote. -/
def readStringBody : Reader String :=
  readStringFrom [] .nothing

/-- A string with its opening quote. -/
def readString : Reader String
  | '\x22' :: rest => readStringBody rest
  | _ => none

/-! ## Arrays, objects and values -/

/-- The given characters. -/
def readWord (word : List Char) : Reader Unit := fun cs =>
  if cs.take word.length = word then some ((), cs.drop word.length) else none

/-- Items with commas between them, up to the closing character. At least one item; `fuel` bounds
their count and the length of the text is always enough. -/
def readItems {α : Type} (item : Reader α) (close : Char) : (fuel : Nat) → Reader (List α)
  | 0, _ => none
  | fuel + 1, cs =>
    match item cs with
    | none => none
    | some (a, rest) =>
      match skipSpace rest with
      | [] => none
      | c :: rest' =>
        if c = ',' then (readItems item close fuel rest').map fun (as, r) => (a :: as, r)
        else if c = close then some ([a], rest')
        else none

/-- The items of an array or object after its opening bracket, possibly none. -/
def readSequence {α : Type} (item : Reader α) (close : Char) : Reader (List α) := fun cs =>
  match skipSpace cs with
  | [] => none
  | c :: rest =>
    if c = close then some ([], rest) else readItems item close cs.length (c :: rest)

/-- The name of a member and the colon after it. -/
def readName : Reader String := fun cs =>
  (readString (skipSpace cs)).bind fun (name, cs) =>
    match skipSpace cs with
    | ':' :: rest => some (name, rest)
    | _ => none

/-- A member of an object: its name, a colon, its value. -/
def readMember {α : Type} (value : Reader α) : Reader (String × α) := fun cs =>
  (readName cs).bind fun (name, cs) => (value cs).map fun (v, rest) => ((name, v), rest)

/-- The value that the members between two braces denote: an object, or a number if the first
member announces one. -/
def ofBraces : List (String × Json) → Option Json
  | [] => some (.object [])
  | (name, value) :: rest =>
    if name = numberMember then
      match value, rest with
      | .string s, [] => (numberOf? s).map .number
      | _, _ => none
    else some (.object (Object.ofMembers ((name, value) :: rest)))

/-- A value, given readers for what follows an opening bracket and an opening brace. -/
def readValueWith (array object : Reader Json) : Reader Json := fun cs =>
  match skipSpace cs with
  | [] => none
  | c :: rest =>
    if c = '\x22' then (readStringBody rest).map fun (s, r) => (.string s, r)
    else if c = '[' then array rest
    else if c = '\x7b' then object rest
    else if c = 'n' then (readWord ['u', 'l', 'l'] rest).map fun (_, r) => (.null, r)
    else if c = 't' then (readWord ['r', 'u', 'e'] rest).map fun (_, r) => (.bool true, r)
    else if c = 'f' then (readWord ['a', 'l', 's', 'e'] rest).map fun (_, r) => (.bool false, r)
    else (readNumber (c :: rest)).map fun (n, r) => (.number n, r)

/-- A value in which at most `depth` arrays and objects are open at a time. -/
def readValue : (depth : Nat) → Reader Json
  | 0, cs => readValueWith (fun _ => none) (fun _ => none) cs
  | depth + 1, cs =>
    readValueWith
      (fun r => (readSequence (fun r => readValue depth r) ']' r).map fun (vs, r) => (.array vs, r))
      (fun r => (readSequence (readMember fun r => readValue depth r) '\x7d' r).bind fun (ms, r) =>
        (ofBraces ms).map fun v => (v, r))
      cs

/-- A reader's answer if nothing but space follows. -/
def whole {α : Type} (read : Reader α) (cs : List Char) : Option α :=
  match read cs with
  | some (a, rest) => if skipSpace rest = [] then some a else none
  | none => none

/-- The value of a JSON text. -/
def parse (text : String) : Option Json :=
  whole (readValue nestingLimit) text.toList

/-- The value of a JSON text in UTF-8. -/
def parseBytes (bytes : List UInt8) : Option Json :=
  (Encoding.utf8Text? bytes).bind parse

end PresentationVerifier.Json
