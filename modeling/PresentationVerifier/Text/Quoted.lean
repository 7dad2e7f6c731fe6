import PresentationVerifier.Text.Printable

/-!
# Quoted text

A text between quotes in which every character can be told: quotes, backslashes and the usual control
characters are escaped by a backslash, and a character that would not be seen is written by its code
point in hexadecimal.
-/

namespace PresentationVerifier.Text

/-- A character as it stands in a quoted text. -/
def escapeQuoted (c : Char) : List Char :=
  if c = '\x00' then ['\\', '0']
  else if c = '\t' then ['\\', 't']
  else if c = '\r' then ['\\', 'r']
  else if c = '\n' then ['\\', 'n']
  else if c = '\x22' then ['\\', '\x22']
  else if c = '\\' then ['\\', '\\']
  else if isPrintable c then [c]
  else ['\\', 'u', '\x7b'] ++ Nat.toDigits 16 c.toNat ++ ['\x7d']

/-- The text between quotes. -/
def quoted (s : String) : String :=
  String.ofList ('\x22' :: (s.toList.flatMap escapeQuoted ++ ['\x22']))

/-- A text that may be missing: its quoted form, or a word for nothing. -/
def quotedOption : Option String → String
  | none => "None"
  | some s => "Some(" ++ quoted s ++ ")"

end PresentationVerifier.Text
