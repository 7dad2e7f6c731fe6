import PresentationVerifier.Json.Printer
import PresentationVerifier.Proofs.Reading
import PresentationVerifier.Text.Split

/-!
# Reading what was printed

The compact text of a value is read as that value again, if the value is one that a text can be read as
(`Reprintable`). Each part of a text is read with any text behind it; for a number this text must not go
on with digits, a point or an exponent, and within a value it never does, as a comma or a closing bracket
follows (`Ends`).

One name gets in the way: an object with a member called `numberMember` is printed like any other, and
read as a number, or not at all.

Main results:

* `readNumber_text`, `readStringBody_escaped`, `readSequence_join`: the parts of a text.
* `parse_compact`: the text of a value.
* `reprintable_of_parse`: which values that were read are read again.
-/

namespace PresentationVerifier.Json

open Number (exponentText fractionText)

/-! ## What follows a value -/

/-- Within a text a value is followed by a comma or a closing bracket; at the end nothing follows. -/
def Ends (rest : List Char) : Prop :=
  ∀ c ∈ rest.head?, c = ',' ∨ c = ']' ∨ c = '\x7d'

/-- A value may be followed by any text that begins with such a character. -/
theorem ends_cons {c : Char} (h : c = ',' ∨ c = ']' ∨ c = '\x7d') (rest : List Char) :
    Ends (c :: rest) := by
  intro d hd
  obtain rfl := Option.some.inj hd
  exact h

/-- Between two brackets every value is followed by a comma or the closing bracket. -/
theorem ends_within {close : Char} (hClose : close = ']' ∨ close = '\x7d') {c : Char}
    (hc : c = ',' ∨ c = close) (rest : List Char) : Ends (c :: rest) := by
  refine ends_cons ?_ rest
  rcases hc with rfl | rfl
  · exact Or.inl rfl
  · exact Or.inr hClose

@[simp] theorem ends_nil : Ends [] := by
  rintro c ⟨⟩

/-- A text that no number goes on with. -/
def Stops (rest : List Char) : Prop :=
  ∀ c ∈ rest.head?, isDigit c = false ∧ c ≠ '.' ∧ c ≠ 'e' ∧ c ≠ 'E'

/-- No number goes on with a character that follows a value. -/
theorem Ends.stops {rest : List Char} (h : Ends rest) : Stops rest := by
  intro c hc
  rcases h c hc with rfl | rfl | rfl <;> decide

/-! ## Numbers -/

/-- A digit is printed as a digit, and read as the one that it is. -/
theorem digit_spec : ∀ d : Digit, isDigit d.toChar = true ∧ Digit.ofChar d.toChar = d := by
  decide

/-- Digits are read up to the first character that is none. -/
theorem readDigits_append (ds : List Digit) {rest : List Char}
    (hStops : ∀ c ∈ rest.head?, isDigit c = false) :
    readDigits (ds.map Digit.toChar ++ rest) = (ds, rest) := by
  have hRest : rest.takeWhile isDigit = [] ∧ rest.dropWhile isDigit = rest := by
    cases rest with
    | nil => exact ⟨rfl, rfl⟩
    | cons c rest =>
      have hc : isDigit c = false := hStops c rfl
      simp [hc]
  -- by induction on the digits, of which none is left to the rest
  induction ds with
  | nil => simp [readDigits, hRest]
  | cons d ds ih =>
    obtain ⟨hDigit, hValue⟩ := digit_spec d
    rw [readDigits, Prod.mk.injEq] at ih ⊢
    simp [hDigit, hValue, ih]

/-- A number need not have an exponent. -/
theorem readExponent_of_stops {rest : List Char} (hStops : Stops rest) :
    readExponent rest = some (none, rest) := by
  cases rest with
  | nil => rfl
  | cons c rest =>
    obtain ⟨-, -, hLower, hUpper⟩ := hStops c rfl
    rw [readExponent, if_neg (by simp [hLower, hUpper])]

/-- The letter of an exponent may be written in either case, and its sign in any way that is read as
that sign. -/
theorem readExponent_signed {letter : Char} (hLetter : letter = 'e' ∨ letter = 'E') {e : Exponent}
    (hSome : e.digits ≠ []) {back rest : List Char} (hStops : Stops rest)
    (hSign : readSign back = (e.negative, e.digits.map Digit.toChar ++ rest)) :
    readExponent (letter :: back) = some (some e, rest) := by
  obtain ⟨negative, digits⟩ := e
  have hDigits := readDigits_append digits fun c hc => (hStops c hc).1
  rw [readExponent, if_pos hLetter, hSign, hDigits]
  cases digits with
  | nil => exact absurd rfl hSome
  | cons d ds => rfl

/-- An exponent is read as it was printed. -/
theorem readExponent_append {exponent : Option Exponent} (hSome : ∀ e ∈ exponent, e.digits ≠ [])
    {rest : List Char} (hStops : Stops rest) :
    readExponent (exponentText exponent ++ rest) = some (exponent, rest) := by
  cases exponent with
  | none => exact readExponent_of_stops hStops
  | some e =>
    -- a sign is always printed, and only the minus says something
    have hSign : readSign ((if e.negative then '-' else '+') :: (e.digits.map Digit.toChar ++ rest)) =
        (e.negative, e.digits.map Digit.toChar ++ rest) := by
      cases e.negative with
      | false => rfl
      | true => rfl
    exact readExponent_signed (Or.inl rfl) (hSome e rfl) hStops hSign

/-- Behind the fraction there is the exponent, or the end of the number. -/
theorem exponent_stops (exponent : Option Exponent) {rest : List Char} (hStops : Stops rest) :
    ∀ c ∈ (exponentText exponent ++ rest).head?, isDigit c = false ∧ c ≠ '.' := by
  intro c hc
  cases exponent with
  | some e =>
    obtain rfl := Option.some.inj hc
    decide
  | none =>
    obtain ⟨hDigit, hPoint, -⟩ := hStops c hc
    exact ⟨hDigit, hPoint⟩

/-- Behind the digits before the point there is the point, or what may follow a fraction. -/
theorem fraction_stops (fraction : List Digit) {rest : List Char}
    (hStops : ∀ c ∈ rest.head?, isDigit c = false) :
    ∀ c ∈ (fractionText fraction ++ rest).head?, isDigit c = false := by
  intro c hc
  cases fraction with
  | nil => exact hStops c hc
  | cons d ds =>
    obtain rfl := Option.some.inj hc
    decide

theorem readFraction_append (fraction : List Digit) {rest : List Char}
    (hStops : ∀ c ∈ rest.head?, isDigit c = false ∧ c ≠ '.') :
    readFraction (fractionText fraction ++ rest) = some (fraction, rest) := by
  -- without digits no point is printed, and none may follow then
  cases fraction with
  | nil =>
    rw [fractionText, List.nil_append]
    unfold readFraction
    split
    · exact absurd rfl (hStops '.' rfl).2
    · rfl
  | cons d ds =>
    have hDigits := readDigits_append (d :: ds) fun c hc => (hStops c hc).1
    rw [fractionText, List.cons_append, readFraction, hDigits]

theorem readWhole_append {whole : List Digit} (hSome : whole ≠ [])
    (hLeading : whole.head? = some 0 → whole.length = 1) {rest : List Char}
    (hStops : ∀ c ∈ rest.head?, isDigit c = false) :
    readWhole (whole.map Digit.toChar ++ rest) = some (whole, rest) := by
  rw [readWhole, readDigits_append whole hStops]
  cases whole with
  | nil => exact absurd rfl hSome
  | cons d ds =>
    -- a zero in front of other digits is what the grammar rules out
    have hAlone : ¬(d.val = 0 ∧ ds ≠ []) := by
      rintro ⟨hZero, hMore⟩
      have hFirst : (d :: ds).head? = some 0 := congrArg some (Fin.ext hZero)
      have hLength := hLeading hFirst
      rw [List.length_cons, Nat.add_eq_right, List.length_eq_zero_iff] at hLength
      exact hMore hLength
    simp only [if_neg hAlone]

/-- The digits of a number, whose sign was read. -/
def readUnsigned (negative : Bool) : Reader Number := fun cs =>
  (readWhole cs).bind fun (whole, cs) =>
    (readFraction cs).bind fun (fraction, cs) =>
      (readExponent cs).map fun (exponent, cs) => (⟨negative, whole, fraction, exponent⟩, cs)

/-- A number is read like one without a sign, behind a minus if there is one. -/
theorem readNumber_eq (cs : List Char) :
    readNumber cs =
      if cs.head? = some '-' then readUnsigned true cs.tail else readUnsigned false cs := by
  unfold readNumber
  split
  · next negative cs' hSign =>
    -- the reader takes off the minus, if the first character is one
    split at hSign
    · obtain ⟨rfl, rfl⟩ := Prod.mk.inj hSign
      rfl
    · next hNot =>
      obtain ⟨rfl, rfl⟩ := Prod.mk.inj hSign
      have hHead : cs.head? ≠ some '-' := by
        intro h
        cases cs with
        | nil => cases h
        | cons c rest =>
          obtain rfl := Option.some.inj h
          exact hNot rest rfl
      rw [if_neg hHead]
      rfl

section Parts

variable {n : Number} {back rest : List Char}

/-- A number without its sign is read part by part; its exponent may be written in any way. -/
theorem readUnsigned_append (hSome : n.whole ≠ [])
    (hLeading : n.whole.head? = some 0 → n.whole.length = 1)
    (hBehind : ∀ c ∈ back.head?, isDigit c = false ∧ c ≠ '.')
    (hExponent : readExponent back = some (n.exponent, rest)) :
    readUnsigned n.negative (n.whole.map Digit.toChar ++ (fractionText n.fraction ++ back)) =
      some (n, rest) := by
  have hWhole := readWhole_append hSome hLeading
    (fraction_stops n.fraction fun c hc => (hBehind c hc).1)
  unfold readUnsigned
  rw [hWhole, Option.bind_some]
  dsimp only
  rw [readFraction_append n.fraction hBehind, Option.bind_some]
  dsimp only
  rw [hExponent, Option.map_some]

/-- A number is read part by part; its exponent may be written in any way. -/
theorem readNumber_append (hSome : n.whole ≠ [])
    (hLeading : n.whole.head? = some 0 → n.whole.length = 1)
    (hBehind : ∀ c ∈ back.head?, isDigit c = false ∧ c ≠ '.')
    (hExponent : readExponent back = some (n.exponent, rest)) :
    readNumber ((if n.negative then ['-'] else []) ++
      (n.whole.map Digit.toChar ++ (fractionText n.fraction ++ back))) = some (n, rest) := by
  have hUnsigned := readUnsigned_append hSome hLeading hBehind hExponent
  rw [readNumber_eq]
  cases hNegative : n.negative with
  | true =>
    rw [hNegative] at hUnsigned
    exact hUnsigned
  | false =>
    rw [hNegative] at hUnsigned
    cases hWhole : n.whole with
    | nil => exact absurd hWhole hSome
    | cons d ds =>
      -- a digit is no minus
      have hDigit : d.toChar ≠ '-' := by
        intro hMinus
        have hIs := (digit_spec d).1
        rw [hMinus] at hIs
        exact absurd hIs (by decide)
      rw [hWhole] at hUnsigned
      rw [if_neg (by simp [hDigit])]
      exact hUnsigned

end Parts

/-- A number is read as it was printed. -/
theorem readNumber_text {n : Number} (hn : n.WellFormed) {rest : List Char} (hEnds : Ends rest) :
    readNumber (n.text ++ rest) = some (n, rest) := by
  obtain ⟨hSome, hLeading, hExponent⟩ := hn
  have hRead := readNumber_append hSome hLeading (exponent_stops n.exponent hEnds.stops)
    (readExponent_append hExponent hEnds.stops)
  rw [Number.text]
  simp only [List.append_assoc]
  exact hRead

/-- A number begins with a minus or a digit. -/
theorem number_first (negative : Bool) {whole : List Digit} (hSome : whole ≠ []) (back : List Char) :
    ∃ c cs, (if negative then ['-'] else []) ++ (whole.map Digit.toChar ++ back) = c :: cs ∧
      (c = '-' ∨ isDigit c = true) := by
  cases negative with
  | true => exact ⟨'-', _, rfl, Or.inl rfl⟩
  | false =>
    cases whole with
    | nil => exact absurd rfl hSome
    | cons d ds => exact ⟨d.toChar, _, rfl, Or.inr (digit_spec d).1⟩

/-- The text of a number begins with a minus or a digit. -/
theorem text_first {n : Number} (hn : n.WellFormed) :
    ∃ c cs, n.text = c :: cs ∧ (c = '-' ∨ isDigit c = true) := by
  obtain ⟨hSome, -, -⟩ := hn
  rw [Number.text]
  simp only [List.append_assoc]
  exact number_first n.negative hSome _

/-! ## Strings -/

theorem hexValue?_hexDigit : ∀ n < 16, hexValue? (hexDigit n) = some n := by
  decide

/-- The forms in which a character stands inside a string: behind a backslash the letter of its escape, or
the digits of its code, or the character itself. -/
inductive EscapedAs (c : Char) : List Char → Prop where
  | letter {letter : Char} (hLetter : unescape? letter = some c) (hOther : letter ≠ 'u') :
      EscapedAs c ['\\', letter]
  | code {high low : Char} {i j : Nat} (hHigh : hexValue? high = some i) (hLow : hexValue? low = some j)
      (hControl : c.toNat < 0x20) (hCode : i * 16 + j = c.toNat) :
      EscapedAs c ['\\', 'u', '0', '0', high, low]
  | plain (hQuote : c ≠ '\x22') (hBackslash : c ≠ '\\') (hControl : ¬c.toNat < 0x20) : EscapedAs c [c]

/-- Every character is printed in one of these forms. -/
theorem escapeChar_form (c : Char) : EscapedAs c (escapeChar c) := by
  by_cases hNamed : c ∈ ['\x22', '\\', '\x08', '\x0C', '\n', '\r', '\t']
  · simp only [List.mem_cons, List.not_mem_nil, or_false] at hNamed
    rcases hNamed with rfl | rfl | rfl | rfl | rfl | rfl | rfl <;> exact .letter rfl (by decide)
  · simp only [List.mem_cons, List.not_mem_nil, or_false, not_or] at hNamed
    obtain ⟨hQuote, hBackslash, hBackspace, hFeed, hLine, hReturn, hTab⟩ := hNamed
    unfold escapeChar
    rw [if_neg hQuote, if_neg hBackslash, if_neg hBackspace, if_neg hFeed, if_neg hLine, if_neg hReturn,
      if_neg hTab]
    split
    · next hControl =>
      exact .code (hexValue?_hexDigit _ (by omega)) (hexValue?_hexDigit _ (by omega)) hControl (by omega)
    · next hControl => exact .plain hQuote hBackslash hControl

/-- A character is read as it was printed, with an escape or without. -/
theorem readStringFrom_escapeChar (acc : List Char) (c : Char) (rest : List Char) :
    readStringFrom acc .nothing (escapeChar c ++ rest) = readStringFrom (c :: acc) .nothing rest := by
  have hForm := escapeChar_form c
  generalize escapeChar c = text at hForm ⊢
  cases hForm with
  | @letter letter hLetter hOther =>
    show readStringFrom acc .escape (letter :: rest) = _
    rw [readStringFrom, Pending.step, if_neg hOther, hLetter]
    rfl
  | @code high low i j hHigh hLow hControl hCode =>
    have hValue : (0 * 16 + i) * 16 + j = c.toNat := by omega
    -- the escape has four digits, of which the first two are zeros
    show readStringFrom acc (.hex 2 0 none) (high :: low :: rest) = _
    rw [readStringFrom, Pending.step, hHigh, Option.bind_some, if_neg (by omega)]
    dsimp only
    rw [readStringFrom, Pending.step, hLow, Option.bind_some, if_pos (by omega), hValue, codeUnit,
      if_neg (by omega), if_neg (by omega), Char.ofNat_toNat]
  | plain hQuote hBackslash hControl =>
    rw [List.singleton_append, readStringFrom, Pending.step, if_neg hQuote, if_neg hBackslash,
      if_neg hControl]

/-- The characters of a string, up to its closing quote. -/
theorem readStringBody_escaped (s : String) (rest : List Char) :
    readStringBody (s.toList.flatMap escapeChar ++ '\x22' :: rest) = some (s, rest) := by
  -- with the characters that were read before kept in reverse
  have hChars : ∀ cs acc : List Char,
      readStringFrom acc .nothing (cs.flatMap escapeChar ++ '\x22' :: rest) =
        some (String.ofList (acc.reverse ++ cs), rest) := by
    intro cs
    induction cs with
    | nil =>
      intro acc
      rw [List.append_nil]
      rfl
    | cons c cs ih =>
      intro acc
      rw [List.flatMap_cons, List.append_assoc, readStringFrom_escapeChar, ih, List.reverse_cons,
        List.append_assoc, List.singleton_append]
  rw [readStringBody, hChars, List.reverse_nil, List.nil_append, String.ofList_toList]

theorem quoted_append (s : String) (rest : List Char) :
    quoted s ++ rest = '\x22' :: (s.toList.flatMap escapeChar ++ '\x22' :: rest) := by
  rw [quoted, List.cons_append, List.append_assoc, List.singleton_append]

/-- The name of a member is read with the colon behind it. -/
theorem readName_quoted (name : String) (rest : List Char) :
    readName (quoted name ++ ':' :: rest) = some (name, rest) := by
  have hString : readString (skipSpace (quoted name ++ ':' :: rest)) = some (name, ':' :: rest) := by
    rw [quoted_append]
    exact readStringBody_escaped name (':' :: rest)
  rw [readName, hString]
  rfl

/-! ## Items between commas -/

section Sequences

variable {α β : Type} {item : Reader β} {print : α → List Char} {close : Char} {decode : α → Option β}

/-- What an item is read as, if a comma follows it or the sequence ends; `none` if it is refused. -/
def ReadsAs (item : Reader β) (print : α → List Char) (close : Char) (decode : α → Option β) (a : α) :
    Prop :=
  ∀ c rest, c = ',' ∨ c = close → item (print a ++ c :: rest) = (decode a).map fun b => (b, c :: rest)

/-- An item is read as it was printed, if a comma follows it or the sequence ends. -/
def ReadsBack (item : Reader α) (print : α → List Char) (close : Char) (a : α) : Prop :=
  ∀ c rest, c = ',' ∨ c = close → item (print a ++ c :: rest) = some (a, c :: rest)

/-- Items with commas between them are read one by one, or refused if one of them is. -/
theorem readItems_mapM (hClose : close ≠ ',' ∧ isSpace close = false) {as : List α} (hSome : as ≠ [])
    (hItems : ∀ a ∈ as, ReadsAs item print close decode a) {fuel : Nat} (hFuel : as.length ≤ fuel)
    (rest : List Char) :
    readItems item close fuel (Text.join ',' (as.map print) ++ close :: rest) =
      (as.mapM decode).map fun bs => (bs, rest) := by
  have hSkip : skipSpace (close :: rest) = close :: rest := by
    simp [skipSpace, hClose.2]
  -- each item takes one unit of fuel
  induction as generalizing fuel with
  | nil => exact absurd rfl hSome
  | cons a more ih =>
    obtain ⟨hFirst, hMore⟩ := List.forall_mem_cons.mp hItems
    have hDecode : ((a :: more).mapM decode).map (fun bs => (bs, rest)) =
        (decode a).bind fun b => (more.mapM decode).map fun bs => (b :: bs, rest) := by
      rw [List.mapM_cons]
      cases decode a with
      | none => rfl
      | some b => cases more.mapM decode <;> rfl
    rw [hDecode]
    cases fuel with
    | zero => cases hFuel
    | succ fuel =>
      -- a last item is followed by the closing character, and any other one by a comma
      cases more with
      | nil =>
        rw [List.map_singleton, Text.join, readItems, hFirst close rest (Or.inr rfl)]
        cases decode a with
        | none => rfl
        | some b =>
          simp only [Option.map_some, hSkip, if_neg hClose.1, if_true]
          rfl
      | cons next others =>
        have hRest := ih (List.cons_ne_nil next others) hMore (Nat.le_of_succ_le_succ hFuel)
        have hComma : ∀ cs, skipSpace (',' :: cs) = ',' :: cs := fun cs => rfl
        rw [List.map_cons, Text.join_cons (by simp), List.append_assoc, List.cons_append, readItems,
          hFirst ',' _ (Or.inl rfl)]
        cases decode a with
        | none => rfl
        | some b =>
          simp only [Option.map_some, hComma, if_true, hRest, Option.map_map, Option.bind_some]
          rfl

/-- A sequence that was printed with commas between its items is read if each item is, up to the closing
character. -/
theorem readSequence_mapM (hClose : close ≠ ',' ∧ isSpace close = false) {as : List α}
    (hFirst : ∀ a ∈ as, ∃ c cs, print a = c :: cs ∧ isSpace c = false ∧ c ≠ close)
    (hItems : ∀ a ∈ as, ReadsAs item print close decode a) (rest : List Char) :
    readSequence item close (Text.join ',' (as.map print) ++ close :: rest) =
      (as.mapM decode).map fun bs => (bs, rest) := by
  cases as with
  | nil =>
    have hSkip : skipSpace (close :: rest) = close :: rest := by
      simp [skipSpace, hClose.2]
    simp [Text.join, readSequence, hSkip]
  | cons a more =>
    obtain ⟨c, cs, hPrint, hSpace, hOther⟩ := hFirst a List.mem_cons_self
    obtain ⟨tail, hTail⟩ : ∃ tail, Text.join ',' ((a :: more).map print) = c :: tail := by
      cases more with
      | nil => exact ⟨cs, hPrint⟩
      | cons b others => exact ⟨_, by rw [List.map_cons, Text.join_cons (by simp), hPrint, List.cons_append]⟩
    -- there are no more items than characters
    have hFuel : (a :: more).length ≤ (Text.join ',' ((a :: more).map print) ++ close :: rest).length := by
      have hLength := Text.length_le_join ',' ((a :: more).map print)
      rw [List.length_map] at hLength
      rw [List.length_append, List.length_cons (a := close)]
      omega
    have hItemsRead := readItems_mapM hClose (List.cons_ne_nil a more) hItems hFuel rest
    have hSkip : skipSpace (Text.join ',' ((a :: more).map print) ++ close :: rest) =
        c :: (tail ++ close :: rest) := by
      rw [hTail, List.cons_append, skipSpace, List.dropWhile_cons, hSpace]
      rfl
    rw [readSequence, hSkip]
    simp only [if_neg hOther]
    rw [← hItemsRead, hTail, List.cons_append]

/-- Items are read as they were printed with commas between them, up to the closing character. -/
theorem readSequence_join {item : Reader α} (hClose : close ≠ ',' ∧ isSpace close = false) {as : List α}
    (hFirst : ∀ a ∈ as, ∃ c cs, print a = c :: cs ∧ isSpace c = false ∧ c ≠ close)
    (hItems : ∀ a ∈ as, ReadsBack item print close a) (rest : List Char) :
    readSequence item close (Text.join ',' (as.map print) ++ close :: rest) = some (as, rest) := by
  have hAll : as.mapM some = some as := by
    have hPure : as.mapM (fun a => (pure a : Option α)) = pure (as.map fun a => a) := List.mapM_pure
    rwa [List.map_id'] at hPure
  have hEach : ∀ a ∈ as, ReadsAs item print close some a := hItems
  rw [readSequence_mapM hClose hFirst hEach rest, hAll, Option.map_some]

end Sequences

/-! ## Values -/

/-- A member as it is printed. -/
def memberChars (m : String × Json) : List Char :=
  quoted m.1 ++ ':' :: m.2.compactChars

/-- Items are printed with commas between them. -/
theorem itemsChars_eq (items : List Json) :
    itemsChars items = Text.join ',' (items.map compactChars) := by
  induction items with
  | nil => rw [itemsChars, List.map_nil, Text.join]
  | cons v rest ih =>
    cases rest with
    | nil => rw [itemsChars, List.map_singleton, Text.join]
    | cons w others =>
      rw [itemsChars, ih, List.map_cons (a := v), Text.join_cons (by simp)]

theorem membersChars_eq (members : List (String × Json)) :
    membersChars members = Text.join ',' (members.map memberChars) := by
  induction members with
  | nil => rw [membersChars, List.map_nil, Text.join]
  | cons m rest ih =>
    obtain ⟨name, v⟩ := m
    cases rest with
    | nil => rw [membersChars, List.map_singleton, Text.join, memberChars]
    | cons n others =>
      have hSome : (n :: others).map memberChars ≠ [] := by simp
      rw [List.map_cons (a := (name, v)), Text.join_cons hSome, ← ih, memberChars, List.append_assoc,
        List.cons_append]
      rw [membersChars]

theorem array_append (items : List Json) (rest : List Char) :
    (Json.array items).compactChars ++ rest =
      '[' :: (Text.join ',' (items.map compactChars) ++ ']' :: rest) := by
  rw [compactChars, itemsChars_eq, List.cons_append, List.append_assoc, List.singleton_append]

theorem object_append (members : Object) (rest : List Char) :
    (Json.object members).compactChars ++ rest =
      '\x7b' :: (Text.join ',' (members.map memberChars) ++ '\x7d' :: rest) := by
  rw [compactChars, membersChars_eq, List.cons_append, List.append_assoc, List.singleton_append]

/-- A member begins with the quote of its name. -/
theorem memberChars_first (m : String × Json) :
    ∃ c cs, memberChars m = c :: cs ∧ isSpace c = false ∧ c ≠ '\x7d' :=
  ⟨'\x22', _, by rw [memberChars, quoted_append], by decide⟩

/-- A digit or minus sign is no other character. -/
theorem first_ne {c d : Char} (h : c = '-' ∨ isDigit c = true) (hDigit : isDigit d = false)
    (hMinus : d ≠ '-') : c ≠ d := by
  rintro rfl
  rcases h with rfl | hIs
  · exact hMinus rfl
  · rw [hDigit] at hIs
    cases hIs

theorem first_not_space {c : Char} (h : c = '-' ∨ isDigit c = true) : isSpace c = false := by
  simp [isSpace, first_ne h (d := ' ') rfl, first_ne h (d := '\n') rfl, first_ne h (d := '\t') rfl,
    first_ne h (d := '\r') rfl]

/-- No value begins with a space or a closing bracket. -/
theorem compactChars_first {v : Json} (hNumber : ∀ n, v = .number n → n.WellFormed) :
    ∃ c cs, v.compactChars = c :: cs ∧ isSpace c = false ∧ c ≠ ']' := by
  -- each kind of value has its own first characters
  cases v with
  | null => exact ⟨'n', _, by rw [compactChars], by decide⟩
  | bool b =>
    cases b with
    | false => exact ⟨'f', _, by rw [compactChars], by decide⟩
    | true => exact ⟨'t', _, by rw [compactChars], by decide⟩
  | number n =>
    obtain ⟨c, cs, hText, hFirst⟩ := text_first (hNumber n rfl)
    exact ⟨c, cs, by rw [compactChars, hText], first_not_space hFirst, first_ne hFirst rfl (by decide)⟩
  | string s => exact ⟨'\x22', _, by rw [compactChars, quoted], by decide⟩
  | array items => exact ⟨'[', _, by rw [compactChars], by decide⟩
  | object members => exact ⟨'\x7b', _, by rw [compactChars], by decide⟩

/-- A digit or minus sign begins no other value than a number. -/
theorem readValueWith_number {array object : Reader Json} {c : Char} {cs : List Char}
    (h : c = '-' ∨ isDigit c = true) :
    readValueWith array object (c :: cs) = (readNumber (c :: cs)).map fun r => (.number r.1, r.2) := by
  have hSkip : skipSpace (c :: cs) = c :: cs := by
    simp [skipSpace, first_not_space h]
  rw [readValueWith, hSkip]
  dsimp only
  -- so it is none of the six characters that other values begin with
  rw [if_neg (first_ne h rfl (by decide)), if_neg (first_ne h rfl (by decide)),
    if_neg (first_ne h rfl (by decide)), if_neg (first_ne h rfl (by decide)),
    if_neg (first_ne h rfl (by decide)), if_neg (first_ne h rfl (by decide))]

/-- A value without parts is read as it was printed. -/
theorem readValueWith_scalar {array object : Reader Json} {v : Json} (hv : Scalar v) {rest : List Char}
    (hEnds : Ends rest) : readValueWith array object (v.compactChars ++ rest) = some (v, rest) := by
  cases v with
  | null =>
    rw [compactChars]
    rfl
  | bool b =>
    cases b with
    | false => rw [compactChars]; rfl
    | true => rw [compactChars]; rfl
  | number n =>
    have hNumber := readNumber_text (show n.WellFormed from hv) hEnds
    obtain ⟨c, cs, hText, hFirst⟩ := text_first (show n.WellFormed from hv)
    rw [hText, List.cons_append] at hNumber
    rw [compactChars, hText, List.cons_append, readValueWith_number hFirst, hNumber, Option.map_some]
  | string s =>
    have hBody := readStringBody_escaped s rest
    rw [compactChars, quoted_append]
    show (readStringBody _).map _ = _
    rw [hBody, Option.map_some]
  | array items => cases hv
  | object members => cases hv

/-- No object in the tree has a member with the name that announces a number. -/
def NoNumberMember (v : Json) : Prop :=
  ∀ o, Part (.object o) v → ∀ m ∈ o, m.1 ≠ numberMember

theorem noNumberMember_of_scalar {v : Json} (h : Scalar v) : NoNumberMember v := by
  intro o hPart
  cases hPart with
  | self => cases h
  | item => cases h
  | member => cases h

/-- No member of the name is in an array if none is in its items. -/
@[simp] theorem noNumberMember_array_iff {items : List Json} :
    NoNumberMember (.array items) ↔ ∀ v ∈ items, NoNumberMember v := by
  constructor
  · exact fun h v hv o hPart => h o (.item hv hPart)
  · intro h o hPart
    cases hPart with
    | item hItem hBelow => exact h _ hItem o hBelow

/-- No member of the name is in an object if it has none itself, and none is in its members. -/
@[simp] theorem noNumberMember_object_iff {members : Object} :
    NoNumberMember (.object members) ↔
      ∀ m ∈ members, m.1 ≠ numberMember ∧ NoNumberMember m.2 := by
  constructor
  · exact fun h m hm => ⟨h members .self m hm, fun o hPart => h o (.member hm hPart)⟩
  · intro h o hPart
    cases hPart with
    | self => exact fun m hm => (h m hm).1
    | member hMember hBelow => exact (h _ hMember).2 o hBelow

/-- A value that a text can be read as with a nesting limit, and that is no number in disguise. -/
structure Reprintable (limit : Nat) (v : Json) : Prop where
  nests : NestsWithin limit v
  ordered : v.Ordered
  numbers : ∀ n, Part (.number n) v → n.WellFormed
  names : NoNumberMember v

theorem reprintable_of_scalar {v : Json} (h : Scalar v) (limit : Nat) : Reprintable limit v where
  nests := nestsWithin_of_scalar h limit
  ordered := by
    cases v with
    | array items => cases h
    | object members => cases h
    | null | bool b | number n | string s => trivial
  numbers n hPart := by
    cases hPart with
    | self => exact h
    | item => cases h
    | member => cases h
  names := noNumberMember_of_scalar h

/-- An array can be printed and read if its items can, one level deeper. -/
theorem reprintable_array {limit : Nat} {items : List Json} (h : ∀ v ∈ items, Reprintable limit v) :
    Reprintable (limit + 1) (.array items) where
  nests v hv := (h v hv).nests
  ordered := itemsOrdered_iff.mpr fun v hv => (h v hv).ordered
  numbers n hPart := by
    cases hPart with
    | item hItem hBelow => exact (h _ hItem).numbers n hBelow
  names := noNumberMember_array_iff.mpr fun v hv => (h v hv).names

/-- What can be printed and read as an array can be so item by item. -/
theorem Reprintable.item {limit : Nat} {items : List Json} (h : Reprintable (limit + 1) (.array items))
    {v : Json} (hv : v ∈ items) : Reprintable limit v where
  nests := h.nests v hv
  ordered := itemsOrdered_iff.mp h.ordered v hv
  numbers n hPart := h.numbers n (.item hv hPart)
  names := noNumberMember_array_iff.mp h.names v hv

theorem Reprintable.member {limit : Nat} {members : Object}
    (h : Reprintable (limit + 1) (.object members)) {m : String × Json} (hm : m ∈ members) :
    Reprintable limit m.2 where
  nests := h.nests m hm
  ordered := membersOrdered_iff.mp h.ordered.2 m hm
  numbers n hPart := h.numbers n (.member hm hPart)
  names := (noNumberMember_object_iff.mp h.names m hm).2

/-- Which values that were read are read again: those without an object that looks like a number. -/
theorem reprintable_of_parse {text : String} {v : Json} (h : parse text = some v)
    (hNames : NoNumberMember v) : Reprintable nestingLimit v where
  nests := nestsWithin_of_parse h
  ordered := ordered_of_parse h
  numbers _ hPart := wellFormed_of_parse h hPart
  names := hNames

/-- Members in their order, none of them with the name, give an object. -/
theorem ofBraces_of_names {o : Object} (hOrdered : (o.map Prod.fst).Pairwise (· < ·))
    (hNames : ∀ m ∈ o, m.1 ≠ numberMember) : ofBraces o = some (.object o) := by
  cases o with
  | nil => rfl
  | cons m rest =>
    obtain ⟨name, v⟩ := m
    have hFirst : name ≠ numberMember := hNames (name, v) List.mem_cons_self
    unfold ofBraces
    dsimp only
    rw [if_neg hFirst, Object.ofMembers_eq_of_perm (List.Perm.refl _) hOrdered]

/-- A value that can be printed and read begins with no space or closing bracket. -/
theorem Reprintable.first {limit : Nat} {v : Json} (h : Reprintable limit v) :
    ∃ c cs, v.compactChars = c :: cs ∧ isSpace c = false ∧ c ≠ ']' := by
  refine compactChars_first ?_
  rintro n rfl
  exact h.numbers n .self

/-- An array is read as it was printed if its items are. -/
theorem readValueWith_array {value object : Reader Json} {items : List Json}
    (hFirst : ∀ v ∈ items, ∃ c cs, v.compactChars = c :: cs ∧ isSpace c = false ∧ c ≠ ']')
    (hItems : ∀ v ∈ items, ReadsBack value compactChars ']' v) (rest : List Char) :
    readValueWith (fun r => (readSequence value ']' r).map fun (vs, r) => (.array vs, r)) object
      ((Json.array items).compactChars ++ rest) = some (.array items, rest) := by
  have hRead := readSequence_join (by decide) hFirst hItems rest
  rw [array_append]
  show (readSequence value ']' _).map _ = _
  rw [hRead, Option.map_some]

/-- An object is read as it was printed if the values of its members are. -/
theorem readValueWith_object {value array : Reader Json} {members : Object}
    (hOrdered : (members.map Prod.fst).Pairwise (· < ·)) (hNames : ∀ m ∈ members, m.1 ≠ numberMember)
    (hValues : ∀ m ∈ members, ReadsBack value compactChars '\x7d' m.2) (rest : List Char) :
    readValueWith array (fun r => (readSequence (readMember value) '\x7d' r).bind fun (ms, r) =>
        (ofBraces ms).map fun v => (v, r)) ((Json.object members).compactChars ++ rest) =
      some (.object members, rest) := by
  -- a member is its name, the colon and its value
  have hMembers : ∀ m ∈ members, ReadsBack (readMember value) memberChars '\x7d' m := by
    intro m hm c back hc
    have hValue := hValues m hm c back hc
    rw [memberChars, List.append_assoc, List.cons_append, readMember, readName_quoted, Option.bind_some]
    dsimp only
    rw [hValue, Option.map_some]
  have hRead := readSequence_join (by decide) (fun m _ => memberChars_first m) hMembers rest
  rw [object_append]
  show (readSequence (readMember value) '\x7d' _).bind _ = _
  rw [hRead, Option.bind_some]
  dsimp only
  rw [ofBraces_of_names hOrdered hNames, Option.map_some]

/-- **The text of a value is read as that value**, with any text behind it that may follow a value. -/
theorem readValue_compactChars {limit : Nat} {v : Json} (h : Reprintable limit v) {rest : List Char}
    (hEnds : Ends rest) : readValue limit (v.compactChars ++ rest) = some (v, rest) := by
  -- on the nesting that is left: without any the value has no parts
  induction limit generalizing v rest with
  | zero =>
    have hScalar : Scalar v := by
      cases v with
      | array items => exact h.nests.elim
      | object members => exact h.nests.elim
      | number n => exact h.numbers n .self
      | null | bool b | string s => trivial
    exact readValueWith_scalar hScalar hEnds
  | succ limit ih =>
    have hWithin : ∀ {close : Char}, close = ']' ∨ close = '\x7d' → ∀ {w}, Reprintable limit w →
        ReadsBack (fun r => readValue limit r) compactChars close w := by
      intro close hClose w hw c back hc
      exact ih hw (ends_within hClose hc back)
    cases v with
    | null => exact readValueWith_scalar (v := .null) trivial hEnds
    | bool b => exact readValueWith_scalar (v := .bool b) trivial hEnds
    | string s => exact readValueWith_scalar (v := .string s) trivial hEnds
    | number n => exact readValueWith_scalar (v := .number n) (h.numbers n .self) hEnds
    | array items =>
      exact readValueWith_array (fun w hw => (h.item hw).first)
        (fun w hw => hWithin (Or.inl rfl) (h.item hw)) rest
    | object members =>
      exact readValueWith_object h.ordered.1 (h.names members .self)
        (fun m hm => hWithin (Or.inr rfl) (h.member hm)) rest

/-- **The compact text of a value is read as that value.** -/
theorem parse_compact {v : Json} (h : Reprintable nestingLimit v) : parse v.compact = some v := by
  have hRead := readValue_compactChars h ends_nil
  rw [List.append_nil] at hRead
  rw [parse, compact, String.toList_ofList, whole, hRead]
  rfl

end PresentationVerifier.Json
