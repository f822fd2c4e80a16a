import PixelScan.Proofs.Grammar

namespace PixelScan.Lexeme

open Alphabet Grammar

variable {c : Char} {l ds es u v tail rest : List Char}

/-- The lexeme that a text begins with, as its first character announces it. -/
def leading (c : Char) (tail : List Char) : Except Fault Lexeme :=
  match classify c with
  | .alpha => .ok (word (c :: tail))
  | .digit => number (c :: tail)
  | .hash =>
    match colour tail with
    | .ok l => .ok l
    | .error .tooShort => .error (.malformedColour .tooShort (String.ofList (c :: tail)))
    | .error .nonHexDigit =>
        let text := '#' :: tail.take colourDigits
        .error (.malformedColour .nonHexDigit (String.ofList text))
  | .quote => string tail
  | .operator => .ok (operator c)
  | .delimiter => .ok (delimiter c)
  | .whitespace | .invalid => .error (.unexpectedCharacter c)

theorem leading_digit (hc : Digit c) : leading c tail = number (c :: tail) := by
  rw [leading, classify_of_ofClass (k := .digit) hc]

theorem leading_quote : leading '"' tail = string tail := by
  rw [leading, classify_of_ofClass (k := .quote) rfl]

theorem span_append {p : Char → Bool} {q : Char → Prop} (hpq : ∀ c, p c = true ↔ q c)
    (hl : ∀ c ∈ l, q c) (hrest : Stops q rest) :
    (l ++ rest).takeWhile p = l ∧ (l ++ rest).dropWhile p = rest := by
  have hin : ∀ c ∈ l, p c = true := by
    intro c hc
    exact (hpq c).2 (hl c hc)
  rw [List.takeWhile_append_of_pos hin, List.dropWhile_append_of_pos hin]
  cases rest with
  | nil => simp
  | cons c tail =>
      have hout : ¬ p c = true := fun hc => stops_cons_iff.1 hrest ((hpq c).1 hc)
      simp [hout]

theorem word_append (hl : ∀ c ∈ l, WordChar c) (hrest : Stops WordChar rest) :
    word (l ++ rest) = verbatim (wordKind (String.ofList l)) l := by
  simp only [word, wordRun, (span_append continues_inIdentifier_iff hl hrest).1]

theorem digitRun_append (hds : Digits ds) (hrest : Stops Digit rest) :
    digitRun (ds ++ rest) = ds :=
  (span_append continues_inNumber_iff hds hrest).1

theorem afterDigits_append (hds : Digits ds) (hrest : Stops Digit rest) :
    afterDigits (ds ++ rest) = rest :=
  (span_append continues_inNumber_iff hds hrest).2

theorem ne_point_of_stops (h : Stops NumberChar rest) (tail : List Char) : rest ≠ '.' :: tail := by
  rintro rfl
  exact stops_cons_iff.1 h (.inr rfl)

theorem number_integer (hds : Digits ds) (hrest : Stops NumberChar rest) :
    number (ds ++ rest) = .ok (verbatim .integerLiteral ds) := by
  have hstops := stops_digit_of_numberChar hrest
  rw [number, afterDigits_append hds hstops, digitRun_append hds hstops]
  split
  · exact absurd rfl (ne_point_of_stops hrest _)
  · rfl

theorem number_decimal (hds : Digits ds) (hes : Digits es) (hrest : Stops NumberChar rest) :
    number (ds ++ '.' :: (es ++ rest)) = .ok (verbatim .floatLiteral (ds ++ '.' :: es)) := by
  have hstops := stops_digit_of_numberChar hrest
  rw [number, afterDigits_append hds stops_digit_point, digitRun_append hds stops_digit_point]
  simp only [afterDigits_append hes hstops, digitRun_append hes hstops]
  split
  · exact absurd rfl (ne_point_of_stops hrest _)
  · rfl

theorem number_secondPoint (hds : Digits ds) (hes : Digits es) :
    number (ds ++ '.' :: (es ++ '.' :: rest)) =
      .error (.malformedNumber (String.ofList (ds ++ '.' :: es ++ ['.']))) := by
  rw [number, afterDigits_append hds stops_digit_point, digitRun_append hds stops_digit_point]
  simp only [afterDigits_append hes stops_digit_point, digitRun_append hes stops_digit_point]

theorem colour_short (h : tail.length < 6) : colour tail = .error .tooShort := by
  have hshort : (tail.take colourDigits).length < colourDigits := by
    rw [List.length_take, colourDigits]
    omega
  simp only [colour, if_pos hshort]

theorem take_colourDigits (hlength : ds.length = 6) : (ds ++ rest).take colourDigits = ds :=
  List.take_left' hlength

theorem colour_digits (hlength : ds.length = 6) (hhex : ∀ d ∈ ds, HexDigit d) :
    colour (ds ++ rest) = .ok (verbatim .colourLiteral ('#' :: ds)) := by
  have hlong : ¬ ds.length < colourDigits := by simp [hlength, colourDigits]
  have hall : ds.all isHexDigit = true := by simpa [isHexDigit_iff] using hhex
  simp only [colour, take_colourDigits hlength, if_neg hlong, if_pos hall]

theorem colour_nonHex (hlength : ds.length = 6) (hhex : ∃ d ∈ ds, ¬ HexDigit d) :
    colour (ds ++ rest) = .error .nonHexDigit := by
  have hlong : ¬ ds.length < colourDigits := by simp [hlength, colourDigits]
  have hall : ¬ ds.all isHexDigit = true := by simpa [← isHexDigit_iff] using hhex
  simp only [colour, take_colourDigits hlength, if_neg hlong, if_neg hall]

theorem stringBody_plain (hquote : c ≠ '"') (hbackslash : c ≠ '\\') :
    stringBody (c :: tail) =
      (stringBody tail).map fun b => ⟨c :: b.content, c :: b.written⟩ := by
  rw [stringBody.eq_def]
  split <;> simp_all

theorem stringBody_escape {d : Char} (hd : unescape? c = some d) :
    stringBody ('\\' :: c :: tail) =
      (stringBody tail).map fun b => ⟨d :: b.content, '\\' :: c :: b.written⟩ := by
  simp only [stringBody, hd]

/-- What is spelled so far goes in front of whatever the rest of the string is. -/
theorem stringBody_append (h : Spells u v) (rest : List Char) :
    stringBody (u ++ rest) = (stringBody rest).map fun b => ⟨v ++ b.content, u ++ b.written⟩ := by
  induction h with
  | nil =>
      rw [List.nil_append]
      cases stringBody rest <;> rfl
  | plain hquote hbackslash h ih =>
      rw [List.cons_append, stringBody_plain hquote hbackslash, ih]
      cases stringBody rest <;> rfl
  | escape hd h ih =>
      rw [List.cons_append, List.cons_append, stringBody_escape (mem_escapes_iff.1 hd), ih]
      cases stringBody rest <;> rfl

theorem string_closed (h : Spells u v) :
    string (u ++ '"' :: rest) =
      .ok ⟨⟨.stringLiteral, String.ofList v⟩, '"' :: (u ++ ['"'])⟩ := by
  rw [string, stringBody_append h, stringBody]
  simp [Except.map]

theorem string_refused {fault : Fault} (h : Spells u v) (hrest : stringBody rest = .error fault) :
    string (u ++ rest) = .error fault := by
  rw [string, stringBody_append h, hrest]
  rfl

theorem string_badEscape (h : Spells u v) (hc : unescape? c = none) :
    string (u ++ '\\' :: c :: rest) = .error (.invalidEscape c) :=
  string_refused h (by simp only [stringBody, hc])

theorem string_unclosed (h : Spells u v) : string u = .error .unterminatedString := by
  have hend : stringBody [] = .error .unterminatedString := rfl
  simpa using string_refused h hend

theorem string_backslash (h : Spells u v) :
    string (u ++ ['\\']) = .error .unterminatedString :=
  string_refused h rfl

theorem leading_of_reads {t : Token} (h : Reads (c :: l) rest t) :
    leading c (l ++ rest) = .ok ⟨t, c :: l⟩ := by
  cases h with
  | word hword hrest =>
      have hc : WordStart c := (word_cons_iff.1 hword).1
      rw [leading, classify_of_ofClass (k := .alpha) hc]
      simp only [← List.cons_append, word_append hword.all_wordChar hrest]
      rfl
  | integer hinteger hrest =>
      have hc : Digit c := hinteger.2 c (by simp)
      rw [leading_digit hc]
      exact number_integer hinteger.2 hrest
  | decimal hdecimal hrest =>
      obtain ⟨d, ds, es, heq, hd, hds, hes⟩ := exists_cons_of_decimal hdecimal
      obtain ⟨rfl, rfl⟩ := List.cons.inj heq
      rw [leading_digit hd]
      simpa only [verbatim, List.cons_append, List.append_eq, List.append_assoc] using
        number_decimal hds hes hrest
  | colour hcolour =>
      obtain ⟨ds, heq, hlength, hhex⟩ := hcolour
      obtain ⟨rfl, rfl⟩ := List.cons.inj heq
      rw [leading, classify_of_ofClass (k := .hash) rfl]
      simp only [colour_digits hlength hhex]
      rfl
  | string hu =>
      rw [leading_quote]
      simpa using string_closed hu
  | operator hc =>
      rw [leading, classify_of_ofClass (k := .operator) hc]
      rfl
  | delimiter hc =>
      rw [leading, classify_of_ofClass (k := .delimiter) hc]
      rfl

theorem leading_of_spoils {fault : Fault} (h : Spoils (c :: tail) fault) :
    leading c tail = .error fault := by
  generalize htext : c :: tail = text at h
  cases h with
  | unexpected hc =>
      cases htext
      rw [leading, classify_of_ofClass (k := .invalid) hc]
  | number hdecimal =>
      obtain ⟨d, ds, es, rfl, hd, hds, hes⟩ := exists_cons_of_decimal hdecimal
      obtain ⟨rfl, rfl⟩ := List.cons.inj htext
      rw [leading_digit hd]
      simpa only [List.cons_append, List.append_eq, List.append_assoc] using
        number_secondPoint hds hes
  | short hlength =>
      cases htext
      rw [leading, classify_of_ofClass (k := .hash) rfl]
      simp only [colour_short hlength]
  | nonHex hlength hhex =>
      cases htext
      rw [leading, classify_of_ofClass (k := .hash) rfl]
      simp only [colour_nonHex hlength hhex, take_colourDigits hlength]
  | escape hu hn ht hbackslash =>
      cases htext
      rw [leading_quote]
      exact string_badEscape hu (unescape?_eq_none_iff.2 ⟨hn, ht, hbackslash⟩)
  | unclosed hu =>
      cases htext
      rw [leading_quote]
      exact string_unclosed hu
  | backslash hu =>
      cases htext
      rw [leading_quote]
      exact string_backslash hu

end PixelScan.Lexeme
