import PixelScan.Proofs.Alphabet

namespace PixelScan.Grammar

open Alphabet

def Blanks (w : List Char) : Prop := ∀ c ∈ w, c ∈ blanks

def Digits (ds : List Char) : Prop := ∀ d ∈ ds, Digit d

def Word (l : List Char) : Prop :=
  ∃ c cs, l = c :: cs ∧ WordStart c ∧ ∀ d ∈ cs, WordChar d

def Integer (l : List Char) : Prop := l ≠ [] ∧ Digits l

def Decimal (l : List Char) : Prop :=
  ∃ ds es, l = ds ++ '.' :: es ∧ Integer ds ∧ Digits es

def Colour (l : List Char) : Prop :=
  ∃ ds, l = '#' :: ds ∧ ds.length = 6 ∧ ∀ d ∈ ds, HexDigit d

def Stops (p : Char → Prop) (rest : List Char) : Prop := ∀ c, rest.head? = some c → ¬ p c

def escapes : List (Char × Char) := [('n', '\n'), ('t', '\t'), ('\\', '\\')]

/-- The text between two quotes, with what it means. -/
inductive Spells : List Char → List Char → Prop
  | nil : Spells [] []
  | plain {c u v} : c ≠ '"' → c ≠ '\\' → Spells u v → Spells (c :: u) (c :: v)
  | escape {c d u v} : (c, d) ∈ escapes → Spells u v → Spells ('\\' :: c :: u) (d :: v)

/-- The lexeme of a token, in front of what follows it. Words and numbers are as long as they can
be; of the others no character of what follows could be a part. -/
inductive Reads : List Char → List Char → Token → Prop
  | word {l rest} : Word l → Stops WordChar rest →
      Reads l rest ⟨(reservedKind? (String.ofList l)).getD .identifier, String.ofList l⟩
  | integer {l rest} : Integer l → Stops NumberChar rest →
      Reads l rest ⟨.integerLiteral, String.ofList l⟩
  | decimal {l rest} : Decimal l → Stops NumberChar rest →
      Reads l rest ⟨.floatLiteral, String.ofList l⟩
  | colour {l rest} : Colour l → Reads l rest ⟨.colourLiteral, String.ofList l⟩
  | string {u v rest} : Spells u v →
      Reads ('"' :: (u ++ ['"'])) rest ⟨.stringLiteral, String.ofList v⟩
  | operator {c rest} : c ∈ operatorChars → Reads [c] rest ⟨.operator, String.ofList [c]⟩
  | delimiter {c rest} : c ∈ delimiterChars → Reads [c] rest ⟨.delimiter, String.ofList [c]⟩

/-- Blanks and lexemes in turn, in front of what follows them. -/
inductive Splits : List Char → List Char → List Token → Prop
  | done {w rest} : Blanks w → Splits w rest []
  | cons {w l s rest t ts} : Blanks w → Reads l (s ++ rest) t → Splits s rest ts →
      Splits (w ++ (l ++ s)) rest (t :: ts)

/-- A text that begins with neither a blank nor a lexeme, with what is wrong with it. -/
inductive Spoils : List Char → Fault → Prop
  | unexpected {c rest} : OfClass .invalid c → Spoils (c :: rest) (.unexpectedCharacter c)
  | number {l rest} : Decimal l →
      Spoils (l ++ '.' :: rest) (.malformedNumber (String.ofList (l ++ ['.'])))
  | short {ds} : ds.length < 6 →
      Spoils ('#' :: ds) (.malformedColour .tooShort (String.ofList ('#' :: ds)))
  | nonHex {ds rest} : ds.length = 6 → (∃ d ∈ ds, ¬ HexDigit d) →
      Spoils ('#' :: (ds ++ rest)) (.malformedColour .nonHexDigit (String.ofList ('#' :: ds)))
  | escape {u v c rest} : Spells u v → c ≠ 'n' → c ≠ 't' → c ≠ '\\' →
      Spoils ('"' :: (u ++ '\\' :: c :: rest)) (.invalidEscape c)
  | unclosed {u v} : Spells u v → Spoils ('"' :: u) .unterminatedString
  | backslash {u v} : Spells u v → Spoils ('"' :: (u ++ ['\\'])) .unterminatedString

variable {l s rest : List Char} {t : Token} {ts : List Token}

theorem mem_escapes_iff {c d : Char} : (c, d) ∈ escapes ↔ Lexeme.unescape? c = some d := by
  rw [Lexeme.unescape?.eq_def]
  split <;> simp_all [escapes, eq_comm]

theorem unescape?_eq_none_iff {c : Char} :
    Lexeme.unescape? c = none ↔ c ≠ 'n' ∧ c ≠ 't' ∧ c ≠ '\\' := by
  rw [Lexeme.unescape?.eq_def]
  split <;> simp_all

theorem Stops.nil (p : Char → Prop) : Stops p [] := by simp [Stops]

theorem stops_cons_iff {p : Char → Prop} {c : Char} : Stops p (c :: rest) ↔ ¬ p c := by
  simp [Stops]

theorem stops_digit_point : Stops Digit ('.' :: rest) := stops_cons_iff.2 (by decide)

theorem stops_digit_of_numberChar (h : Stops NumberChar rest) : Stops Digit rest := by
  intro c hc hdigit
  exact h c hc (.inl hdigit)

theorem blanks_nil : Blanks [] := by simp [Blanks]

theorem blanks_cons_iff {c : Char} {w : List Char} :
    Blanks (c :: w) ↔ c ∈ blanks ∧ Blanks w := by
  simp [Blanks]

theorem word_cons_iff {c : Char} {cs : List Char} :
    Word (c :: cs) ↔ WordStart c ∧ ∀ d ∈ cs, WordChar d := by
  constructor
  · rintro ⟨d, ds, heq, h⟩
    cases heq
    exact h
  · intro h
    exact ⟨c, cs, rfl, h⟩

instance : DecidablePred Word
  | [] => isFalse (by simp [Word])
  | c :: cs =>
      decidable_of_iff (WordStart c ∧ cs.all (fun d => decide (WordChar d)) = true)
        (by simp [word_cons_iff])

theorem Word.all_wordChar (h : Word l) : ∀ c ∈ l, WordChar c := by
  obtain ⟨c, cs, rfl, hc, hcs⟩ := h
  simpa using ⟨.inl hc, hcs⟩

theorem mem_of_reservedKind? {word : String} {kind : TokenKind}
    (h : reservedKind? word = some kind) : (word, kind) ∈ reservedWords := by
  obtain ⟨before, after, hwords, -⟩ := List.lookup_eq_some_iff.1 h
  rw [hwords]
  simp

theorem word_of_mem_reservedWords : ∀ r ∈ reservedWords, Word r.1.toList := by decide

theorem kind_of_mem_reservedWords :
    ∀ r ∈ reservedWords, r.2 = .keyword ∨ r.2 = .booleanLiteral := by decide

theorem numberChar_of_point {ds es : List Char} (hds : Digits ds) (hes : Digits es) :
    ∀ c ∈ ds ++ '.' :: es, NumberChar c := by
  intro c hc
  rcases List.mem_append.1 hc with hd | hc
  · exact .inl (hds c hd)
  · exact (List.mem_cons.1 hc).elim .inr fun he => .inl (hes c he)

theorem exists_cons_of_decimal (h : Decimal l) :
    ∃ d ds es, l = d :: ds ++ '.' :: es ∧ Digit d ∧ Digits (d :: ds) ∧ Digits es := by
  obtain ⟨ds, es, rfl, ⟨hne, hds⟩, hes⟩ := h
  obtain ⟨d, ds, rfl⟩ := List.exists_cons_of_ne_nil hne
  exact ⟨d, ds, es, rfl, hds d (by simp), hds, hes⟩

theorem Reads.ne_nil (h : Reads l rest t) : l ≠ [] := by
  cases h with
  | word h => obtain ⟨c, cs, rfl, -, -⟩ := h; simp
  | integer h => exact h.1
  | decimal h => obtain ⟨ds, es, rfl, -, -⟩ := h; simp
  | colour h => obtain ⟨ds, rfl, -, -⟩ := h; simp
  | string | operator | delimiter => simp

theorem Reads.quoted_or_no_blanks (h : Reads l rest t) :
    (∃ u, l = '"' :: (u ++ ['"'])) ∨ ∀ c ∈ l, c ∉ blanks := by
  by_cases hquoted : ∃ u, l = '"' :: (u ++ ['"'])
  · exact .inl hquoted
  · refine .inr ?_
    intro c hc hblank
    obtain ⟨hword, hnumber, hhex, hmark⟩ := not_lexical_of_mem_blanks c hblank
    cases h with
    | string => exact hquoted ⟨_, rfl⟩
    | word h => exact hword (h.all_wordChar c hc)
    | integer h => exact hnumber (.inl (h.2 c hc))
    | decimal h =>
        obtain ⟨ds, es, rfl, hds, hes⟩ := h
        exact hnumber (numberChar_of_point hds.2 hes c hc)
    | colour h =>
        obtain ⟨ds, rfl, -, hds⟩ := h
        rcases List.mem_cons.1 hc with rfl | hd
        · exact hmark (by simp)
        · exact hhex (hds c hd)
    | operator hop =>
        obtain rfl := List.mem_singleton.1 hc
        exact hmark (by simp [hop])
    | delimiter hdel =>
        obtain rfl := List.mem_singleton.1 hc
        exact hmark (by simp [hdel])

theorem Reads.head_not_blank {c : Char} (h : Reads (c :: l) rest t) : c ∉ blanks := by
  rcases h.quoted_or_no_blanks with ⟨u, heq⟩ | hall
  · cases heq
    decide
  · exact hall c (by simp)

theorem Reads.last_not_blank {c : Char} (h : Reads l rest t) (hc : l.getLast? = some c) :
    c ∉ blanks := by
  rcases h.quoted_or_no_blanks with ⟨u, rfl⟩ | hall
  · obtain rfl : '"' = c := by simpa [List.getLast?_cons] using hc
    decide
  · exact hall c (List.mem_of_getLast? hc)

theorem Spoils.exists_cons {text : List Char} {fault : Fault} (h : Spoils text fault) :
    ∃ c tail, text = c :: tail ∧ c ∉ blanks := by
  cases h with
  | unexpected hc => exact ⟨_, _, rfl, hc.1⟩
  | number hdecimal =>
      obtain ⟨d, ds, es, rfl, hd, -⟩ := exists_cons_of_decimal hdecimal
      exact ⟨d, _, rfl, WordChar.not_blank (.inr hd)⟩
  | short | nonHex => exact ⟨'#', _, rfl, by decide⟩
  | escape | unclosed | backslash => exact ⟨'"', _, rfl, by decide⟩

theorem Spoils.head_not_blank {c : Char} {tail : List Char} {fault : Fault}
    (h : Spoils (c :: tail) fault) : c ∉ blanks := by
  obtain ⟨d, ds, heq, hd⟩ := h.exists_cons
  cases heq
  exact hd

theorem classify_of_spoils {c : Char} {tail : List Char} {fault : Fault}
    (h : Spoils (c :: tail) fault) :
    (classify c = .invalid ∧ fault = .unexpectedCharacter c) ∨
      (classify c ∈ [.digit, .hash, .quote] ∧ ∀ d, fault ≠ .unexpectedCharacter d) := by
  generalize htext : c :: tail = text at h
  cases h with
  | unexpected hc =>
      cases htext
      exact .inl ⟨classify_of_ofClass (k := .invalid) hc, rfl⟩
  | number hdecimal =>
      obtain ⟨d, ds, es, rfl, hd, -⟩ := exists_cons_of_decimal hdecimal
      obtain ⟨rfl, -⟩ := List.cons.inj htext
      exact .inr ⟨by simp [classify_of_ofClass (k := .digit) hd], nofun⟩
  | short | nonHex | escape | unclosed | backslash =>
      obtain ⟨rfl, -⟩ := List.cons.inj htext
      exact .inr ⟨by decide, nofun⟩

theorem Splits.blank {c : Char} (hc : c ∈ blanks) (h : Splits s rest ts) :
    Splits (c :: s) rest ts := by
  cases h with
  | done hw => exact .done (blanks_cons_iff.2 ⟨hc, hw⟩)
  | cons hw hl hs => exact .cons (blanks_cons_iff.2 ⟨hc, hw⟩) hl hs

theorem Splits.lexeme (hl : Reads l (s ++ rest) t) (h : Splits s rest ts) :
    Splits (l ++ s) rest (t :: ts) :=
  .cons blanks_nil hl h

end PixelScan.Grammar
