import PixelScan.Lexeme

namespace PixelScan.Alphabet

def blanks : List Char := [' ', '\t', '\n', '\x0b', '\x0c', '\r']

def Digit (c : Char) : Prop := '0' ≤ c ∧ c ≤ '9'

def Letter (c : Char) : Prop := ('A' ≤ c ∧ c ≤ 'Z') ∨ ('a' ≤ c ∧ c ≤ 'z')

def HexDigit (c : Char) : Prop := Digit c ∨ ('A' ≤ c ∧ c ≤ 'F') ∨ ('a' ≤ c ∧ c ≤ 'f')

def WordStart (c : Char) : Prop := Letter c ∨ c = '_'

def WordChar (c : Char) : Prop := WordStart c ∨ Digit c

def NumberChar (c : Char) : Prop := Digit c ∨ c = '.'

instance : DecidablePred Digit := fun _ => inferInstanceAs (Decidable (_ ∧ _))

instance : DecidablePred Letter := fun _ => inferInstanceAs (Decidable (_ ∨ _))

instance : DecidablePred HexDigit := fun _ => inferInstanceAs (Decidable (_ ∨ _))

instance : DecidablePred WordStart := fun _ => inferInstanceAs (Decidable (_ ∨ _))

instance : DecidablePred WordChar := fun _ => inferInstanceAs (Decidable (_ ∨ _))

instance : DecidablePred NumberChar := fun _ => inferInstanceAs (Decidable (_ ∨ _))

/-- The classes as sets of characters, each given without the order in which a scan checks them. -/
def OfClass : CharClass → Char → Prop
  | .whitespace, c => c ∈ blanks
  | .alpha, c => WordStart c
  | .digit, c => Digit c
  | .hash, c => c = '#'
  | .quote, c => c = '"'
  | .operator, c => c ∈ operatorChars
  | .delimiter, c => c ∈ delimiterChars
  | .invalid, c => c ∉ blanks ∧ ¬ WordStart c ∧ ¬ Digit c ∧ c ≠ '#' ∧ c ≠ '"' ∧
      c ∉ operatorChars ∧ c ∉ delimiterChars

theorem isBlank_iff (c : Char) : isBlank c = true ↔ c ∈ blanks := by
  simp [isBlank, blanks, or_assoc]

theorem isDigit_iff (c : Char) : c.isDigit = true ↔ Digit c := by
  simp [Char.isDigit, Digit, Char.le_def, UInt32.le_iff_toNat_le]

theorem isAlpha_iff (c : Char) : c.isAlpha = true ↔ Letter c := by
  have hupper : c.isUpper = true ↔ 'A' ≤ c ∧ c ≤ 'Z' := decide_eq_true_iff
  have hlower : c.isLower = true ↔ 'a' ≤ c ∧ c ≤ 'z' :=
    Bool.and_eq_true_iff.trans (and_congr decide_eq_true_iff decide_eq_true_iff)
  exact Bool.or_eq_true_iff.trans (or_congr hupper hlower)

theorem isHexDigit_iff (c : Char) : Lexeme.isHexDigit c = true ↔ HexDigit c := by
  simp [Lexeme.isHexDigit, HexDigit, isDigit_iff, or_assoc, or_comm]

theorem Digit.not_wordStart {c : Char} (h : Digit c) : ¬ WordStart c := by
  rintro (hletter | rfl)
  · simp only [Digit, Letter, Char.le_def, UInt32.le_iff_toNat_le] at h hletter
    have hbound : '9'.val.toNat < 'A'.val.toNat ∧ 'A'.val.toNat < 'a'.val.toNat := by decide
    omega
  · exact absurd h (by decide)

theorem forall_of_all {p : Char → Prop} [DecidablePred p] {cs : List Char}
    (h : cs.all (fun c => decide (p c)) = true) : ∀ c ∈ cs, p c := by
  simpa using h

theorem not_lexical_of_mem_blanks : ∀ c ∈ blanks, ¬ WordChar c ∧ ¬ NumberChar c ∧ ¬ HexDigit c ∧
    c ∉ ['#', '"'] ++ operatorChars ++ delimiterChars :=
  forall_of_all (by decide)

theorem WordChar.not_blank {c : Char} (h : WordChar c) : c ∉ blanks := by
  intro hblank
  exact (not_lexical_of_mem_blanks c hblank).1 h

theorem classify_of_mem_blanks : ∀ c ∈ blanks, classify c = .whitespace :=
  forall_of_all (by decide)

theorem classify_of_mem_operatorChars : ∀ c ∈ operatorChars, classify c = .operator :=
  forall_of_all (by decide)

theorem classify_of_mem_delimiterChars : ∀ c ∈ delimiterChars, classify c = .delimiter :=
  forall_of_all (by decide)

theorem ofClass_classify (c : Char) : OfClass (classify c) c := by
  have hblank := isBlank_iff c
  have halpha := isAlpha_iff c
  have hdigit := isDigit_iff c
  grind [classify, OfClass, WordStart]

/-- No character belongs to two classes, so the order of the checks does not matter. -/
theorem classify_of_ofClass {c : Char} {k : CharClass} (h : OfClass k c) : classify c = k := by
  cases k with
  | whitespace => exact classify_of_mem_blanks c h
  | alpha =>
      have hblank : c ∉ blanks := WordChar.not_blank (.inl h)
      have halpha : c.isAlpha = true ∨ c = '_' := h.imp_left (isAlpha_iff c).2
      simp [classify, isBlank_iff, hblank, halpha]
  | digit =>
      have hblank : c ∉ blanks := WordChar.not_blank (.inr h)
      have halpha : ¬ (c.isAlpha = true ∨ c = '_') := by
        intro halpha
        apply h.not_wordStart
        exact halpha.imp_left (isAlpha_iff c).1
      have hdigit : c.isDigit = true := (isDigit_iff c).2 h
      simp [classify, isBlank_iff, hblank, halpha, hdigit]
  | hash | quote => exact h ▸ rfl
  | operator => exact classify_of_mem_operatorChars c h
  | delimiter => exact classify_of_mem_delimiterChars c h
  | invalid =>
      have hblank := isBlank_iff c
      have halpha := isAlpha_iff c
      have hdigit := isDigit_iff c
      grind [classify, OfClass, WordStart]

theorem classify_eq_iff (c : Char) (k : CharClass) : classify c = k ↔ OfClass k c := by
  constructor
  · rintro rfl
    exact ofClass_classify c
  · exact classify_of_ofClass

theorem continues_inIdentifier_iff (c : Char) :
    ScanState.inIdentifier.continues c = true ↔ WordChar c := by
  rw [ScanState.continues_inIdentifier_iff, classify_eq_iff, classify_eq_iff]
  rfl

theorem continues_inNumber_iff (c : Char) :
    ScanState.inNumber.continues c = true ↔ Digit c := by
  rw [ScanState.continues_inNumber_iff, classify_eq_iff]
  rfl

end PixelScan.Alphabet
