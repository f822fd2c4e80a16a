import PixelScan.Fault
import PixelScan.ScanState
import PixelScan.Text.Bytes
import PixelScan.Token

namespace PixelScan

structure Lexeme where
  token : Token
  spelling : List Char
deriving DecidableEq, Repr

namespace Lexeme

def width (l : Lexeme) : Nat := byteLength l.spelling

def verbatim (kind : TokenKind) (spelling : List Char) : Lexeme :=
  ⟨⟨kind, String.ofList spelling⟩, spelling⟩

/-- Letters, digits and underscores. A digit may stand first: what begins a word is decided before
it is read. -/
def wordRun (rest : List Char) : List Char := rest.takeWhile ScanState.inIdentifier.continues

def word (rest : List Char) : Lexeme :=
  let run := wordRun rest
  verbatim (wordKind (String.ofList run)) run

def boolean (rest : List Char) : Except Fault Lexeme :=
  let run := wordRun rest
  if String.ofList run ∈ booleanWords then .ok (verbatim .booleanLiteral run)
  else .error (.malformedBoolean (String.ofList run))

def digitRun (rest : List Char) : List Char := rest.takeWhile ScanState.inNumber.continues

def afterDigits (rest : List Char) : List Char := rest.dropWhile ScanState.inNumber.continues

/-- Digits, with digits after a point if one follows. A second point spoils the number at once,
whatever comes after it. -/
def number (rest : List Char) : Except Fault Lexeme :=
  match afterDigits rest with
  | '.' :: tail =>
      let spelling := digitRun rest ++ '.' :: digitRun tail
      match afterDigits tail with
      | '.' :: _ => .error (.malformedNumber (String.ofList (spelling ++ ['.'])))
      | _ => .ok (verbatim .floatLiteral spelling)
  | _ => .ok (verbatim .integerLiteral (digitRun rest))

def isHexDigit (c : Char) : Bool :=
  c.isDigit || ('a' ≤ c && c ≤ 'f') || ('A' ≤ c && c ≤ 'F')

def colourDigits : Nat := 6

/-- The six characters after the mark, of which a character too few counts before a wrong one. -/
def colour (tail : List Char) : Except ColourDefect Lexeme :=
  let digits := tail.take colourDigits
  if digits.length < colourDigits then .error .tooShort
  else if digits.all isHexDigit then .ok (verbatim .colourLiteral ('#' :: digits))
  else .error .nonHexDigit

def unescape? : Char → Option Char
  | 'n' => some '\n'
  | 't' => some '\t'
  | '\\' => some '\\'
  | _ => none

structure StringBody where
  content : List Char
  written : List Char
deriving DecidableEq, Repr

/-- Reads up to the closing quote. A bad escape counts even if the quote is missing too, since it
comes first. -/
def stringBody : List Char → Except Fault StringBody
  | [] => .error .unterminatedString
  | '"' :: _ => .ok ⟨[], []⟩
  | ['\\'] => .error .unterminatedString
  | '\\' :: c :: tail =>
      match unescape? c with
      | none => .error (.invalidEscape c)
      | some d => (stringBody tail).map fun b => ⟨d :: b.content, '\\' :: c :: b.written⟩
  | c :: tail => (stringBody tail).map fun b => ⟨c :: b.content, c :: b.written⟩

def string (tail : List Char) : Except Fault Lexeme :=
  (stringBody tail).map fun b =>
    ⟨⟨.stringLiteral, String.ofList b.content⟩, '"' :: b.written ++ ['"']⟩

def operator (c : Char) : Lexeme := verbatim .operator [c]

def delimiter (c : Char) : Lexeme := verbatim .delimiter [c]

theorem width_pos {l : Lexeme} (h : l.spelling ≠ []) : 0 < l.width := byteLength_pos h

theorem word_spelling_ne_nil {c : Char} {tail : List Char} (h : classify c = .alpha) :
    (word (c :: tail)).spelling ≠ [] := by
  have hc := (ScanState.continues_inIdentifier_iff c).2 (.inl h)
  simp [word, verbatim, wordRun, hc]

theorem number_spelling_ne_nil {c : Char} {tail : List Char} {l : Lexeme}
    (h : classify c = .digit) (hl : number (c :: tail) = .ok l) : l.spelling ≠ [] := by
  have hc := (ScanState.continues_inNumber_iff c).2 h
  simp only [number] at hl
  split at hl
  · split at hl
    · cases hl
    · cases hl
      simp [verbatim]
  · cases hl
    simp [verbatim, digitRun, hc]

theorem colour_spelling_ne_nil {tail : List Char} {l : Lexeme} (hl : colour tail = .ok l) :
    l.spelling ≠ [] := by
  simp only [colour] at hl
  split at hl
  · cases hl
  · split at hl
    · cases hl
      simp [verbatim]
    · cases hl

theorem string_spelling_ne_nil {tail : List Char} {l : Lexeme} (hl : string tail = .ok l) :
    l.spelling ≠ [] := by
  simp only [string] at hl
  cases hb : stringBody tail with
  | error e => simp [hb, Except.map] at hl
  | ok b =>
      simp only [hb, Except.map, Except.ok.injEq] at hl
      subst hl
      simp

end Lexeme

end PixelScan
