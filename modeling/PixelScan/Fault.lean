import PixelScan.Text.Quoted

namespace PixelScan

inductive ColourDefect
  | tooShort | nonHexDigit
deriving DecidableEq, Repr

def ColourDefect.describe : ColourDefect → String
  | tooShort => "too short"
  | nonHexDigit => "non-hex digit"

inductive Fault
  | unexpectedCharacter (character : Char)
  | malformedNumber (text : String)
  | malformedColour (defect : ColourDefect) (text : String)
  | malformedBoolean (text : String)
  | invalidEscape (character : Char)
  | unterminatedString
deriving DecidableEq, Repr

namespace Fault

def name : Fault → String
  | unexpectedCharacter _ => "UnexpectedCharacter"
  | malformedNumber _ => "MalformedNumber"
  | malformedColour _ _ => "MalformedColour"
  | malformedBoolean _ => "MalformedBoolean"
  | invalidEscape _ => "InvalidEscape"
  | unterminatedString => "UnterminatedString"

/-- The fault in words. Payloads are quoted, except the character after a backslash. -/
def cause : Fault → String
  | unexpectedCharacter c => "unexpected character: " ++ quoteChar c
  | malformedNumber text =>
      "invalid number format (multiple decimal points): " ++ quoteString text
  | malformedColour defect text =>
      "invalid colour format (" ++ defect.describe ++ "): " ++ quoteString text
  | malformedBoolean text => "invalid boolean literal: " ++ quoteString text
  | invalidEscape c => "invalid escape sequence: \\" ++ String.singleton c
  | unterminatedString => "unterminated string literal"

/-- Advice on mending the fault. Payloads stand in it as they are. -/
def tip : Fault → Option String
  | unexpectedCharacter _ => none
  | malformedNumber text =>
      some ("Invalid number: `" ++ text ++ "`, a number may contain at most one decimal point")
  | malformedColour .tooShort text =>
      some ("Invalid colour: `" ++ text ++ "`, expected `#` followed by 6 hex digits")
  | malformedColour .nonHexDigit text =>
      some ("Invalid colour: `" ++ text ++ "`, only 0-9, a-f and A-F are hex digits")
  | malformedBoolean text =>
      some ("Invalid boolean: `" ++ text ++ "`, expected `true` or `false`")
  | invalidEscape c =>
      some ("Unknown escape `\\" ++ String.singleton c ++ "`, try escaping the `\\` with `\\\\`")
  | unterminatedString => some "Missing closing `\"`"

end Fault

end PixelScan
