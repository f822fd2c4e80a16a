import PixelScan.Scanner.Basic

namespace PixelScan.Scanner

def word (s : Scanner) : Option Reply :=
  s.remainder?.map fun rest => s.accepted (Lexeme.word rest)

def boolean (s : Scanner) : Option Reply :=
  s.remainder?.map fun rest => s.settle (Lexeme.boolean rest)

def number (s : Scanner) : Option Reply :=
  s.remainder?.map fun rest => s.settle (Lexeme.number rest)

/-- Takes the byte under the cursor for the mark without a look at it. A colour that is cut short is
reported with all that is left of the source. -/
def colour (s : Scanner) : Option Reply :=
  s.tail?.bind fun tail =>
    match Lexeme.colour tail with
    | .ok l => some (s.accepted l)
    | .error .tooShort =>
        s.remainder?.map fun rest => s.refused (.malformedColour .tooShort (String.ofList rest))
    | .error .nonHexDigit =>
        let text := '#' :: tail.take Lexeme.colourDigits
        some (s.refused (.malformedColour .nonHexDigit (String.ofList text)))

/-- Takes the byte under the cursor for the opening quote without a look at it. -/
def string (s : Scanner) : Option Reply :=
  s.tail?.map fun tail => s.settle (Lexeme.string tail)

def operator (s : Scanner) (c : Char) : Option Reply :=
  if s.peek? = some (some c) then
    let noted := if c = '=' then s.record (.assign s.pos) else s
    some (noted.accepted (Lexeme.operator c))
  else none

def delimiter (s : Scanner) (c : Char) : Option Reply :=
  if s.peek? = some (some c) then some (s.accepted (Lexeme.delimiter c)) else none

def extract (s : Scanner) : Option Reply :=
  match s.state with
  | .start => some ⟨s, none⟩
  | .inIdentifier => s.word
  | .inNumber => s.number
  | .inColour => s.colour
  | .inBoolean => s.boolean
  | .inAssignOrOperator =>
      s.peek?.bind fun
        | some c => s.operator c
        | none => some ⟨{ s with state := .start }, none⟩
  | .inString => s.string

end PixelScan.Scanner
