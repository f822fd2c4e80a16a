import PixelScan.Scanner.Command

namespace PixelScan

/-- The most bytes that a text in memory can take up, which is `2 ^ 63 - 1`. -/
def maxBytes : Nat := 9223372036854775807

/-! The requests once more, byte by byte and in the arithmetic of a 64-bit machine. Every sum has to
fit, every slice has to begin and end between two characters, and what is asserted has to hold, or
else there is no reply. -/

namespace Checked

def add? (m n : Nat) : Option Nat := if m + n < UInt64.size then some (m + n) else none

def sub? (m n : Nat) : Option Nat := if n ≤ m then some (m - n) else none

def assert? (p : Prop) [Decidable p] : Option Unit := if p then some () else none

def slice? (cs : List Char) (first last : Nat) : Option (List Char) := do
  let after ← dropBytes? first cs
  let rest ← dropBytes? last cs
  assert? (first ≤ last)
  return after.take (after.length - rest.length)

def width? (cs : List Char) : Option Nat := cs.foldlM (fun n c => add? n c.utf8Size) 0

def emit (s : Scanner) (t : Token) : Scanner :=
  { (s.record (.emit t s.pos)).push t with state := .start }

def accept? (s : Scanner) (width : Nat) (t : Token) : Option Reply := do
  let moved ← s.advance? width
  return ⟨emit moved t, none⟩

def wordAt? (s : Scanner) : Option (Nat × List Char) := do
  let rest ← s.remainder?
  let width ← width? (Lexeme.wordRun rest)
  let last ← add? s.pos width
  let value ← slice? s.source s.pos last
  return (width, value)

def word (s : Scanner) : Option Reply := do
  let (width, value) ← wordAt? s
  accept? s width ⟨wordKind (String.ofList value), String.ofList value⟩

def boolean (s : Scanner) : Option Reply := do
  let (width, value) ← wordAt? s
  if String.ofList value ∈ booleanWords then
    accept? s width ⟨.booleanLiteral, String.ofList value⟩
  else
    return s.refused (.malformedBoolean (String.ofList value))

/-- Where a number ends that begins at the first byte and was read up to the last, and whether there
is a point in it. -/
def numberEnd? (source : List Char) (first : Nat) :
    List Char → Nat → Bool → Option (Except Fault (Nat × Bool))
  | [], last, point => some (.ok (last, point))
  | c :: tail, last, point =>
    if c = '.' then
      if point then do
        let stop ← add? last 1
        let text ← slice? source first stop
        return .error (.malformedNumber (String.ofList text))
      else do
        let next ← add? last c.utf8Size
        numberEnd? source first tail next true
    else if ScanState.inNumber.continues c then do
      let next ← add? last c.utf8Size
      numberEnd? source first tail next point
    else some (.ok (last, point))

def number (s : Scanner) : Option Reply := do
  let rest ← dropBytes? s.pos s.source
  match ← numberEnd? s.source s.pos rest s.pos false with
  | .error fault => return s.refused fault
  | .ok (last, point) =>
    let value ← slice? s.source s.pos last
    let width ← sub? last s.pos
    let kind := if point then TokenKind.floatLiteral else .integerLiteral
    accept? s width ⟨kind, String.ofList value⟩

def colour (s : Scanner) : Option Reply := do
  let first ← add? s.pos 1
  let tail ← dropBytes? first s.source
  let digits := tail.take Lexeme.colourDigits
  if digits.length < Lexeme.colourDigits then
    let text ← dropBytes? s.pos s.source
    return s.refused (.malformedColour .tooShort (String.ofList text))
  else
    let value := '#' :: digits
    if digits.all Lexeme.isHexDigit then
      accept? s (byteLength value) ⟨.colourLiteral, String.ofList value⟩
    else
      return s.refused (.malformedColour .nonHexDigit (String.ofList value))

/-- Where a string ends whose text begins at the first byte and was read up to the offset from
there, and what it means; there is no end if the quote is missing. -/
def stringEnd? (first : Nat) :
    List Char → Nat → List Char → Option (Except Fault (Option Nat × List Char))
  | [], _, content => some (.ok (none, content))
  | '"' :: _, offset, content => do
      let quote ← add? first offset
      let last ← add? quote 1
      return .ok (some last, content)
  | ['\\'], _, content => some (.ok (none, content))
  | '\\' :: c :: tail, offset, content => do
      let escaped ← add? offset 1
      match Lexeme.unescape? c with
      | some d =>
        let next ← add? escaped c.utf8Size
        stringEnd? first tail next (content ++ [d])
      | none => return .error (.invalidEscape c)
  | c :: tail, offset, content => do
      let next ← add? offset c.utf8Size
      stringEnd? first tail next (content ++ [c])

def string (s : Scanner) : Option Reply := do
  let first ← add? s.pos 1
  let tail ← dropBytes? first s.source
  match ← stringEnd? first tail 0 [] with
  | .error fault => return s.refused fault
  | .ok (none, _) => return s.refused .unterminatedString
  | .ok (some last, content) =>
    let width ← sub? last s.pos
    accept? s width ⟨.stringLiteral, String.ofList content⟩

def expect? (s : Scanner) (c : Char) : Option Unit := do
  let found ← s.peek?
  assert? (found = some c)

def operator (s : Scanner) (c : Char) : Option Reply := do
  expect? s c
  let noted := if c = '=' then s.record (.assign s.pos) else s
  accept? noted c.utf8Size ⟨.operator, String.ofList [c]⟩

def delimiter (s : Scanner) (c : Char) : Option Reply := do
  expect? s c
  accept? s c.utf8Size ⟨.delimiter, String.ofList [c]⟩

def extract (s : Scanner) : Option Reply :=
  match s.state with
  | .start => some ⟨s, none⟩
  | .inIdentifier => word s
  | .inNumber => number s
  | .inColour => colour s
  | .inBoolean => boolean s
  | .inAssignOrOperator => do
      match ← s.peek? with
      | some c => operator s c
      | none => return ⟨{ s with state := .start }, none⟩
  | .inString => string s

def step (s : Scanner) : Option Reply := do
  assert? (s.state = .start)
  match ← s.peek? with
  | none => return ⟨s, none⟩
  | some c =>
    match s.state.next (classify c), classify c with
    | none, _ => return s.refused (.unexpectedCharacter c)
    | some .start, .whitespace =>
        let moved ← s.advance? c.utf8Size
        return ⟨moved, none⟩
    | some .start, .delimiter => delimiter s c
    | some .inAssignOrOperator, _ => operator (s.enter .inAssignOrOperator) c
    | some target, _ => extract (s.enter target)

def perform (s : Scanner) : Command → Option Reply
  | .step => step s
  | .extract => extract s
  | .enter state => some ⟨s.enter state, none⟩
  | .advance n => do
      let moved ← s.advance? n
      return ⟨moved, none⟩
  | .push token => some ⟨s.push token, none⟩
  | .word => word s
  | .boolean => boolean s
  | .number => number s
  | .colour => colour s
  | .string => string s
  | .operator c => operator s c
  | .delimiter c => delimiter s c

end Checked

end PixelScan
