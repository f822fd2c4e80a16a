import PixelScan.LexError
import PixelScan.SourceLine
import PixelScan.Unicode.WhiteSpace

namespace PixelScan

structure Excerpt where
  gutter : String
  text : String
  caret : String
deriving DecidableEq, Repr

namespace SourceLine

/-- The characters of the printed line before the place. The line is printed without its indentation,
so a place inside it, and one inside a character, counts as the first column. -/
def caretColumn (l : SourceLine) : Nat :=
  let indent := byteLength (l.text.takeWhile isWhiteSpace)
  let printed := l.text.dropWhile isWhiteSpace
  if indent ≤ l.column then
    match dropBytes? (l.column - indent) printed with
    | some after => printed.length - after.length
    | none => 0
  else 0

def excerpt (l : SourceLine) : Excerpt :=
  let number := toString l.number
  let gutter := String.ofList (List.replicate (number.length + 1) ' ') ++ "|"
  let dashes := String.ofList (List.replicate l.caretColumn '-')
  { gutter
    text := number ++ " | " ++ String.ofList (trimEnd (trimStart l.text))
    caret := gutter ++ " " ++ dashes ++ "^" }

end SourceLine

namespace LexError

def header (e : LexError) : String :=
  match e.fault.tip with
  | none => "Error: " ++ e.fault.name
  | some tip => "Error: " ++ e.fault.name ++ " (" ++ tip ++ ")"

def render (e : LexError) (source : String) : String :=
  let heading := e.header ++ "\n" ++ "-> " ++ e.position.file ++ "\n"
  match SourceLine.at? source.toList e.position.offset.toNat with
  | none => heading
  | some line =>
    let x := line.excerpt
    heading ++ x.gutter ++ "\n" ++ x.text ++ "\n" ++ x.caret ++ "\n"

end LexError

end PixelScan
