import PixelScan.Unicode.DefaultIgnorable
import PixelScan.Unicode.GraphemeExtend
import PixelScan.Unicode.Unprintable

namespace PixelScan

/-- The marks that extend a grapheme as others do but take up a cell of their own. -/
def isHalfwidthSoundMark (c : Char) : Bool := c == '\uff9e' || c == '\uff9f'

def showsAlone (c : Char) : Bool :=
  !isUnprintable c && !isDefaultIgnorable c && (!isGraphemeExtend c || isHalfwidthSoundMark c)

def escape (delimiter c : Char) : List Char :=
  match c with
  | '\x00' => ['\\', '0']
  | '\t' => ['\\', 't']
  | '\r' => ['\\', 'r']
  | '\n' => ['\\', 'n']
  | '\\' => ['\\', '\\']
  | c =>
    if c = delimiter then ['\\', c]
    else if showsAlone c then [c]
    else ['\\', 'u', '{'] ++ Nat.toDigits 16 c.toNat ++ ['}']

def quote (delimiter : Char) (cs : List Char) : List Char :=
  delimiter :: cs.flatMap (escape delimiter) ++ [delimiter]

def quoteChar (c : Char) : String := String.ofList (quote '\'' [c])

def quoteString (s : String) : String := String.ofList (quote '"' s.toList)

end PixelScan
