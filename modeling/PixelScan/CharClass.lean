namespace PixelScan

inductive CharClass
  | whitespace | alpha | digit | hash | operator | delimiter | quote | invalid
deriving DecidableEq, Repr

namespace CharClass

def all : List CharClass :=
  [whitespace, alpha, digit, hash, operator, delimiter, quote, invalid]

theorem mem_all (k : CharClass) : k ∈ all := by cases k <;> decide

end CharClass

def operatorChars : List Char := ['*', '+', '/', '-', '=', '<', '>', '!', ':']

def delimiterChars : List Char := ['{', '}', ',', ';', '(', ')']

def isBlank (c : Char) : Bool :=
  c == ' ' || c == '\t' || c == '\n' || c == '\x0b' || c == '\x0c' || c == '\r'

/-- Every character outside ASCII is invalid: letters and digits of other scripts do not count. -/
def classify (c : Char) : CharClass :=
  if isBlank c then .whitespace
  else if c.isAlpha || c == '_' then .alpha
  else if c.isDigit then .digit
  else if c == '#' then .hash
  else if c == '"' then .quote
  else if c ∈ operatorChars then .operator
  else if c ∈ delimiterChars then .delimiter
  else .invalid

end PixelScan
