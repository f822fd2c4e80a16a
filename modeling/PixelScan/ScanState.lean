import PixelScan.CharClass

namespace PixelScan

inductive ScanState
  | start | inIdentifier | inNumber | inColour | inBoolean | inAssignOrOperator | inString
deriving DecidableEq, Repr

namespace ScanState

def all : List ScanState :=
  [start, inIdentifier, inNumber, inColour, inBoolean, inAssignOrOperator, inString]

theorem mem_all (st : ScanState) : st ∈ all := by cases st <;> decide

def name : ScanState → String
  | start => "Start"
  | inIdentifier => "InIdentifier"
  | inNumber => "InNumber"
  | inColour => "InColour"
  | inBoolean => "InBoolean"
  | inAssignOrOperator => "InAssignOrOperator"
  | inString => "InString"

/-- The transition table. Only an invalid character at the start of a token is rejected; inside a
token it ends the token, as every character outside the run does. -/
def next : ScanState → CharClass → Option ScanState
  | start, .whitespace => some start
  | start, .alpha => some inIdentifier
  | start, .digit => some inNumber
  | start, .hash => some inColour
  | start, .operator => some inAssignOrOperator
  | start, .delimiter => some start
  | start, .quote => some inString
  | start, .invalid => none
  | inIdentifier, .alpha => some inIdentifier
  | inIdentifier, .digit => some inIdentifier
  | inNumber, .digit => some inNumber
  | _, _ => some start

def continues (st : ScanState) (c : Char) : Bool := st.next (classify c) == some st

theorem next_eq_none_iff (st : ScanState) (k : CharClass) :
    st.next k = none ↔ st = start ∧ k = .invalid := by
  cases st <;> cases k <;> decide

theorem continues_inIdentifier_iff (c : Char) :
    inIdentifier.continues c = true ↔ classify c = .alpha ∨ classify c = .digit := by
  rw [continues]
  cases classify c <;> decide

theorem continues_inNumber_iff (c : Char) :
    inNumber.continues c = true ↔ classify c = .digit := by
  rw [continues]
  cases classify c <;> decide

end ScanState

end PixelScan
