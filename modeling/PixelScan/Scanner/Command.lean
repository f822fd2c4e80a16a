import PixelScan.Scanner.Step

namespace PixelScan

/-- What may be asked of a scanner, in any order and from any state, to change it. -/
inductive Command
  | step | extract
  | enter (state : ScanState)
  | advance (n : Nat)
  | push (token : Token)
  | word | boolean | number | colour | string
  | operator (c : Char)
  | delimiter (c : Char)
deriving DecidableEq, Repr

def Scanner.perform (s : Scanner) : Command → Option Reply
  | .step => s.step
  | .extract => s.extract
  | .enter state => some ⟨s.enter state, none⟩
  | .advance n => (s.advance? n).map fun t => ⟨t, none⟩
  | .push token => some ⟨s.push token, none⟩
  | .word => s.word
  | .boolean => s.boolean
  | .number => s.number
  | .colour => s.colour
  | .string => s.string
  | .operator c => s.operator c
  | .delimiter c => s.delimiter c

end PixelScan
