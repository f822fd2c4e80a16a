import PixelScan.Fault

namespace PixelScan

/-- A byte offset in a named source. Offsets are 32 bits wide, so one past `2 ^ 32` wraps. -/
structure Position where
  offset : UInt32
  file : String
deriving DecidableEq, Repr

def Position.unknown : Position := ⟨0, "<null>"⟩

structure LexError where
  fault : Fault
  position : Position
deriving DecidableEq, Repr

def LexError.message (e : LexError) : String :=
  e.fault.cause ++ " at " ++ e.position.file ++ ":" ++ toString e.position.offset.toNat

end PixelScan
