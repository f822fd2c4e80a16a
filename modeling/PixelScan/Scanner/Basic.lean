import PixelScan.Event
import PixelScan.LexError
import PixelScan.Lexeme

namespace PixelScan

/-- A scan under way. The cursor counts bytes and may be moved to any of them, so it can come to
stand inside a character; what reads the source there is a misuse and has no reply. -/
structure Scanner where
  source : List Char
  file : String
  pos : Nat
  state : ScanState
  tokens : Array Token
  log : Array Event
deriving DecidableEq, Repr

structure Reply where
  scanner : Scanner
  error : Option LexError
deriving DecidableEq, Repr

namespace Scanner

def ofString (source : String) (file : Option String) : Scanner :=
  ⟨source.toList, file.getD "shell", 0, .start, #[], #[]⟩

def atEnd (s : Scanner) : Bool := byteLength s.source ≤ s.pos

def remainder? (s : Scanner) : Option (List Char) := dropBytes? s.pos s.source

/-- What follows the byte under the cursor, whatever that byte is. -/
def tail? (s : Scanner) : Option (List Char) := dropBytes? (s.pos + 1) s.source

def peek? (s : Scanner) : Option (Option Char) := s.remainder?.map List.head?

def position (s : Scanner) : Position := ⟨s.pos.toUInt32, s.file⟩

def record (s : Scanner) (e : Event) : Scanner := { s with log := s.log.push e }

def push (s : Scanner) (t : Token) : Scanner := { s with tokens := s.tokens.push t }

def enter (s : Scanner) (target : ScanState) : Scanner :=
  { s.record (.transition s.state target s.pos) with state := target }

/-- Moves the cursor on by `n` bytes, but not past the end. Its sum has to fit into 64 bits. -/
def advance? (s : Scanner) (n : Nat) : Option Scanner :=
  if s.pos + n < UInt64.size then
    some { s with pos := min (s.pos + n) (byteLength s.source) }
  else none

def skip (s : Scanner) (c : Char) : Scanner := { s with pos := s.pos + c.utf8Size }

/-- Moves past a lexeme that was read at the cursor, hence one that lies inside the source. -/
def accept (s : Scanner) (l : Lexeme) : Scanner :=
  let moved := { s with pos := s.pos + l.width, state := .start }
  (moved.record (.emit l.token moved.pos)).push l.token

def accepted (s : Scanner) (l : Lexeme) : Reply := ⟨s.accept l, none⟩

def refused (s : Scanner) (fault : Fault) : Reply := ⟨s, some ⟨fault, s.position⟩⟩

def settle (s : Scanner) : Except Fault Lexeme → Reply
  | .ok l => s.accepted l
  | .error fault => s.refused fault

@[simp]
theorem state_enter (s : Scanner) (st : ScanState) : (s.enter st).state = st := rfl

@[simp]
theorem remainder?_enter (s : Scanner) (st : ScanState) :
    (s.enter st).remainder? = s.remainder? := rfl

@[simp]
theorem pos_accept (s : Scanner) (l : Lexeme) : (s.accept l).pos = s.pos + l.width := rfl

theorem remainder?_eq_some_iff {s : Scanner} {rest : List Char} :
    s.remainder? = some rest ↔
      ∃ before, s.source = before ++ rest ∧ byteLength before = s.pos :=
  dropBytes?_eq_some_iff

theorem remainder?_ne_nil {s : Scanner} (h : s.atEnd = false) : s.remainder? ≠ some [] := by
  intro hr
  obtain ⟨before, hs, hp⟩ := remainder?_eq_some_iff.1 hr
  simp [atEnd, hs, hp] at h

end Scanner

end PixelScan
