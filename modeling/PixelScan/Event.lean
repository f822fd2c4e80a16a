import PixelScan.ScanState
import PixelScan.Text.Quoted
import PixelScan.Token

namespace PixelScan

inductive LogLevel
  | trace | debug | info | warn | error
deriving DecidableEq, Repr

namespace LogLevel

def name : LogLevel → String
  | trace => "TRACE"
  | debug => "DEBUG"
  | info => "INFO"
  | warn => "WARN"
  | error => "ERROR"

def urgency : LogLevel → Nat
  | trace => 0
  | debug => 1
  | info => 2
  | warn => 3
  | error => 4

end LogLevel

/-- What a scan reports while it runs. The position of `emit` is the end of the token, every other
one is its start. -/
inductive Event
  | started (file : String) (bytes : Nat)
  | transition (source target : ScanState) (pos : Nat)
  | assign (pos : Nat)
  | emit (token : Token) (pos : Nat)
  | finished (tokens : Nat)
deriving DecidableEq, Repr

namespace Event

def level : Event → LogLevel
  | started _ _ | finished _ => .debug
  | transition _ _ _ | assign _ | emit _ _ => .trace

def name : Event → String
  | started _ _ => "tokenize"
  | transition _ _ _ => "transition"
  | assign _ => "assign"
  | emit _ _ => "emit"
  | finished _ => "tokenized"

def fields : Event → List (String × String)
  | started file bytes => [("file", file), ("bytes", toString bytes)]
  | transition source target pos =>
      [("from", source.name), ("to", target.name), ("pos", toString pos)]
  | assign pos => [("pos", toString pos)]
  | emit token pos =>
      [("kind", token.kind.displayName), ("value", quoteString token.value), ("pos", toString pos)]
  | finished tokens => [("tokens", toString tokens)]

end Event

end PixelScan
