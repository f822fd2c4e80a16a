import PixelScan.Scanner.Step

namespace PixelScan

/-- A whole scan: what it reported on its way, and the tokens or the first error. -/
structure Transcript where
  events : Array Event
  result : Except LexError (Array Token)
deriving Repr

def Transcript.ofReply (r : Reply) : Transcript :=
  match r.error with
  | some e => ⟨r.scanner.log, .error e⟩
  | none => ⟨r.scanner.log.push (.finished r.scanner.tokens.size), .ok r.scanner.tokens⟩

def transcribe (source : String) (file : Option String) : Option Transcript :=
  let s := Scanner.ofString source file
  (s.record (.started s.file (byteLength s.source))).run.map Transcript.ofReply

def tokenize (source : String) (file : Option String) : Option (Except LexError (Array Token)) :=
  (transcribe source file).map Transcript.result

end PixelScan
