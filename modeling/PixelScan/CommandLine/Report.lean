import PixelScan.CommandLine.Arguments
import PixelScan.Diagnostic
import PixelScan.FileTree
import PixelScan.LogFilter
import PixelScan.Transcript

namespace PixelScan.CommandLine

def versionText : String := "pixlex 0.1.0\n"

def helpText : String :=
  "Prints the tokens of a pixel-graphics program, one `Type | Value` pair per line\n\n" ++
  "Usage: pixlex [OPTIONS] [FILE]\n\n" ++
  "Arguments:\n" ++
  "  [FILE]  Source file to scan. Scans a built-in sample program when omitted\n\n" ++
  "Options:\n" ++
  "      --source <SOURCE>  Scan this text instead of a file\n" ++
  "  -q, --quiet            Do not print the timing line\n" ++
  "  -h, --help             Print help\n" ++
  "  -V, --version          Print version\n"

def sampleProgram : String :=
  "let x: int = 42; let y: float = 3.14; let color: colour = #FFAABB; " ++
  "if (x < y) \x7b __print x; \x7d"

/-- What a run of the program leaves behind. The line with the time it took, which stands before the
rest of the output, is left out of it. -/
structure Report where
  code : Nat
  timing : Bool
  stdout : String
  stderr : String
deriving DecidableEq, Repr

def unlines (lines : List String) : String := String.join (lines.map (· ++ "\n"))

def fileName (path : String) : String :=
  match ((textPieces '/' path).filter fun name => name != "" && name != ".").getLast? with
  | none | some ".." => path
  | some name => name

def logLines (filter : Option LogFilter) (events : List Event) : List String :=
  match filter with
  | none => []
  | some f => (events.filter f.admits).map Event.line

def filterWarnings (filter : Option LogFilter) : String :=
  match filter with
  | none => ""
  | some f => unlines f.warnings

/-- A source with an error in it has no output at all, whatever tokens come before the error. -/
def Report.ofTranscript (t : Transcript) (source : String) (filter : Option LogFilter)
    (quiet : Bool) : Report :=
  let log := unlines (logLines filter t.events.toList)
  match t.result with
  | .ok tokens => ⟨0, !quiet, unlines (tokens.toList.map Token.display), log⟩
  | .error e => ⟨1, false, "", log ++ e.render source⟩

def scanText (source file : String) (filter : Option LogFilter) (quiet : Bool) : Option Report :=
  (transcribe source (some file)).map fun t => .ofTranscript t source filter quiet

inductive LoadFault
  | unreadable (fault : ReadFault)
  | notText
deriving DecidableEq, Repr

def LoadFault.message : LoadFault → String
  | unreadable fault => fault.message
  | notText => "stream did not contain valid UTF-8"

def decode : Except ReadFault ByteArray → Except LoadFault String
  | .error fault => .error (.unreadable fault)
  | .ok bytes =>
    match String.fromUTF8? bytes with
    | some text => .ok text
    | none => .error .notText

def scanFile (read : String → Except ReadFault ByteArray) (path : String)
    (filter : Option LogFilter) (quiet : Bool) : Option Report :=
  match decode (read path) with
  | .error fault =>
      some ⟨1, false, "", "Error: failed to read " ++ path ++ ": " ++ fault.message ++ "\n"⟩
  | .ok source => scanText source (fileName path) filter quiet

def serve (read : String → Except ReadFault ByteArray) (filter : Option LogFilter) :
    Request → Option Report
  | .help => some ⟨0, false, helpText, ""⟩
  | .version => some ⟨0, false, versionText, ""⟩
  | .scan .sample quiet => scanText sampleProgram "sample" filter quiet
  | .scan (.inline text) quiet => scanText text "shell" filter quiet
  | .scan (.file path) quiet => scanFile read path filter quiet

def answer (read : String → Except ReadFault ByteArray) (filter : Option LogFilter)
    (args : List String) : Option Report :=
  match parse args with
  | .error e => some ⟨2, false, "", "error: " ++ e.message ++ "\n"⟩
  | .ok request => serve read filter request

/-- What is wrong with the filter is said before anything else, whatever the arguments are. -/
def run (read : String → Except ReadFault ByteArray) (filter : Option LogFilter)
    (args : List String) : Option Report :=
  (answer read filter args).map fun r => { r with stderr := filterWarnings filter ++ r.stderr }

end PixelScan.CommandLine
