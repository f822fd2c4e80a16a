import PixelScan.CommandLine.Report
import PixelScan.Text.Duration

namespace PixelScan.CommandLine

def readFault : IO.Error → ReadFault
  | .noFileOrDirectory _ _ _ => .notFound
  | .inappropriateType _ number _ => if number == 21 then .isADirectory else .notADirectory
  | .permissionDenied _ _ _ => ⟨"Permission denied", 13⟩
  | e => ⟨toString e, 5⟩

def readSource (path : String) : IO (Except ReadFault ByteArray) := do
  try
    return .ok (← IO.FS.readBinFile path)
  catch e =>
    return .error (readFault e)

/-- The file that the arguments name is read before the scan, so that the scan itself is pure. -/
def readInput (args : List String) : IO (Except ReadFault ByteArray) :=
  match parse args with
  | .ok (.scan (.file path) _) => readSource path
  | _ => return .error .notFound

end PixelScan.CommandLine

def main (args : List String) : IO UInt32 := do
  let filter := (← IO.getEnv "RUST_LOG").map PixelScan.LogFilter.ofString
  let input ← PixelScan.CommandLine.readInput args
  let start ← IO.monoNanosNow
  match ← IO.lazyPure fun _ => PixelScan.CommandLine.run (fun _ => input) filter args with
  | none =>
    IO.eprintln "misuse of the scanner"
    return 101
  | some report =>
    let stop ← IO.monoNanosNow
    IO.eprint report.stderr
    if report.timing then IO.println ("Tokenized in " ++ PixelScan.durationText (stop - start))
    IO.print report.stdout
    return report.code.toUInt32
