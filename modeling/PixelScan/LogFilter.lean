import PixelScan.LogFilter.Directive
import PixelScan.Text.Pieces

namespace PixelScan

structure LogFilter where
  directives : List Directive
  ignored : List (String × DirectiveFault)
deriving DecidableEq, Repr

namespace LogFilter

def ofString (s : String) : LogFilter :=
  let read := ((textPieces ',' s).filter (· != "")).map fun text =>
    (text, Directive.parse text.toList)
  let directives := read.filterMap fun r => r.2.toOption
  let ignored := read.filterMap fun r =>
    match r.2 with
    | .ok _ => none
    | .error e => some (r.1, e)
  ⟨if directives.isEmpty then [⟨"", .every, some .error⟩] else directives, ignored⟩

def warnings (f : LogFilter) : List String :=
  f.ignored.map fun r => "ignoring `" ++ r.1 ++ "`: " ++ r.2.message

/-- Of the directives that cover an event the most specific one decides, the last of several. -/
def directiveFor? (f : LogFilter) (e : Event) : Option Directive :=
  (f.directives.filter (·.covers e)).foldl
    (fun best d => if best.all (·.yieldsTo d) then some d else best) none

def admits (f : LogFilter) (e : Event) : Bool := (f.directiveFor? e).any (·.admits e)

end LogFilter

def Event.line (e : Event) : String :=
  e.level.name ++ " " ++ logTarget ++ ": " ++
    " ".intercalate (e.name :: e.fields.map fun f => f.1 ++ "=" ++ f.2)

end PixelScan
