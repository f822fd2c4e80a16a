import PixelScan.Event
import PixelScan.Unicode.Alphanumeric
import PixelScan.Unicode.WhiteSpace

namespace PixelScan

def logTarget : String := "pixlex::lexer::lexer"

/-- Which events of a target a directive is about. Those inside a span are no events of a scan, which
opens none. -/
inductive Selection
  | every
  | carrying (field : String)
  | withinSpan
deriving DecidableEq, Repr

namespace Selection

def holds (e : Event) : Selection → Bool
  | every => true
  | carrying field => field == "message" || e.fields.any (·.1 == field)
  | withinSpan => false

def ofField (text : List Char) : Selection :=
  if '=' ∈ text then .withinSpan else .carrying (String.ofList text)

def field : Selection → String
  | carrying name => name
  | every | withinSpan => ""

end Selection

structure Directive where
  target : String
  selection : Selection
  least : Option LogLevel
deriving DecidableEq, Repr

inductive DirectiveFault
  | malformed
  | unknownLevel
deriving DecidableEq, Repr

def DirectiveFault.message : DirectiveFault → String
  | malformed => "invalid filter directive"
  | unknownLevel =>
      "error parsing level filter: expected one of \"off\", \"error\", \"warn\", \"info\", " ++
      "\"debug\", \"trace\", or a number 0-5"

namespace Directive

def levelOfNumber? : Nat → Option (Option LogLevel)
  | 0 => some none
  | 1 => some (some .error)
  | 2 => some (some .warn)
  | 3 => some (some .info)
  | 4 => some (some .debug)
  | 5 => some (some .trace)
  | _ => none

def levelOfName? (name : String) : Option (Option LogLevel) :=
  match name.toLower with
  | "off" => some none
  | "error" => some (some .error)
  | "warn" => some (some .warn)
  | "info" => some (some .info)
  | "debug" => some (some .debug)
  | "trace" => some (some .trace)
  | _ => none

def number? (cs : List Char) : Option Nat :=
  let digits := if cs.head? = some '+' then cs.tail else cs
  if !digits.isEmpty && digits.all Char.isDigit then some (Nat.ofDigitChars 10 digits 0) else none

def level? (cs : List Char) : Option (Option LogLevel) :=
  match number? cs with
  | some n => levelOfNumber? n
  | none => levelOfName? (String.ofList cs)

def readLevel (cs : List Char) : Except DirectiveFault (Option LogLevel) :=
  if cs.isEmpty then .ok (some .trace)
  else
    match level? cs with
    | some least => .ok least
    | none => .error .unknownLevel

def readSelection (cs : List Char) : Except DirectiveFault (Selection × List Char) :=
  let inSpan := fun c => c != ']' && c != '{'
  match cs.dropWhile inSpan with
  | ']' :: rest => .ok (.withinSpan, rest)
  | _ :: rest =>
    match rest.takeWhile (· != '}'), rest.dropWhile (· != '}') with
    | c :: field, '}' :: ']' :: rest =>
        .ok (if (cs.takeWhile inSpan).isEmpty then .ofField (c :: field) else .withinSpan, rest)
    | _, _ => .error .malformed
  | [] => .error .malformed

def startsTarget (c : Char) : Bool := c == '-' || c == ':' || c == '_' || isAlphanumeric c

/-- Reads a level, a target for all levels, `target=level`, or a target with a selection in brackets
before the level. A target with a selection may be left out. Blanks that stand before a directive
belong to its target and to its level, and no target or level begins with one. -/
def parse (text : List Char) : Except DirectiveFault Directive :=
  let blanks := text.takeWhile isWhiteSpace
  let body := trimStart text
  let target := body.takeWhile fun c => c != '=' && c != '['
  let name := String.ofList (blanks ++ target)
  if !target.head?.all startsTarget then .error .malformed
  else
    match body.drop target.length with
    | [] =>
      if target.isEmpty then .error .malformed
      else
        match level? text with
        | some least => .ok ⟨"", .every, least⟩
        | none => .ok ⟨name, .every, some .trace⟩
    | '=' :: level =>
      if target.isEmpty then .error .malformed
      else (readLevel (blanks ++ level)).map fun least => ⟨name, .every, least⟩
    | _ :: rest =>
      match readSelection rest with
      | .error e => .error e
      | .ok (selection, '=' :: level) =>
          (readLevel (blanks ++ level)).map fun least => ⟨name, selection, least⟩
      | .ok (selection, rest) =>
          if rest.all isWhiteSpace then .ok ⟨name, selection, some .trace⟩ else .error .malformed

def covers (d : Directive) (e : Event) : Bool :=
  d.target.toList.isPrefixOf logTarget.toList && d.selection.holds e

def admits (d : Directive) (e : Event) : Bool := d.least.any (·.urgency ≤ e.level.urgency)

/-- A longer target comes first, then a field, then the later of two fields in order. -/
def yieldsTo (d e : Directive) : Bool :=
  d.target.length < e.target.length ||
    d.target.length == e.target.length && d.selection.field ≤ e.selection.field

end Directive

end PixelScan
