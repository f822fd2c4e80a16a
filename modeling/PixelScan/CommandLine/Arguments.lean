namespace PixelScan.CommandLine

inductive UsageError
  | unknownOption (text : String)
  | repeatedOption (name : String)
  | missingValue (name : String)
  | unexpectedValue (name value : String)
  | unexpectedArgument (text : String)
  | emptyPath
  | sourceWithFile
deriving DecidableEq, Repr

def UsageError.message : UsageError → String
  | unknownOption text => "unexpected argument '" ++ text ++ "' found"
  | repeatedOption name => "the argument '" ++ name ++ "' cannot be used multiple times"
  | missingValue name => "a value is required for '" ++ name ++ "' but none was supplied"
  | unexpectedValue name value => "unexpected value '" ++ value ++ "' for '" ++ name ++ "' found"
  | unexpectedArgument text => "unexpected argument '" ++ text ++ "' found"
  | emptyPath => "a value is required for '[FILE]' but none was supplied"
  | sourceWithFile => "the argument '--source <SOURCE>' cannot be used with '[FILE]'"

inductive Input
  | sample
  | inline (text : String)
  | file (path : String)
deriving DecidableEq, Repr

inductive Request
  | help
  | version
  | scan (input : Input) (quiet : Bool)
deriving DecidableEq, Repr

inductive Stop
  | fault (e : UsageError)
  | help
  | version
deriving DecidableEq, Repr

structure Choice where
  source : Option String
  file : Option String
  quiet : Bool
deriving DecidableEq, Repr

namespace Choice

def empty : Choice := ⟨none, none, false⟩

def withSource (c : Choice) (text : String) : Except Stop Choice :=
  if c.source.isSome then .error (.fault (.repeatedOption "--source <SOURCE>"))
  else .ok { c with source := some text }

def withFile (c : Choice) (path : String) : Except Stop Choice :=
  if path.isEmpty then .error (.fault .emptyPath)
  else if c.file.isSome then .error (.fault (.unexpectedArgument path))
  else .ok { c with file := some path }

def withQuiet (c : Choice) : Except Stop Choice :=
  if c.quiet then .error (.fault (.repeatedOption "--quiet")) else .ok { c with quiet := true }

def withLetter (c : Choice) (letter : Char) : Except Stop Choice :=
  match letter with
  | 'q' => c.withQuiet
  | 'h' => .error .help
  | 'V' => .error .version
  | _ => .error (.fault (.unknownOption ("-" ++ String.singleton letter)))

/-- Names of options are never shortened. -/
def withLong (c : Choice) (name : String) (value : Option String) : Except Stop Choice :=
  match name, value with
  | "source", some text => c.withSource text
  | "source", none => .error (.fault (.missingValue "--source <SOURCE>"))
  | "quiet", none => c.withQuiet
  | "help", none => .error .help
  | "version", none => .error .version
  | "quiet", some v | "help", some v | "version", some v =>
      .error (.fault (.unexpectedValue ("--" ++ name) v))
  | _, _ => .error (.fault (.unknownOption ("--" ++ name)))

def withArgument (c : Choice) (arg : String) : Except Stop Choice :=
  match arg.toList with
  | '-' :: '-' :: long =>
      let name := String.ofList (long.takeWhile (· != '='))
      match long.dropWhile (· != '=') with
      | [] => c.withLong name none
      | _ :: value => c.withLong name (some (String.ofList value))
  | '-' :: letter :: letters => (letter :: letters).foldlM withLetter c
  | _ => c.withFile arg

/-- Arguments count from left to right, and the first that stops the reading decides. A value of its
own may not look like an option; after `--` every argument is a file. -/
def withArguments (c : Choice) : List String → Except Stop Choice
  | [] => .ok c
  | "--" :: files => files.foldlM withFile c
  | "--source" :: text :: args =>
      if text.toList.head? = some '-' && text != "-" then
        .error (.fault (.missingValue "--source <SOURCE>"))
      else do (← c.withSource text).withArguments args
  | arg :: args => do (← c.withArgument arg).withArguments args

def request (c : Choice) : Except UsageError Request :=
  match c.source, c.file with
  | some _, some _ => .error .sourceWithFile
  | some text, none => .ok (.scan (.inline text) c.quiet)
  | none, some path => .ok (.scan (.file path) c.quiet)
  | none, none => .ok (.scan .sample c.quiet)

end Choice

def parse (args : List String) : Except UsageError Request :=
  match Choice.empty.withArguments args with
  | .ok c => c.request
  | .error (.fault e) => .error e
  | .error .help => .ok .help
  | .error .version => .ok .version

end PixelScan.CommandLine
