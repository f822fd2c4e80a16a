import PixelScan.CommandLine.Report
import PixelScan.Proofs.Layout

namespace PixelScan

open Grammar

variable {source name : String} {file : Option String} {tokens : Array Token} {e : LexError}

def LexError.within (e : LexError) (file : String) : LexError := ⟨e.fault, e.position.offset, file⟩

theorem tokenize_ok_within (h : tokenize source file = some (.ok tokens)) (file' : Option String) :
    tokenize source file' = some (.ok tokens) := by
  rw [tokenize_of_splits (splits_of_tokenize h)]

theorem tokenize_error_within (h : tokenize source file = some (.error e)) (file' : Option String) :
    tokenize source file' = some (.error (e.within (file'.getD "shell"))) := by
  obtain ⟨a, b, ts, hsource, ha, hb, hposition⟩ := spoils_of_tokenize h
  rw [tokenize_of_spoils hsource ha hb, LexError.within, hposition]

theorem LexError.render_within {l : SourceLine} (file : String)
    (hline : SourceLine.at? source.toList e.position.offset.toNat = some l) :
    (e.within file).render source = l.excerpt.picture e.header file :=
  render_eq_picture (e := e.within file) hline

namespace CommandLine

variable {read : String → Except ReadFault ByteArray} {filter : Option LogFilter}
  {args args' : List String} {input : Input} {path : String} {quiet : Bool}

/-- An input brings this text to the scan, under this name. -/
inductive Delivers (read : String → Except ReadFault ByteArray) : Input → String → String → Prop
  | sample : Delivers read .sample sampleProgram "sample"
  | inline {source : String} : Delivers read (.inline source) source "shell"
  | file {path source : String} : read path = .ok source.toUTF8 →
      Delivers read (.file path) source (fileName path)

theorem decode_toUTF8 (source : String) : decode (.ok source.toUTF8) = .ok source := by
  have h : String.fromUTF8? source.toUTF8 = some source := by
    rw [String.fromUTF8?, String.toUTF8_eq_toByteArray, dif_pos source.isValidUTF8]
    rfl
  simp only [decode, h]

theorem serve_of_delivers (h : Delivers read input source name) :
    serve read filter (.scan input quiet) = scanText source name filter quiet := by
  cases h with
  | sample | inline => rfl
  | file hread => simp only [serve, scanFile, hread, decode_toUTF8]

def listing (tokens : List Token) : String := unlines (tokens.map Token.display)

theorem run_of_delivers (hargs : parse args = .ok (.scan input quiet))
    (hinput : Delivers read input source name) :
    run read filter args = (scanText source name filter quiet).map fun r =>
      { r with stderr := filterWarnings filter ++ r.stderr } := by
  simp only [run, answer, hargs, serve_of_delivers hinput]

theorem exists_transcribe {r : Except LexError (Array Token)} (h : tokenize source file = some r) :
    ∃ t, transcribe source file = some t ∧ t.result = r :=
  Option.map_eq_some_iff.1 h

theorem exists_run_of_ok (filter : Option LogFilter) (hargs : parse args = .ok (.scan input quiet))
    (hinput : Delivers read input source name) (h : tokenize source file = some (.ok tokens)) :
    ∃ log, run read filter args = some ⟨0, !quiet, listing tokens.toList, log⟩ ∧
      (filter = none → log = "") := by
  obtain ⟨t, ht, hresult⟩ := exists_transcribe (tokenize_ok_within h (some name))
  refine ⟨filterWarnings filter ++ unlines (logLines filter t.events.toList), ?_, ?_⟩
  · simp only [run_of_delivers hargs hinput, scanText, ht, Option.map_some, Report.ofTranscript,
      hresult]
    rfl
  · rintro rfl
    rfl

theorem exists_run_of_error (filter : Option LogFilter)
    (hargs : parse args = .ok (.scan input quiet)) (hinput : Delivers read input source name)
    (h : tokenize source file = some (.error e)) :
    ∃ log, run read filter args = some ⟨1, false, "", log ++ (e.within name).render source⟩ ∧
      (filter = none → log = "") := by
  obtain ⟨t, ht, hresult⟩ := exists_transcribe (tokenize_error_within h (some name))
  refine ⟨filterWarnings filter ++ unlines (logLines filter t.events.toList), ?_, ?_⟩
  · simp only [run_of_delivers hargs hinput, scanText, ht, Option.map_some, Report.ofTranscript,
      hresult, String.append_assoc, Option.getD_some]
  · rintro rfl
    rfl

section Arguments

def quietOption (quiet : Bool) : List String := if quiet then ["--quiet"] else []

theorem withArguments_singleton {c : Choice} {arg : String} (h : arg ≠ "--") :
    c.withArguments [arg] = c.withArgument arg := by
  rw [Choice.withArguments.eq_4 c arg [] (by simpa using h) (by simp)]
  cases c.withArgument arg <;> rfl

theorem withArguments_quietOption (quiet : Bool) (args : List String) :
    Choice.empty.withArguments (quietOption quiet ++ args) =
      (⟨none, none, quiet⟩ : Choice).withArguments args := by
  cases quiet with
  | false => rfl
  | true =>
      rw [quietOption, if_pos rfl, List.singleton_append,
        Choice.withArguments.eq_4 _ _ _ (by decide) (by simp)]
      rfl

theorem parse_source (quiet : Bool) (text : String) :
    parse (quietOption quiet ++ ["--source=" ++ text]) = .ok (.scan (.inline text) quiet) := by
  have hne : "--source=" ++ text ≠ "--" := by
    intro h
    simpa using congrArg String.toList h
  have harg : (⟨none, none, quiet⟩ : Choice).withArgument ("--source=" ++ text) =
      .ok ⟨some text, none, quiet⟩ := by
    simp [Choice.withArgument, Choice.withLong, Choice.withSource]
  rw [parse, withArguments_quietOption, withArguments_singleton hne, harg]
  rfl

theorem parse_path (quiet : Bool) (hempty : path ≠ "") (hdash : path.toList.head? ≠ some '-') :
    parse (quietOption quiet ++ [path]) = .ok (.scan (.file path) quiet) := by
  have hne : path ≠ "--" := by
    rintro rfl
    exact hdash rfl
  have harg : (⟨none, none, quiet⟩ : Choice).withArgument path = .ok ⟨none, some path, quiet⟩ := by
    rw [Choice.withArgument.eq_def]
    split
    · simp_all
    · simp_all
    · simp [Choice.withFile, hempty]
  rw [parse, withArguments_quietOption, withArguments_singleton hne, harg]
  rfl

end Arguments

def LastName (path name : List Char) : Prop :=
  '/' ∉ name ∧ name ∉ [[], ['.'], ['.', '.']] ∧ (path = name ∨ ∃ dir, path = dir ++ '/' :: name)

theorem exists_pieces_of_lastName {path name : List Char} (h : LastName path name) :
    ∃ names, pieces '/' path = names ++ [name] := by
  obtain ⟨hslash, -, rfl | ⟨dir, rfl⟩⟩ := h
  · exact ⟨[], pieces_of_notMem hslash⟩
  · exact ⟨pieces '/' dir, by rw [pieces_append_separator, pieces_of_notMem hslash]⟩

theorem fileName_of_lastName {path name : String} (h : LastName path.toList name.toList) :
    fileName path = name := by
  obtain ⟨names, hnames⟩ := exists_pieces_of_lastName h
  have hdots : name ≠ "" ∧ name ≠ "." ∧ name ≠ ".." := by
    have hnot := h.2.1
    refine ⟨?_, ?_, ?_⟩ <;>
      · rintro rfl
        exact hnot (by simp)
  have hlast :
      ((textPieces '/' path).filter fun n => n != "" && n != ".").getLast? = some name := by
    simp [textPieces, hnames, hdots]
  rw [fileName, hlast]
  simp [hdots]

/-- It does not matter whether a text stands among the arguments or in a file: the exit code, the
output and the picture of the first error are the same, but for the name in the second line of
that. -/
theorem run_same_text (hinline : parse args = .ok (.scan (.inline source) quiet))
    (hfile : parse args' = .ok (.scan (.file path) quiet)) (hread : read path = .ok source.toUTF8) :
    (∀ name, LastName path.toList name.toList → fileName path = name) ∧
    ((∃ tokens, tokenize source none = some (.ok tokens) ∧
        run read none args = some ⟨0, !quiet, listing tokens.toList, ""⟩ ∧
        run read none args' = some ⟨0, !quiet, listing tokens.toList, ""⟩) ∨
      ∃ e l, tokenize source none = some (.error e) ∧
        SourceLine.at? source.toList e.position.offset.toNat = some l ∧
        run read none args = some ⟨1, false, "", l.excerpt.picture e.header "shell"⟩ ∧
        run read none args' = some ⟨1, false, "", l.excerpt.picture e.header (fileName path)⟩) := by
  refine ⟨fun name => fileName_of_lastName, ?_⟩
  rcases splits_or_spoils source.toList with ⟨ts, hsplits⟩ | ⟨a, b, ts, fault, hsource, ha, hb⟩
  · have hok : tokenize source none = some (.ok ts.toArray) := tokenize_of_splits hsplits
    obtain ⟨log, hrun, hlog⟩ := exists_run_of_ok none hinline .inline hok
    obtain ⟨log', hrun', hlog'⟩ := exists_run_of_ok none hfile (.file hread) hok
    rw [hlog rfl] at hrun
    rw [hlog' rfl] at hrun'
    exact .inl ⟨ts.toArray, hok, hrun, hrun'⟩
  · have herror : tokenize source none = _ := tokenize_of_spoils hsource ha hb
    obtain ⟨l, hline⟩ := exists_line_of_tokenize herror
    obtain ⟨log, hrun, hlog⟩ := exists_run_of_error none hinline .inline herror
    obtain ⟨log', hrun', hlog'⟩ := exists_run_of_error none hfile (.file hread) herror
    rw [hlog rfl, String.empty_append, LexError.render_within "shell" hline] at hrun
    rw [hlog' rfl, String.empty_append, LexError.render_within (fileName path) hline] at hrun'
    exact .inr ⟨_, l, herror, hline, hrun, hrun'⟩

theorem run_same_text_behind_good_tokens :
    ∃ e x, tokenize "\"é\" = @" none = some (.error e) ∧
      run (FileTree.read ⟨[(["art", "main.pix"], "\"é\" = @".toUTF8)]⟩) none
          ["--source=\"é\" = @"] = some ⟨1, false, "", Excerpt.picture x e.header "shell"⟩ ∧
      run (FileTree.read ⟨[(["art", "main.pix"], "\"é\" = @".toUTF8)]⟩) none
          ["art/main.pix"] = some ⟨1, false, "", Excerpt.picture x e.header "main.pix"⟩ := by
  have hread : FileTree.read ⟨[(["art", "main.pix"], "\"é\" = @".toUTF8)]⟩ "art/main.pix" =
      .ok "\"é\" = @".toUTF8 := by rfl
  have hpath : parse ["art/main.pix"] = .ok (.scan (.file "art/main.pix") false) :=
    parse_path false (by decide) (by decide)
  have herror : tokenize "\"é\" = @" none =
      some (.error ⟨.unexpectedCharacter '@', 7, "shell"⟩) := by cbv
  obtain ⟨hname, hruns⟩ := run_same_text (parse_source false "\"é\" = @") hpath hread
  have hlast : LastName "art/main.pix".toList "main.pix".toList :=
    ⟨by decide, by decide, .inr ⟨"art".toList, by decide⟩⟩
  rw [hname _ hlast] at hruns
  rcases hruns with ⟨tokens, hok, -⟩ | ⟨e, l, he, -, hinline, hfile⟩
  · rw [herror] at hok
    cases hok
  · exact ⟨e, l.excerpt, he, hinline, hfile⟩

end CommandLine

end PixelScan
