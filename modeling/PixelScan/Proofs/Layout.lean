import PixelScan.Proofs.Caret

namespace PixelScan

open Alphabet Grammar

def Fault.quoted : Fault → List Char
  | .unexpectedCharacter _ | .unterminatedString => []
  | .malformedNumber text | .malformedColour _ text | .malformedBoolean text => text.toList
  | .invalidEscape c => [c]

/-- Five lines, all of them ended: the name of the error with what is said about it, the file, the
gutter, the line with its number, and the caret. -/
def FiveLines (e : LexError) (picture : String) : Prop :=
  ∃ (about text : List Char) (number margin dashes : Nat),
    pieces '\n' picture.toList =
      ["Error: ".toList ++ e.fault.name.toList ++ about,
        "-> ".toList ++ e.position.file.toList,
        List.replicate margin ' ' ++ ['|'],
        (toString number).toList ++ " | ".toList ++ text,
        List.replicate margin ' ' ++ "| ".toList ++ List.replicate dashes '-' ++ ['^'],
        []]

theorem length_pieces (c : Char) (xs : List Char) : (pieces c xs).length = xs.count c + 1 := by
  induction xs with
  | nil => rfl
  | cons d xs ih =>
      rw [pieces]
      split
      · next hd => simp [hd, ih]
      · next hd =>
          cases h : pieces c xs with
          | nil => exact absurd h (pieces_ne_nil c xs)
          | cons piece rest =>
              rw [h] at ih
              simpa [hd] using ih

theorem Fault.exists_tip {fault : Fault} {tip : String} (h : fault.tip = some tip) :
    ∃ before after : String, tip.toList = before.toList ++ (fault.quoted ++ after.toList) ∧
      '\n' ∉ before.toList ∧ '\n' ∉ after.toList := by
  cases fault with
  | unexpectedCharacter c => cases h
  | malformedNumber text =>
      cases h
      exact ⟨"Invalid number: `", "`, a number may contain at most one decimal point",
        by simp [quoted], by decide, by decide⟩
  | malformedColour defect text =>
      cases defect with
      | tooShort =>
          cases h
          exact ⟨"Invalid colour: `", "`, expected `#` followed by 6 hex digits",
            by simp [quoted], by decide, by decide⟩
      | nonHexDigit =>
          cases h
          exact ⟨"Invalid colour: `", "`, only 0-9, a-f and A-F are hex digits",
            by simp [quoted], by decide, by decide⟩
  | malformedBoolean text =>
      cases h
      exact ⟨"Invalid boolean: `", "`, expected `true` or `false`",
        by simp [quoted], by decide, by decide⟩
  | invalidEscape c =>
      cases h
      exact ⟨"Unknown escape `\\", "`, try escaping the `\\` with `\\\\`",
        by simp [quoted], by decide, by decide⟩
  | unterminatedString =>
      cases h
      exact ⟨"Missing closing `\"`", "", by simp [quoted], by decide, by decide⟩

namespace SourceLine

variable {source : List Char} {l : SourceLine} {n : Nat}

theorem newline_notMem_printed (h : at? source n = some l) : '\n' ∉ l.printed := by
  obtain ⟨x, ending, htext, hx, hending⟩ := exists_of_mem_lines (text_mem_of_locate? h)
  have hwhite : White ending := by
    rcases hending with rfl | rfl
    · simp [White]
    · exact white_singleton_iff.2 (isWhiteSpace_of_isBlank rfl)
  rw [printed, htext, trim_append_of_white hwhite]
  exact mt mem_of_mem_trim hx

end SourceLine

theorem Fault.newline_notMem_name (fault : Fault) : '\n' ∉ fault.name.toList := by
  cases fault <;> simp [name]

theorem Fault.quoted_eq_nil {fault : Fault} (h : fault.tip = none) : fault.quoted = [] := by
  cases fault with
  | unexpectedCharacter c => rfl
  | malformedColour defect text => cases defect <;> cases h
  | malformedNumber | malformedBoolean | invalidEscape | unterminatedString => cases h

namespace LexError

variable {e : LexError} {l : SourceLine} {source : String}

theorem exists_header (e : LexError) :
    ∃ before after, e.header.toList =
      "Error: ".toList ++ e.fault.name.toList ++ (before ++ (e.fault.quoted ++ after)) ∧
      '\n' ∉ before ∧ '\n' ∉ after := by
  cases htip : e.fault.tip with
  | none =>
      refine ⟨[], [], ?_, by simp, by simp⟩
      simp [header, htip, Fault.quoted_eq_nil htip]
  | some tip =>
      obtain ⟨before, after, htext, hbefore, hafter⟩ := Fault.exists_tip htip
      refine ⟨" (".toList ++ before.toList, after.toList ++ ")".toList, ?_, ?_, ?_⟩
      · simp [header, htip, htext]
      · simp [hbefore]
      · simp [hafter]

theorem count_newline_header (e : LexError) :
    e.header.toList.count '\n' = e.fault.quoted.count '\n' := by
  obtain ⟨before, after, hheader, hbefore, hafter⟩ := e.exists_header
  rw [hheader]
  simp [List.count_eq_zero_of_not_mem, hbefore, hafter, e.fault.newline_notMem_name]

theorem pieces_render (hline : SourceLine.at? source.toList e.position.offset.toNat = some l)
    (hfile : '\n' ∉ e.position.file.toList) :
    pieces '\n' (e.render source).toList = pieces '\n' e.header.toList ++
      ["-> ".toList ++ e.position.file.toList, l.excerpt.gutter.toList, l.excerpt.text.toList,
        l.excerpt.caret.toList, []] := by
  obtain ⟨m, htext, -, hmargin⟩ := l.toList_excerpt_text
  obtain ⟨p, hcaret, -, hdashes, -⟩ := l.toList_excerpt_caret
  have hfileline : '\n' ∉ "-> ".toList ++ e.position.file.toList := by simp [hfile]
  have hgutterline : '\n' ∉ l.excerpt.gutter.toList := by simp [SourceLine.excerpt]
  have htextline : '\n' ∉ l.excerpt.text.toList := by
    simp [htext, hmargin, SourceLine.newline_notMem_printed hline]
  have hcaretline : '\n' ∉ l.excerpt.caret.toList := by simp [hcaret, hdashes]
  rw [toList_render hline]
  simp only [pieces_append_separator, pieces_of_notMem hfileline, pieces_of_notMem hgutterline,
    pieces_of_notMem htextline, pieces_of_notMem hcaretline]
  rw [List.append_assoc]
  rfl

theorem fiveLines_render_iff
    (hline : SourceLine.at? source.toList e.position.offset.toNat = some l)
    (hfile : '\n' ∉ e.position.file.toList) :
    FiveLines e (e.render source) ↔ '\n' ∉ e.fault.quoted := by
  have hpieces := pieces_render hline hfile
  constructor
  · rintro ⟨about, text, number, margin, dashes, hfive⟩
    have hlength := congrArg List.length (hpieces.symm.trans hfive)
    rw [List.length_append, length_pieces, count_newline_header] at hlength
    simp only [List.length_cons, List.length_nil] at hlength
    exact List.count_eq_zero.1 (by omega)
  · intro hquoted
    obtain ⟨before, after, hheader, hbefore, hafter⟩ := e.exists_header
    have hheaderline : '\n' ∉ e.header.toList := by
      rw [← List.count_eq_zero, count_newline_header]
      exact List.count_eq_zero_of_not_mem hquoted
    rw [pieces_of_notMem hheaderline] at hpieces
    refine ⟨before ++ (e.fault.quoted ++ after), l.printed, l.number,
      (toString l.number).length + 1, l.caretColumn, ?_⟩
    rw [hpieces, hheader]
    simp [SourceLine.excerpt, SourceLine.printed]

end LexError

theorem newline_notMem_of_digits {ds : List Char} (h : Digits ds) : '\n' ∉ ds := by
  intro hmem
  exact absurd (h _ hmem) (by decide)

/-- The header runs over the end of a line with a colour that does, or with an escaped line feed. -/
theorem newline_mem_quoted_iff {text : List Char} {fault : Fault} (h : Spoils text fault) :
    '\n' ∈ fault.quoted ↔
      (∃ tail, text = '#' :: tail ∧ '\n' ∈ tail.take 6) ∨ fault = .invalidEscape '\n' := by
  cases h with
  | unexpected hc => simp [Fault.quoted, hc.2.2.2.1]
  | number hdecimal =>
      obtain ⟨d, ds, es, rfl, hd, hds, hes⟩ := exists_cons_of_decimal hdecimal
      have hmark : d ≠ '#' := by
        rintro rfl
        exact absurd hd (by decide)
      have hds := newline_notMem_of_digits hds
      have hes := newline_notMem_of_digits hes
      simp [Fault.quoted, hmark, hes, List.not_mem_of_not_mem_cons hds, List.ne_of_not_mem_cons hds]
  | short hlength =>
      have htake : List.take 6 _ = _ := List.take_of_length_le hlength.le
      simp [Fault.quoted, htake]
  | nonHex hlength => simp [Fault.quoted, ← hlength]
  | escape => simp [Fault.quoted, eq_comm]
  | unclosed | backslash => simp [Fault.quoted]

theorem exists_line_of_tokenize {source : String} {file : Option String} {e : LexError}
    (h : tokenize source file = some (.error e)) :
    ∃ l, SourceLine.at? source.toList e.position.offset.toNat = some l := by
  have hinside := offset_lt_of_tokenize h
  rw [← Option.ne_none_iff_exists', Ne, SourceLine.at?_eq_none_iff]
  omega

/-- The picture of an error keeps to its five lines, in a file whose name is one line, unless the
text at fault is a colour that runs over the end of a line or a string that escapes the end of one:
the tip repeats that text as it is, and its line feeds split the header. -/
theorem render_fiveLines_iff {source : String} {file : Option String} {e : LexError}
    (h : tokenize source file = some (.error e)) (hfile : '\n' ∉ (file.getD "shell").toList) :
    ∃ before text ts, source.toList = before ++ text ∧ Splits before text ts ∧
      Spoils text e.fault ∧ e.position.file = file.getD "shell" ∧
      (e.render source).toList.count '\n' = 5 + e.fault.quoted.count '\n' ∧
      (FiveLines e (e.render source) ↔ '\n' ∉ e.fault.quoted) ∧
      ('\n' ∈ e.fault.quoted ↔
        (∃ tail, text = '#' :: tail ∧ '\n' ∈ tail.take 6) ∨ e.fault = .invalidEscape '\n') := by
  obtain ⟨before, text, ts, hsource, hsplits, hspoils, hposition⟩ := spoils_of_tokenize h
  obtain ⟨hoffset, hname⟩ := position_eq_iff.1 hposition
  rw [← hname] at hfile
  obtain ⟨l, hline⟩ := exists_line_of_tokenize h
  refine ⟨before, text, ts, hsource, hsplits, hspoils, hname, ?_,
    LexError.fiveLines_render_iff hline hfile, newline_mem_quoted_iff hspoils⟩
  have hlength := congrArg List.length (LexError.pieces_render hline hfile)
  simp only [length_pieces, List.length_append, LexError.count_newline_header, List.length_cons,
    List.length_nil] at hlength
  omega

theorem render_fiveLines_iff_second_line :
    ∃ e, tokenize "let x;\n\t#12G456" (some "a b.pix") = some (.error e) ∧
      '\n' ∉ ((some "a b.pix").getD "shell").toList ∧
      FiveLines e (e.render "let x;\n\t#12G456") := by
  have h : tokenize "let x;\n\t#12G456" (some "a b.pix") =
      some (.error ⟨.malformedColour .nonHexDigit "#12G456", 8, "a b.pix"⟩) := by cbv
  have hfile : '\n' ∉ ((some "a b.pix").getD "shell").toList := by decide
  obtain ⟨before, text, ts, -, -, -, -, -, hlines, -⟩ := render_fiveLines_iff h hfile
  exact ⟨_, h, hfile, hlines.2 (by decide)⟩

theorem render_splits_short_colour :
    ∃ e, tokenize "let c: colour = #12;\n" (some "main.pix") = some (.error e) ∧
      e.position.file = "main.pix" ∧ ¬ FiveLines e (e.render "let c: colour = #12;\n") := by
  have hline : SourceLine.at? "let c: colour = #12;\n".toList 16 =
      some ⟨1, "let c: colour = #12;\n".toList, 16⟩ := by cbv
  refine ⟨⟨.malformedColour .tooShort "#12;\n", 16, "main.pix"⟩, by cbv, rfl, ?_⟩
  rw [LexError.fiveLines_render_iff hline (by decide)]
  decide

end PixelScan
