import Mathlib
import PixelScan.Diagnostic
import PixelScan.Proofs.Acceptance
import PixelScan.Proofs.Lines
import PixelScan.Text.Digits
import PixelScan.Text.Pieces

namespace PixelScan

open Alphabet Grammar

section Trimming

variable {c : Char} {x y head tail : List Char}

def White (cs : List Char) : Prop := ∀ c ∈ cs, isWhiteSpace c = true

theorem white_append_iff : White (x ++ y) ↔ White x ∧ White y := by
  simp [White, or_imp, forall_and]

theorem white_cons_iff : White (c :: x) ↔ isWhiteSpace c = true ∧ White x := List.forall_mem_cons

theorem white_singleton_iff : White [c] ↔ isWhiteSpace c = true := List.forall_mem_singleton

theorem white_reverse_iff : White x.reverse ↔ White x := by simp [White]

theorem trimStart_eq_nil_iff : trimStart x = [] ↔ White x := List.dropWhile_eq_nil_iff

theorem trimStart_append_of_white (h : White x) : trimStart (x ++ y) = trimStart y :=
  List.dropWhile_append_of_pos h

theorem trimStart_append_of_not_white (h : ¬ White x) : trimStart (x ++ y) = trimStart x ++ y := by
  rw [← trimStart_eq_nil_iff, trimStart] at h
  rw [trimStart, List.dropWhile_append, if_neg (mt List.isEmpty_iff.1 h)]
  rfl

theorem takeWhile_append_of_not_white (h : ¬ White x) :
    (x ++ y).takeWhile isWhiteSpace = x.takeWhile isWhiteSpace := by
  rw [List.takeWhile_append, if_neg]
  intro hlength
  apply h
  have hall : x.takeWhile isWhiteSpace = x := (List.takeWhile_prefix _).eq_of_length hlength
  exact List.takeWhile_eq_self_iff.1 hall

theorem trimEnd_append_of_white (h : White y) : trimEnd (x ++ y) = trimEnd x := by
  rw [trimEnd, List.reverse_append]
  exact congrArg List.reverse (trimStart_append_of_white (white_reverse_iff.2 h))

theorem trimEnd_append_of_not_white (h : ¬ White y) : trimEnd (x ++ y) = x ++ trimEnd y := by
  have hy : ¬ White y.reverse := mt white_reverse_iff.1 h
  have hdrop := trimStart_append_of_not_white (y := x.reverse) hy
  rw [trimEnd, List.reverse_append]
  exact (congrArg List.reverse hdrop).trans (by simp [trimEnd, trimStart])

theorem trim_append_of_white (h : White y) :
    trimEnd (trimStart (x ++ y)) = trimEnd (trimStart x) := by
  by_cases hx : White x
  · rw [trimStart_append_of_white hx, trimStart_eq_nil_iff.2 hx, trimStart_eq_nil_iff.2 h]
  · rw [trimStart_append_of_not_white hx, trimEnd_append_of_white h]

theorem trimEnd_prefix_self (x : List Char) : trimEnd x <+: x :=
  List.rdropWhile_prefix isWhiteSpace x

theorem trimStart_cons_of_not_white (h : isWhiteSpace c = false) :
    trimStart (c :: tail) = c :: tail := by
  rw [trimStart, List.dropWhile_cons, if_neg (by simp [h])]

theorem mem_of_mem_trim (h : c ∈ trimEnd (trimStart x)) : c ∈ x :=
  (List.dropWhile_sublist isWhiteSpace).subset ((trimEnd_prefix_self _).subset h)

theorem not_white_of_trimmed_head (h : (trimEnd (trimStart x))[0]? = some c) :
    isWhiteSpace c = false := by
  obtain ⟨rest, hrest⟩ := trimEnd_prefix_self (trimStart x)
  have hhead : (trimStart x).head? = some c := by
    rw [← hrest, List.head?_append, List.head?_eq_getElem?, h]
    rfl
  have hnot := List.head?_dropWhile_not isWhiteSpace x
  rw [trimStart] at hhead
  rwa [hhead] at hnot

theorem getElem?_trimEnd (x : List Char) (c : Char) (tail : List Char) :
    (trimEnd (x ++ c :: tail))[x.length]? = some c ↔ ¬ White (c :: tail) := by
  by_cases hwhite : White (c :: tail)
  · have hlength := (trimEnd_prefix_self x).length_le
    rw [trimEnd_append_of_white hwhite, List.getElem?_eq_none hlength]
    simp [hwhite]
  · obtain ⟨rest, hrest⟩ : ∃ rest, trimEnd (c :: tail) = c :: rest := by
      by_cases htail : White tail
      · have hc : isWhiteSpace c = false := by simpa [white_cons_iff, htail] using hwhite
        refine ⟨[], ?_⟩
        rw [← List.singleton_append, trimEnd_append_of_white htail]
        simp [trimEnd, hc]
      · exact ⟨trimEnd tail, trimEnd_append_of_not_white (x := [c]) htail⟩
    simp [trimEnd_append_of_not_white hwhite, hrest, hwhite]

end Trimming

def pointedAt? (picture : String) : Option Char :=
  match (pieces '\n' picture.toList).reverse with
  | _ :: caret :: text :: _ => text[caret.idxOf '^']?
  | _ => none

namespace SourceLine

variable {l : SourceLine} {c : Char} {head tail : List Char}

def printed (l : SourceLine) : List Char := trimEnd (trimStart l.text)

theorem caretColumn_eq (htext : l.text = head ++ c :: tail) (hcolumn : l.column = byteLength head) :
    l.caretColumn = (trimStart head).length := by
  by_cases hhead : White head
  · have hindent : l.text.takeWhile isWhiteSpace = head ++ (c :: tail).takeWhile isWhiteSpace := by
      rw [htext, List.takeWhile_append_of_pos hhead]
    rw [trimStart_eq_nil_iff.2 hhead, caretColumn]
    simp only [hindent, hcolumn, byteLength_append]
    split
    · rw [Nat.sub_eq_zero_of_le (Nat.le_add_right _ _), dropBytes?_zero]
      simp
    · rfl
  · -- The indentation ends in front of the place, so what was printed up to it is the rest.
    have hsplit : head.takeWhile isWhiteSpace ++ trimStart head = head :=
      List.takeWhile_append_dropWhile
    have hprinted : l.text.dropWhile isWhiteSpace = trimStart head ++ c :: tail :=
      htext ▸ trimStart_append_of_not_white hhead
    have hindent : l.text.takeWhile isWhiteSpace = head.takeWhile isWhiteSpace :=
      htext ▸ takeWhile_append_of_not_white hhead
    have hplace : byteLength head =
        byteLength (head.takeWhile isWhiteSpace) + byteLength (trimStart head) := by
      rw [← byteLength_append, hsplit]
    rw [caretColumn]
    simp only [hindent, hprinted, hcolumn, hplace]
    rw [if_pos (Nat.le_add_right _ _), Nat.add_sub_cancel_left, dropBytes?_byteLength_append]
    simp

/-- The caret stands under the character at its place, unless that is trimmed away on one side. -/
theorem printed_caretColumn_iff (htext : l.text = head ++ c :: tail)
    (hcolumn : l.column = byteLength head) :
    l.printed[l.caretColumn]? = some c ↔ ¬ White (head ++ [c]) ∧ ¬ White (c :: tail) := by
  rw [caretColumn_eq htext hcolumn, printed, htext]
  by_cases hstart : White (head ++ [c])
  · obtain ⟨hhead, hc⟩ := white_append_iff.1 hstart
    rw [trimStart_eq_nil_iff.2 hhead]
    constructor
    · intro h
      have := not_white_of_trimmed_head h
      simp [white_singleton_iff, this] at hc
    · rintro ⟨h, -⟩
      exact absurd hstart h
  · have hkept : trimStart (head ++ c :: tail) = trimStart head ++ c :: tail := by
      by_cases hhead : White head
      · have hc : isWhiteSpace c = false := by
          simpa [white_append_iff, white_singleton_iff, hhead] using hstart
        rw [trimStart_append_of_white hhead, trimStart_eq_nil_iff.2 hhead,
          trimStart_cons_of_not_white hc, List.nil_append]
      · exact trimStart_append_of_not_white hhead
    rw [hkept, getElem?_trimEnd]
    simp [hstart]

def margin (l : SourceLine) : Nat := (toString l.number).length + 3

theorem toList_excerpt_text (l : SourceLine) :
    ∃ m, l.excerpt.text.toList = m ++ l.printed ∧ m.length = l.margin ∧ '\n' ∉ m := by
  refine ⟨(toString l.number).toList ++ [' ', '|', ' '], ?_, ?_, ?_⟩
  · simp [excerpt, printed]
  · rw [List.length_append, String.length_toList]
    rfl
  · simpa using notMem_number (c := '\n') (by simp) l.number

theorem toList_excerpt_caret (l : SourceLine) :
    ∃ m, l.excerpt.caret.toList = m ++ ['^'] ∧ m.length = l.margin + l.caretColumn ∧
      '\n' ∉ m ∧ '^' ∉ m := by
  refine ⟨List.replicate ((toString l.number).length + 1) ' ' ++ ['|', ' '] ++
    List.replicate l.caretColumn '-', ?_, ?_, ?_, ?_⟩
  · simp [excerpt]
  · simp [margin]
    omega
  · simp
  · simp

end SourceLine

theorem pieces_reverse_of_two_lines {above text caret : List Char} (htext : '\n' ∉ text)
    (hcaret : '\n' ∉ caret) :
    ∃ rest, (pieces '\n' (above ++ '\n' :: (text ++ '\n' :: (caret ++ ['\n'])))).reverse =
      [] :: caret :: text :: rest := by
  refine ⟨(pieces '\n' above).reverse, ?_⟩
  simp only [pieces_append_separator, pieces_of_notMem htext, pieces_of_notMem hcaret]
  simp [pieces]

def Excerpt.picture (x : Excerpt) (header file : String) : String :=
  header ++ "\n-> " ++ file ++ "\n" ++ x.gutter ++ "\n" ++ x.text ++ "\n" ++ x.caret ++ "\n"

theorem LexError.render_eq_picture {e : LexError} {source : String} {l : SourceLine}
    (hline : SourceLine.at? source.toList e.position.offset.toNat = some l) :
    e.render source = l.excerpt.picture e.header e.position.file := by
  simp [render, hline, Excerpt.picture, String.append_assoc]

theorem LexError.toList_render {e : LexError} {source : String} {l : SourceLine}
    (hline : SourceLine.at? source.toList e.position.offset.toNat = some l) :
    (e.render source).toList =
      e.header.toList ++ '\n' :: ("-> ".toList ++ e.position.file.toList ++
        '\n' :: l.excerpt.gutter.toList) ++
      '\n' :: (l.excerpt.text.toList ++ '\n' :: (l.excerpt.caret.toList ++ ['\n'])) := by
  simp [render_eq_picture hline, Excerpt.picture]

theorem LexError.pointedAt?_render {e : LexError} {source : String} {l : SourceLine}
    (hline : SourceLine.at? source.toList e.position.offset.toNat = some l)
    (hprinted : '\n' ∉ l.printed) :
    pointedAt? (e.render source) = l.printed[l.caretColumn]? := by
  obtain ⟨m, htext, hm, hnumber⟩ := l.toList_excerpt_text
  obtain ⟨p, hcaret, hp, hdashes, hmark⟩ := l.toList_excerpt_caret
  have htextline : '\n' ∉ l.excerpt.text.toList := by simp [htext, hnumber, hprinted]
  have hcaretline : '\n' ∉ l.excerpt.caret.toList := by simp [hcaret, hdashes]
  obtain ⟨rest, hpieces⟩ := pieces_reverse_of_two_lines htextline hcaretline
  rw [pointedAt?, LexError.toList_render hline, hpieces]
  simp only [hcaret, htext]
  rw [List.idxOf_append_of_notMem hmark, List.idxOf_cons_self, hp, Nat.add_zero, ← hm,
    List.getElem?_append_right (Nat.le_add_right _ _), Nat.add_sub_cancel_left]

def lineRest (text : List Char) : List Char := text.takeWhile (· ≠ '\n')

theorem newline_notMem_lineRest (text : List Char) : '\n' ∉ lineRest text := by
  intro h
  simpa using List.mem_takeWhile_imp h

theorem exists_lineRest (text : List Char) :
    ∃ rest, text = lineRest text ++ rest ∧ ∀ c, rest.head? = some c → c = '\n' := by
  refine ⟨text.dropWhile (· ≠ '\n'), List.takeWhile_append_dropWhile.symm, ?_⟩
  intro c hc
  have hnot := List.head?_dropWhile_not (· ≠ '\n') text
  rw [hc] at hnot
  simpa using hnot

theorem lineRest_reverse {before head : List Char} (hbefore : Closed before) (hhead : '\n' ∉ head) :
    lineRest (before ++ head).reverse = head.reverse := by
  have hclosed : before.reverse.takeWhile (· ≠ '\n') = [] := by
    have hlast := hbefore.getLast?
    rw [← List.head?_reverse] at hlast
    cases h : before.reverse with
    | nil => rfl
    | cons c rest => simp [hlast c (by rw [h]; rfl)]
  rw [lineRest, List.reverse_append, List.takeWhile_append_of_pos, hclosed, List.append_nil]
  intro c hc
  have hne : c ≠ '\n' := by
    rintro rfl
    exact hhead (List.mem_reverse.1 hc)
  simpa using hne

/-- Nothing but white space stands between a character and the line feed, or the end of the text, on
one side of it. -/
def Trimmed (before : List Char) (c : Char) (after : List Char) : Prop :=
  White (c :: lineRest before.reverse) ∨ White (c :: lineRest after)

theorem white_of_head?_newline {rest : List Char} (h : ∀ c, rest.head? = some c → c = '\n') :
    White (rest.take 1) := by
  cases rest with
  | nil => simp [White]
  | cons c rest =>
      obtain rfl := h c rfl
      have hnewline : isWhiteSpace '\n' = true := isWhiteSpace_of_isBlank rfl
      simpa [White] using hnewline

theorem SourceLine.at?_of_char (before : List Char) {c : Char} (hc : c ≠ '\n')
    (after : List Char) :
    ∃ l head tail, at? (before ++ c :: after) (byteLength before) = some l ∧
      l.text = head ++ c :: tail ∧ l.column = byteLength head ∧ '\n' ∉ l.printed ∧
      (White (head ++ [c]) ↔ White (c :: lineRest before.reverse)) ∧
      (White (c :: tail) ↔ White (c :: lineRest after)) := by
  obtain ⟨above, head, rfl, habove, hhead⟩ := exists_closed before
  obtain ⟨below, hafter, hbelow⟩ := exists_lineRest after
  have hwhite := white_of_head?_newline hbelow
  have hline : '\n' ∉ head ++ c :: lineRest after := by
    simp [hhead, hc.symm, newline_notMem_lineRest]
  have hsource : above ++ head ++ c :: after = above ++ (head ++ c :: lineRest after ++ below) := by
    conv_lhs => rw [hafter]
    simp
  refine ⟨⟨1 + above.count '\n', head ++ c :: lineRest after ++ below.take 1, byteLength head⟩,
    head, lineRest after ++ below.take 1, ?_, ?_, rfl, ?_, ?_, ?_⟩
  · rw [hsource, byteLength_append]
    refine at?_of_line habove hline hbelow ?_
    rw [byteLength_append]
    exact Nat.le_add_right _ _
  · simp
  · rw [printed, trim_append_of_white hwhite]
    exact mt mem_of_mem_trim hline
  · rw [lineRest_reverse habove hhead, ← white_reverse_iff]
    simp
  · rw [← List.cons_append, white_append_iff]
    simp [hwhite]

theorem not_white_of_digit {c : Char} (h : Digit c) : isWhiteSpace c = false := by
  obtain ⟨hlow, hhigh⟩ := h
  have hlow : 48 ≤ c.toNat := hlow
  have hhigh : c.toNat ≤ 57 := hhigh
  rw [Bool.eq_false_iff]
  intro hwhite
  obtain ⟨r, hr, hbounds⟩ := CodeRanges.contains_iff.1 hwhite
  simp only [whiteSpaceRanges, List.mem_cons, List.not_mem_nil, or_false] at hr
  rcases hr with rfl | rfl | rfl | rfl | rfl | rfl | rfl | rfl | rfl | rfl <;> omega

/-- White space is at fault by itself, never as the beginning of something else. -/
theorem unexpected_of_white {c : Char} {tail : List Char} {fault : Fault}
    (h : Spoils (c :: tail) fault) (hc : isWhiteSpace c = true) :
    fault = .unexpectedCharacter c := by
  rcases classify_of_spoils h with ⟨-, hfault⟩ | ⟨hk, -⟩
  · exact hfault
  · have hclass := ofClass_classify c
    cases hkind : classify c with
    | digit =>
        rw [hkind] at hclass
        simp [not_white_of_digit hclass] at hc
    | hash | quote =>
        rw [hkind] at hclass
        obtain rfl := hclass
        exact absurd hc (by decide)
    | _ => simp [hkind] at hk

/-- The picture of an error marks the character that the scan failed at, unless that is cut off with
white space at an end of its line. What is cut off so is an unexpected character. -/
theorem render_points_at {source : String} {file : Option String} {e : LexError}
    (h : tokenize source file = some (.error e)) :
    ∃ before c after ts, source.toList = before ++ c :: after ∧
      Splits before (c :: after) ts ∧ Spoils (c :: after) e.fault ∧
      e.position.offset.toNat = byteLength before % UInt32.size ∧
      (Trimmed before c after → e.fault = .unexpectedCharacter c) ∧
      (byteLength before < UInt32.size →
        (pointedAt? (e.render source) = some c ↔ ¬ Trimmed before c after)) := by
  obtain ⟨before, b, ts, hsource, hsplits, hspoils, hposition⟩ := spoils_of_tokenize h
  obtain ⟨c, after, rfl, -⟩ := hspoils.exists_cons
  obtain ⟨hoffset, -⟩ := position_eq_iff.1 hposition
  refine ⟨before, c, after, ts, hsource, hsplits, hspoils, hoffset, ?_, ?_⟩
  · intro htrimmed
    apply unexpected_of_white hspoils
    rcases htrimmed with hwhite | hwhite <;> exact (white_cons_iff.1 hwhite).1
  · intro hsmall
    have hc : c ≠ '\n' := by
      rintro rfl
      exact hspoils.head_not_blank (by decide)
    obtain ⟨l, head, tail, hline, htext, hcolumn, hprinted, hstart, hend⟩ :=
      SourceLine.at?_of_char before hc after
    rw [Nat.mod_eq_of_lt hsmall] at hoffset
    rw [← hsource, ← hoffset] at hline
    rw [LexError.pointedAt?_render hline hprinted,
      SourceLine.printed_caretColumn_iff htext hcolumn, hstart, hend, Trimmed, not_or]

theorem render_points_at_tab_indented :
    tokenize "\n\t\"日\" @" none =
        some (.error ⟨.unexpectedCharacter '@', 8, "shell"⟩) ∧
      pointedAt? (LexError.render ⟨.unexpectedCharacter '@', 8, "shell"⟩ "\n\t\"日\" @") =
        some '@' := by
  have h : tokenize "\n\t\"日\" @" none =
      some (.error ⟨.unexpectedCharacter '@', 8, "shell"⟩) := by cbv
  obtain ⟨before, c, after, ts, hsource, -, hspoils, -, -, hpoints⟩ := render_points_at h
  obtain rfl : c = '@' := by
    rcases classify_of_spoils hspoils with ⟨-, hfault⟩ | ⟨-, hother⟩
    · cases hfault
      rfl
    · exact absurd rfl (hother '@')
  have hlength := congrArg byteLength hsource
  have hsmall : byteLength before < UInt32.size := by
    rw [byteLength_append, show byteLength "\n\t\"日\" @".toList = 9 by decide] at hlength
    have : 9 < UInt32.size := by decide
    omega
  refine ⟨h, (hpoints hsmall).2 ?_⟩
  rintro (hwhite | hwhite) <;> exact absurd (hwhite '@' (by simp)) (by decide)

theorem render_loses_no_break_space :
    ∃ e, tokenize "\u00a0@" none = some (.error e) ∧ e.fault = .unexpectedCharacter '\u00a0' ∧
      e.position.offset = 0 ∧ pointedAt? (e.render "\u00a0@") = some '@' := by
  refine ⟨⟨.unexpectedCharacter '\u00a0', 0, "shell"⟩, ?_, rfl, rfl, ?_⟩
  · cbv
  · cbv

end PixelScan
