import PixelScan.Proofs.Checked.Agreement
import PixelScan.Proofs.Lines
import PixelScan.Text.Pieces

namespace PixelScan

/-! The lookup of a line once more, by a loop over the lines that keeps count in the arithmetic of a
64-bit machine. The place behind the last byte is no place of a line there and is found apart. -/

namespace Checked

def endedLines : List Char → List (List Char)
  | [] => []
  | c :: cs =>
    if c = '\n' then [c] :: endedLines cs
    else
      match endedLines cs with
      | [] => [[c]]
      | line :: rest => (c :: line) :: rest

/-- The line of a byte, or the number that a line behind the last would have. -/
def findLine? (pos : Nat) : List (List Char) → Nat → Nat → Option (SourceLine ⊕ Nat)
  | [], _, number => some (.inr number)
  | line :: rest, start, number => do
      let stop ← add? start (byteLength line)
      if start ≤ pos ∧ pos < stop then
        let column ← sub? pos start
        return .inl ⟨number, line, column⟩
      else
        let next ← add? number 1
        findLine? pos rest stop next

def lineAt? (text : List Char) (pos : Nat) : Option (Option SourceLine) := do
  if byteLength text < pos then
    return none
  else
    match ← findLine? pos (endedLines text) 0 1 with
    | .inl line => return some line
    | .inr number =>
      let last := (pieces '\n' text).getLast?.getD []
      let unended := text ≠ [] ∧ text.getLast? ≠ some '\n'
      let number ← if unended then sub? number 1 else some number
      return some ⟨number, last, byteLength last⟩

variable {text above body ending below line : List Char} {p start number : Nat}

theorem endedLines_of_notMem (h : '\n' ∉ line) (hne : line ≠ []) : endedLines line = [line] := by
  induction line with
  | nil => exact absurd rfl hne
  | cons c line ih =>
      rw [List.mem_cons, not_or] at h
      rw [endedLines, if_neg (Ne.symm h.1)]
      cases line with
      | nil => rfl
      | cons d line => rw [ih h.2 (List.cons_ne_nil d line)]

theorem endedLines_append_newline (h : '\n' ∉ line) (after : List Char) :
    endedLines (line ++ '\n' :: after) = (line ++ ['\n']) :: endedLines after := by
  induction line with
  | nil => simp [endedLines]
  | cons c line ih =>
      rw [List.mem_cons, not_or] at h
      rw [List.cons_append, endedLines, if_neg (Ne.symm h.1), ih h.2]
      rfl

theorem findLine?_found (lines : List (List Char)) (hstart : start ≤ p)
    (hstop : p < start + byteLength line) (hsize : start + byteLength line ≤ maxBytes) :
    findLine? p (line :: lines) start number = some (.inl ⟨number, line, p - start⟩) := by
  have hsum := add?_of_le (Nat.le_succ_of_le hsize)
  have hcolumn : sub? p start = some (p - start) := if_pos hstart
  simp [findLine?, hsum, hstart, hstop, hcolumn]

theorem findLine?_past (lines : List (List Char)) (hpast : start + byteLength line ≤ p)
    (hsize : start + byteLength line ≤ maxBytes) (hnumber : number ≤ maxBytes) :
    findLine? p (line :: lines) start number =
      findLine? p lines (start + byteLength line) (number + 1) := by
  have hsum := add?_of_le (Nat.le_succ_of_le hsize)
  have hnext : add? number 1 = some (number + 1) := add?_of_le (Nat.succ_le_succ hnumber)
  have hout : ¬ p < start + byteLength line := Nat.not_lt.2 hpast
  simp [findLine?, hsum, hout, hnext]

theorem findLine?_closed (h : Closed above) (hpast : start + byteLength above ≤ p)
    (hsize : start + byteLength above ≤ maxBytes) (hnumber : number ≤ start + 1) :
    findLine? p (endedLines (above ++ body)) start number =
      findLine? p (endedLines body) (start + byteLength above) (number + above.count '\n') := by
  induction h generalizing start number with
  | nil => simp
  | @line l above hl _ ih =>
      have hfirst : l ++ '\n' :: above ++ body = l ++ '\n' :: (above ++ body) := by simp
      have hnewline := byteLength_append_newline l
      rw [byteLength_line] at hpast hsize
      rw [hfirst, endedLines_append_newline hl, findLine?_past _ (by omega) (by omega) (by omega),
        ih (by omega) (by omega) (by omega), byteLength_line l above, count_newline_line hl]
      congr 1 <;> omega

theorem getLast?_pieces (h : Closed above) (hbody : '\n' ∉ body) :
    (pieces '\n' (above ++ body)).getLast? = some body := by
  induction h with
  | nil => rw [List.nil_append, pieces_of_notMem hbody, List.getLast?_singleton]
  | @line l above _ _ ih =>
      rw [List.append_assoc, List.cons_append, pieces_append_separator, List.getLast?_append, ih]
      rfl

theorem unended_iff (h : Closed above) (hbody : '\n' ∉ body) :
    (above ++ body ≠ [] ∧ (above ++ body).getLast? ≠ some '\n') ↔ body ≠ [] := by
  constructor
  · rintro ⟨hne, hlast⟩ rfl
    rw [List.append_nil] at hne hlast
    have hend := List.getLast?_eq_some_getLast hne
    exact hlast (h.getLast? _ hend ▸ hend)
  · intro hne
    refine ⟨List.append_ne_nil_of_right_ne_nil above hne, ?_⟩
    intro hlast
    have hend := List.getLast?_eq_some_getLast hne
    rw [List.getLast?_append, hend, Option.some_or] at hlast
    exact hbody (List.mem_of_getLast? (hend.trans hlast))

theorem lineAt?_of_found {l : SourceLine} (h : p ≤ byteLength text)
    (hfound : findLine? p (endedLines text) 0 1 = some (.inl l)) :
    lineAt? text p = some (some l) := by
  simp [lineAt?, Nat.not_lt.2 h, hfound]

/-- The loop counts a last line that no line feed ends, and it is counted back. -/
theorem lineAt?_of_past (h : Closed above) (hbody : '\n' ∉ body)
    (hp : p ≤ byteLength (above ++ body))
    (hpast : findLine? p (endedLines (above ++ body)) 0 1 =
      some (.inr (if body = [] then number else number + 1))) :
    lineAt? (above ++ body) p = some (some ⟨number, body, byteLength body⟩) := by
  rw [lineAt?, if_neg (Nat.not_lt.2 hp), hpast, Option.bind_eq_bind, Option.bind_some]
  simp only [unended_iff h hbody, getLast?_pieces h hbody]
  by_cases hne : body = []
  · simp [hne]
  · simp [hne, sub?]

theorem findLine?_of_encloses (h : Encloses text p above body ending below)
    (hsize : byteLength text ≤ maxBytes) :
    findLine? p (endedLines text) 0 1 =
      findLine? p (endedLines (body ++ (ending ++ below))) (byteLength above)
        (1 + above.count '\n') := by
  have hstart := h.start_le
  have habove : byteLength above ≤ byteLength text := by
    rw [h.text_eq, byteLength_append]
    exact Nat.le_add_right _ _
  rw [h.text_eq, findLine?_closed h.closed (by omega) (by omega) (by omega), Nat.zero_add]

theorem lineAt?_of_ended (h : Encloses text p above body ['\n'] below)
    (hsize : byteLength text ≤ maxBytes) :
    lineAt? text p = some (SourceLine.at? text p) := by
  have hstart := h.start_le
  have hstop := h.le_stop
  have htext : byteLength text =
      byteLength above + (byteLength (body ++ ['\n']) + byteLength below) := by
    rw [h.text_eq, ← List.append_assoc body, byteLength_append, byteLength_append]
  have hnewline := byteLength_append_newline body
  rw [h.at?_eq]
  apply lineAt?_of_found (by omega)
  rw [findLine?_of_encloses h hsize, List.singleton_append, endedLines_append_newline h.notMem,
    findLine?_found _ hstart (by omega) (by omega)]

theorem lineAt?_of_last (h : Encloses text p above body [] [])
    (hsize : byteLength text ≤ maxBytes) :
    lineAt? text p = some (SourceLine.at? text p) := by
  have hstart := h.start_le
  have hstop := h.le_stop
  have hloop := findLine?_of_encloses h hsize
  rw [h.at?_eq, List.append_nil]
  obtain rfl : text = above ++ body := by simpa using h.text_eq
  rw [List.append_nil, List.append_nil] at hloop
  have hp : p ≤ byteLength (above ++ body) := by rwa [byteLength_append]
  rw [byteLength_append] at hsize
  by_cases hlast : p < byteLength above + byteLength body
  · have hne : body ≠ [] := by
      rintro rfl
      rw [byteLength_nil] at hlast
      omega
    rw [endedLines_of_notMem h.notMem hne, findLine?_found _ hstart hlast hsize] at hloop
    exact lineAt?_of_found hp hloop
  · have hcolumn : p - byteLength above = byteLength body := by omega
    rw [hcolumn]
    apply lineAt?_of_past h.closed h.notMem hp
    by_cases hne : body = []
    · rw [hloop, hne, if_pos rfl]
      rfl
    · have hcount := List.count_le_length (a := '\n') (l := above)
      have hlength := length_le_byteLength above
      have hpos := byteLength_pos hne
      rw [hloop, endedLines_of_notMem h.notMem hne, if_neg hne,
        findLine?_past _ (by omega) hsize (by omega)]
      rfl

/-- The arithmetic of the machine suffices to find the line of any place in a text. -/
theorem lineAt?_eq (hsize : byteLength text ≤ maxBytes) (p : Nat) :
    lineAt? text p = some (SourceLine.at? text p) := by
  by_cases hp : p ≤ byteLength text
  · obtain ⟨above, body, ending, below, h⟩ := exists_encloses hp
    rcases h.ended with rfl | ⟨rfl, rfl⟩
    · exact lineAt?_of_ended h hsize
    · exact lineAt?_of_last h hsize
  · have hpast := Nat.lt_of_not_le hp
    simp [lineAt?, hpast, (SourceLine.at?_eq_none_iff text p).2 hpast]

end Checked

end PixelScan
