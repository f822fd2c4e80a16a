import PixelScan.SourceLine

namespace PixelScan

variable {text above body ending below line before after x : List Char} {n k p : Nat}

inductive Closed : List Char → Prop
  | nil : Closed []
  | line {l before} : '\n' ∉ l → Closed before → Closed (l ++ '\n' :: before)

theorem exists_closed (text : List Char) :
    ∃ before line, text = before ++ line ∧ Closed before ∧ '\n' ∉ line := by
  induction text with
  | nil => exact ⟨[], [], rfl, .nil, by simp⟩
  | cons c text ih =>
      obtain ⟨before, line, rfl, hbefore, hline⟩ := ih
      by_cases hc : c = '\n'
      · subst hc
        exact ⟨'\n' :: before, line, rfl, .line (l := []) (by simp) hbefore, hline⟩
      · cases hbefore with
        | nil => exact ⟨[], c :: line, rfl, .nil, by simp [hline, Ne.symm hc]⟩
        | @line l before hl hbefore =>
            have hcl : '\n' ∉ c :: l := by simp [hl, Ne.symm hc]
            exact ⟨c :: l ++ '\n' :: before, line, by simp, .line hcl hbefore, hline⟩

theorem Closed.getLast? {before : List Char} (h : Closed before) :
    ∀ c, before.getLast? = some c → c = '\n' := by
  induction h with
  | nil => simp
  | @line l before _ _ ih =>
      intro c hc
      rw [List.getLast?_append, List.getLast?_cons] at hc
      cases hlast : before.getLast? with
      | none => simpa [hlast, eq_comm] using hc
      | some d => simpa [hlast, ih d hlast, eq_comm] using hc

theorem byteLength_append_newline (l : List Char) : byteLength (l ++ ['\n']) = byteLength l + 1 :=
  byteLength_append l ['\n']

theorem byteLength_line (l before : List Char) :
    byteLength (l ++ '\n' :: before) = byteLength (l ++ ['\n']) + byteLength before := by
  rw [← byteLength_append, List.append_assoc, List.singleton_append]

theorem count_newline_line {l : List Char} (h : '\n' ∉ l) (before : List Char) :
    (l ++ '\n' :: before).count '\n' = before.count '\n' + 1 := by
  rw [List.count_append, List.count_eq_zero_of_not_mem h, List.count_cons_self, Nat.zero_add]

theorem lines_of_notMem (h : '\n' ∉ line) : lines line = [line] := by
  induction line with
  | nil => rfl
  | cons c line ih =>
      rw [List.mem_cons, not_or] at h
      rw [lines, if_neg (Ne.symm h.1), ih h.2]

theorem lines_append_newline (h : '\n' ∉ line) (after : List Char) :
    lines (line ++ '\n' :: after) = (line ++ ['\n']) :: lines after := by
  induction line with
  | nil => simp [lines]
  | cons c line ih =>
      rw [List.mem_cons, not_or] at h
      rw [List.cons_append, lines, if_neg (Ne.symm h.1), ih h.2]
      rfl

theorem exists_of_mem_lines {text : List Char} (h : line ∈ lines text) :
    ∃ x ending, line = x ++ ending ∧ '\n' ∉ x ∧ (ending = [] ∨ ending = ['\n']) := by
  obtain ⟨before, rest, rfl, hbefore, hrest⟩ := exists_closed text
  induction hbefore with
  | nil =>
      rw [List.nil_append, lines_of_notMem hrest, List.mem_singleton] at h
      exact ⟨rest, [], by simp [h], hrest, .inl rfl⟩
  | @line l before hl _ ih =>
      rw [List.append_assoc, List.cons_append, lines_append_newline hl] at h
      rcases List.mem_cons.1 h with rfl | h
      · exact ⟨l, ['\n'], rfl, hl, .inr rfl⟩
      · exact ih h

theorem lines_append_of_closed (h : Closed before) (x : List Char) :
    ∃ ls, lines (before ++ x) = ls ++ lines x ∧ ls.flatten = before ∧
      ls.length = before.count '\n' := by
  induction h with
  | nil => exact ⟨[], rfl, rfl, rfl⟩
  | @line l before hl _ ih =>
      obtain ⟨ls, hlines, hflatten, hlength⟩ := ih
      refine ⟨(l ++ ['\n']) :: ls, ?_, by simp [hflatten], ?_⟩
      · rw [List.append_assoc, List.cons_append, lines_append_newline hl, hlines, List.cons_append]
      · rw [List.length_cons, hlength, count_newline_line hl]

/-- The line that a byte of a text lies in, with the text above it and below it. It begins behind a
line feed, if not with the text, and it ends with the first line feed that is not in front of the
byte, if not with the text. The byte may be the one that would follow the last. -/
structure Encloses (text : List Char) (p : Nat) (above body ending below : List Char) : Prop where
  text_eq : text = above ++ (body ++ (ending ++ below))
  closed : Closed above
  notMem : '\n' ∉ body
  ended : ending = ['\n'] ∨ ending = [] ∧ below = []
  start_le : byteLength above ≤ p
  le_stop : p ≤ byteLength above + byteLength body

theorem Encloses.below_line {l : List Char} (hl : '\n' ∉ l)
    (h : Encloses text p above body ending below) :
    Encloses (l ++ '\n' :: text) (byteLength (l ++ ['\n']) + p) (l ++ '\n' :: above) body ending
      below where
  text_eq := by simp [h.text_eq]
  closed := .line hl h.closed
  notMem := h.notMem
  ended := h.ended
  start_le := by
    rw [byteLength_line l above]
    exact Nat.add_le_add_left h.start_le _
  le_stop := by
    rw [byteLength_line l above, Nat.add_assoc]
    exact Nat.add_le_add_left h.le_stop _

theorem exists_encloses (h : p ≤ byteLength text) :
    ∃ above body ending below, Encloses text p above body ending below := by
  obtain ⟨before, line, rfl, hbefore, hline⟩ := exists_closed text
  induction hbefore generalizing p with
  | nil =>
      have hp : p ≤ byteLength line := by simpa using h
      exact ⟨[], line, [], [], by simp, .nil, hline, .inr ⟨rfl, rfl⟩, by simp, by simpa using hp⟩
  | @line l before hl _ ih =>
      have htext : l ++ '\n' :: before ++ line = l ++ '\n' :: (before ++ line) := by simp
      rw [htext] at h ⊢
      by_cases hp : p ≤ byteLength l
      · exact ⟨[], l, ['\n'], before ++ line, by simp, .nil, hl, .inl rfl, by simp, by simpa using hp⟩
      · -- The line feed that ends the first line is one byte, so the place lies behind it.
        have hnewline := byteLength_append_newline l
        rw [byteLength_line] at h
        obtain ⟨q, rfl⟩ : ∃ q, p = byteLength (l ++ ['\n']) + q :=
          Nat.exists_eq_add_of_le (by omega)
        obtain ⟨above, body, ending, below, henc⟩ := ih (p := q) (by omega)
        exact ⟨_, body, ending, below, henc.below_line hl⟩

namespace SourceLine

theorem text_mem_of_locate? {ls : List (List Char)} {l : SourceLine}
    (h : locate? n ls k = some l) : l.text ∈ ls := by
  fun_induction locate? n ls k with
  | case1 => cases h
  | case2 | case4 =>
      cases h
      simp
  | case3 => cases h
  | case5 n line k rest _ _ ih => exact List.mem_cons_of_mem line (ih h)

theorem locate?_cons (line : List Char) {rest : List (List Char)} (hrest : rest ≠ []) :
    locate? n (line :: rest) k =
      if k < byteLength line then some ⟨n, line, k⟩
      else locate? (n + 1) rest (k - byteLength line) := by
  rw [locate?]
  exact hrest

theorem locate?_of_closed (h : Closed before) :
    locate? n (lines (before ++ x)) (byteLength before + k) =
      locate? (n + before.count '\n') (lines x) k := by
  induction h generalizing n with
  | nil => simp
  | @line l before hl _ ih =>
      have htext : l ++ '\n' :: before ++ x = l ++ '\n' :: (before ++ x) := by simp
      rw [htext, lines_append_newline hl, locate?_cons _ (lines_ne_nil _), byteLength_line,
        Nat.add_assoc, if_neg (by omega), Nat.add_sub_cancel_left, ih, count_newline_line hl,
        Nat.add_right_comm n 1, Nat.add_assoc]

/-- The line that is found is the one that the place lies in, with the line feed that ends it. -/
theorem at?_of_line (hbefore : Closed before) (hline : '\n' ∉ line)
    (hafter : ∀ c, after.head? = some c → c = '\n') (hk : k ≤ byteLength line) :
    at? (before ++ (line ++ after)) (byteLength before + k) =
      some ⟨1 + before.count '\n', line ++ after.take 1, k⟩ := by
  rw [at?, locate?_of_closed hbefore]
  cases after with
  | nil => simp [lines_of_notMem hline, locate?, hk]
  | cons c after =>
      obtain rfl : c = '\n' := hafter c rfl
      rw [lines_append_newline hline, locate?_cons _ (lines_ne_nil after), if_pos]
      · rfl
      · have := '\n'.utf8Size_pos
        rw [byteLength_append, byteLength_cons]
        omega

end SourceLine

theorem Encloses.at?_eq (h : Encloses text p above body ending below) :
    SourceLine.at? text p =
      some ⟨1 + above.count '\n', body ++ ending, p - byteLength above⟩ := by
  have hstart := h.start_le
  have hstop := h.le_stop
  obtain ⟨k, rfl⟩ : ∃ k, p = byteLength above + k := Nat.exists_eq_add_of_le hstart
  have hafter : ∀ c, (ending ++ below).head? = some c → c = '\n' := by
    rcases h.ended with rfl | ⟨rfl, rfl⟩ <;> simp [eq_comm]
  have htake : (ending ++ below).take 1 = ending := by
    rcases h.ended with rfl | ⟨rfl, rfl⟩ <;> rfl
  rw [h.text_eq, SourceLine.at?_of_line h.closed h.notMem hafter (by omega), htake,
    Nat.add_sub_cancel_left]

end PixelScan
