import PixelScan.Proofs.Checked.Lookup

namespace PixelScan

variable {above body ending below : List Char} {source : String} {p q : Nat}

def lineFeeds (source : String) (n : Nat) : Nat := (source.toUTF8.data.toList.take n).count 10

theorem data_toUTF8 (source : String) :
    source.toUTF8.data.toList = source.toList.flatMap String.utf8EncodeChar := by
  have hbytes : source.toUTF8 = source.toList.utf8Encode := String.utf8Encode_toList.symm
  rw [hbytes, List.utf8Encode, List.data_toByteArray]

theorem length_bytes (cs : List Char) : (cs.flatMap String.utf8EncodeChar).length = byteLength cs := by
  induction cs with
  | nil => rfl
  | cons c cs ih =>
      rw [List.flatMap_cons, List.length_append, ih, byteLength_cons, String.length_utf8EncodeChar]

/-- No byte of another character looks like a line feed. -/
theorem newline_notMem_utf8EncodeChar {c : Char} (h : c ≠ '\n') :
    10 ∉ String.utf8EncodeChar c := by
  have hcode : c.val.toNat ≠ 10 := fun hc => h (Char.toNat_inj.1 hc)
  simp only [String.utf8EncodeChar]
  generalize c.val.toNat = v at hcode ⊢
  split
  · simp [← UInt8.toNat_inj]
    omega
  · -- Every byte of a longer character is 128 or more.
    split
    · simp [← UInt8.toNat_inj]
      omega
    · split <;> simp [← UInt8.toNat_inj] <;> omega

theorem count_newline_bytes (cs : List Char) :
    (cs.flatMap String.utf8EncodeChar).count 10 = cs.count '\n' := by
  induction cs with
  | nil => rfl
  | cons c cs ih =>
      rw [List.flatMap_cons, List.count_append, ih]
      by_cases hc : c = '\n'
      · subst hc
        rw [List.count_cons_self, Nat.add_comm]
        rfl
      · rw [List.count_eq_zero_of_not_mem (newline_notMem_utf8EncodeChar hc),
          List.count_cons_of_ne hc, Nat.zero_add]

theorem Encloses.lineFeeds_eq (h : Encloses source.toList p above body ending below) :
    lineFeeds source p = above.count '\n' := by
  obtain ⟨k, rfl⟩ := Nat.exists_eq_add_of_le h.start_le
  have hstop : k ≤ (body.flatMap String.utf8EncodeChar).length := by
    have := h.le_stop
    rw [length_bytes]
    omega
  -- Up to the place the line has no line feed, so those in front of it end the lines above.
  have hnone : ((body.flatMap String.utf8EncodeChar).take k).count 10 = 0 := by
    apply Nat.le_zero.1
    calc ((body.flatMap String.utf8EncodeChar).take k).count 10
        ≤ (body.flatMap String.utf8EncodeChar).count 10 := (List.take_sublist _ _).count_le 10
      _ = 0 := by rw [count_newline_bytes, List.count_eq_zero_of_not_mem h.notMem]
  rw [lineFeeds, data_toUTF8, h.text_eq, List.flatMap_append, List.flatMap_append, ← length_bytes,
    List.take_length_add_append, List.take_append_of_le_length hstop, List.count_append, hnone,
    count_newline_bytes, Nat.add_zero]

theorem lineFeeds_le (source : String) (h : p ≤ q) : lineFeeds source p ≤ lineFeeds source q :=
  (List.take_sublist_take_left h).count_le 10

theorem Encloses.exists_lines (h : Encloses source.toList p above body ending below) :
    ∃ ls rest, lines source.toList = ls ++ (body ++ ending) :: rest ∧ ls.flatten = above ∧
      ls.length = above.count '\n' := by
  obtain ⟨rest, hline⟩ : ∃ rest, lines (body ++ (ending ++ below)) = (body ++ ending) :: rest := by
    rcases h.ended with rfl | ⟨rfl, rfl⟩
    · exact ⟨lines below, lines_append_newline h.notMem below⟩
    · exact ⟨[], by simpa using lines_of_notMem h.notMem⟩
  obtain ⟨ls, hlines, hflatten, hlength⟩ := lines_append_of_closed h.closed (body ++ (ending ++ below))
  exact ⟨ls, rest, by rw [h.text_eq, hlines, hline], hflatten, hlength⟩

namespace SourceLine

variable {l m : SourceLine}

/-- The line of a place. Its number is the line feeds in front of the place and one, and its column
the bytes between its start and the place. -/
def IsAt (source : String) (p : Nat) (l : SourceLine) : Prop :=
  ∃ above body ending below, Encloses source.toList p above body ending below ∧
    l = ⟨1 + lineFeeds source p, body ++ ending, p - byteLength above⟩

def Precedes (l m : SourceLine) : Prop :=
  l.number < m.number ∨ l.number = m.number ∧ l.column < m.column

theorem at?_of_isAt (h : IsAt source p l) : at? source.toList p = some l := by
  obtain ⟨above, body, ending, below, henc, rfl⟩ := h
  rw [henc.at?_eq, henc.lineFeeds_eq]

theorem exists_isAt (h : p ≤ byteLength source.toList) : ∃ l, IsAt source p l := by
  obtain ⟨above, body, ending, below, henc⟩ := exists_encloses h
  exact ⟨_, above, body, ending, below, henc, rfl⟩

theorem at?_eq_some_iff : at? source.toList p = some l ↔ IsAt source p l := by
  constructor
  · intro h
    have hinside : p ≤ byteLength source.toList := by
      apply Nat.le_of_not_lt
      intro hpast
      rw [(at?_eq_none_iff source.toList p).2 hpast] at h
      cases h
    obtain ⟨m, hm⟩ := exists_isAt hinside
    have hsame := (at?_of_isAt hm).symm.trans h
    cases hsame
    exact hm
  · exact at?_of_isAt

theorem IsAt.offset_eq (h : IsAt source p l) :
    (lines source.toList)[l.number - 1]? = some l.text ∧
      byteLength ((lines source.toList).take (l.number - 1)).flatten + l.column = p := by
  obtain ⟨above, body, ending, below, henc, rfl⟩ := h
  obtain ⟨ls, rest, hlines, hflatten, hlength⟩ := henc.exists_lines
  have hnumber : 1 + lineFeeds source p - 1 = ls.length := by
    rw [henc.lineFeeds_eq, hlength, Nat.add_sub_cancel_left]
  simp only [hnumber, hlines]
  constructor
  · simp
  · rw [List.take_left, hflatten]
    exact Nat.add_sub_cancel' henc.start_le

theorem IsAt.number_eq (h : IsAt source p l) : l.number = 1 + lineFeeds source p := by
  obtain ⟨above, body, ending, below, -, rfl⟩ := h
  rfl

theorem IsAt.precedes (hl : IsAt source p l) (hm : IsAt source q m) (h : p < q) :
    l.Precedes m := by
  have hfeeds := lineFeeds_le source (Nat.le_of_lt h)
  have hnumbers : l.number ≤ m.number := by
    rw [hl.number_eq, hm.number_eq]
    omega
  rcases Nat.lt_or_eq_of_le hnumbers with hless | hsame
  · exact .inl hless
  · have hp := hl.offset_eq.2
    have hq := hm.offset_eq.2
    rw [hsame] at hp
    exact .inr ⟨hsame, by omega⟩

/-- Every place in a text has a line, the place behind the last byte too, and no other place has one.
Lines and columns tell places apart, in the order of the places. The loop of the machine over the
lines finds the same. -/
theorem at?_finds_line (source : String) (p : Nat) :
    (at? source.toList p = none ↔ source.utf8ByteSize < p) ∧
    (∀ l, at? source.toList p = some l ↔ IsAt source p l) ∧
    (∀ l, at? source.toList p = some l →
      (lines source.toList)[l.number - 1]? = some l.text ∧
      byteLength ((lines source.toList).take (l.number - 1)).flatten + l.column = p ∧
      ∀ q m, p < q → at? source.toList q = some m → l.Precedes m) ∧
    (source.utf8ByteSize ≤ maxBytes →
      Checked.lineAt? source.toList p = some (at? source.toList p)) := by
  rw [← byteLength_toList]
  refine ⟨at?_eq_none_iff source.toList p, fun l => at?_eq_some_iff, ?_, ?_⟩
  · intro l hfound
    have hl := at?_eq_some_iff.1 hfound
    obtain ⟨htext, hoffset⟩ := hl.offset_eq
    refine ⟨htext, hoffset, ?_⟩
    intro q m hpq hm
    exact hl.precedes (at?_eq_some_iff.1 hm) hpq
  · intro hsize
    exact Checked.lineAt?_eq hsize p

theorem at?_finds_line_behind_newline :
    ∃ l m, at? "日\n".toList 1 = some l ∧ at? "日\n".toList 4 = some m ∧ m = ⟨2, [], 0⟩ ∧
      byteLength ((lines "日\n".toList).take (m.number - 1)).flatten = 4 ∧ l.Precedes m ∧
      Checked.lineAt? "日\n".toList 4 = some (some m) := by
  obtain ⟨l, hl⟩ : ∃ l, at? "日\n".toList 1 = some l := ⟨_, rfl⟩
  have hm : at? "日\n".toList 4 = some ⟨2, [], 0⟩ := rfl
  obtain ⟨-, -, hbefore, -⟩ := at?_finds_line "日\n" 1
  obtain ⟨-, -, hend, hchecked⟩ := at?_finds_line "日\n" 4
  refine ⟨l, _, hl, hm, rfl, (hend _ hm).2.1, (hbefore l hl).2.2 4 _ (by decide) hm, ?_⟩
  rw [hchecked (by decide), hm]

end SourceLine

end PixelScan
