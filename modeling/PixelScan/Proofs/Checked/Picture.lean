import PixelScan.Diagnostic
import PixelScan.Proofs.Places

namespace PixelScan

/-! The picture of an error once more, by the slices and the sums of a 64-bit machine. -/

namespace Checked

def padLeft (width : Nat) (filler : Char) (text : String) : String :=
  String.ofList (List.replicate (width - text.length) filler) ++ text

/-- The slice up to the place may be out of range, and then it counts for nothing. -/
def render? (e : LexError) (source : String) : Option String := do
  let heading := e.header ++ "\n" ++ "-> " ++ e.position.file ++ "\n"
  match ← lineAt? source.toList e.position.offset.toNat with
  | none => return heading
  | some line =>
    let number := toString line.number
    let padding ← add? number.length 2
    let printed := trimStart line.text
    let indent ← sub? (byteLength line.text) (byteLength printed)
    let before := (slice? line.text indent line.column).map List.length
    let arrows ← add? (before.getD 0) 1
    let gutter := padLeft padding ' ' "|"
    let text := number ++ " | " ++ String.ofList (trimEnd printed)
    let caret := gutter ++ " " ++ padLeft arrows '-' "^"
    return heading ++ gutter ++ "\n" ++ text ++ "\n" ++ caret ++ "\n"

variable {e : LexError} {source : String} {p : Nat} {l : SourceLine} {cs : List Char}

theorem dropBytes?_add (before after : List Char) (n : Nat) :
    dropBytes? (byteLength before + n) (before ++ after) = dropBytes? n after := by
  induction before with
  | nil => simp
  | cons c cs ih =>
      have hpos := c.utf8Size_pos
      obtain ⟨m, hm⟩ : ∃ m, byteLength (c :: cs) + n = m + 1 :=
        ⟨byteLength (c :: cs) + n - 1, by simp; omega⟩
      have hsub : m + 1 - c.utf8Size = byteLength cs + n := by simp at hm; omega
      rw [hm, List.cons_append, dropBytes?, if_pos (by simp at hm; omega), hsub, ih]

theorem length_slice?_of_le {lead : List Char} {column : Nat} (h : byteLength lead ≤ column)
    (printed : List Char) :
    (slice? (lead ++ printed) (byteLength lead) column).map List.length =
      (dropBytes? (column - byteLength lead) printed).map (printed.length - ·.length) := by
  obtain ⟨n, rfl⟩ := Nat.exists_eq_add_of_le h
  rw [Nat.add_sub_cancel_left, slice?, dropBytes?_byteLength_append, dropBytes?_add]
  cases dropBytes? n printed with
  | none => rfl
  | some after => simp [assert?]

theorem slice?_of_lt {first last : Nat} (h : last < first) : slice? cs first last = none := by
  simp [slice?, assert?, Nat.not_le.2 h]

theorem length_slice?_indent (l : SourceLine) :
    ((slice? l.text (byteLength (l.text.takeWhile isWhiteSpace)) l.column).map List.length).getD 0 =
      l.caretColumn := by
  have hsplit : l.text.takeWhile isWhiteSpace ++ l.text.dropWhile isWhiteSpace = l.text :=
    List.takeWhile_append_dropWhile
  rw [SourceLine.caretColumn]
  by_cases h : byteLength (l.text.takeWhile isWhiteSpace) ≤ l.column
  · have hlength := length_slice?_of_le h (l.text.dropWhile isWhiteSpace)
    rw [hsplit] at hlength
    rw [hlength, if_pos h]
    cases dropBytes? _ (l.text.dropWhile isWhiteSpace) <;> rfl
  · rw [slice?_of_lt (Nat.lt_of_not_le h), if_neg h]
    rfl

theorem bounds_of_isAt (h : SourceLine.IsAt source p l) :
    l.number ≤ byteLength source.toList + 1 ∧ byteLength l.text ≤ byteLength source.toList := by
  obtain ⟨above, body, ending, below, henc, rfl⟩ := h
  have htext := congrArg byteLength henc.text_eq
  have hcount := List.count_le_length (a := '\n') (l := above)
  have hlength := length_le_byteLength above
  simp only [byteLength_append] at htext ⊢
  rw [henc.lineFeeds_eq]
  omega

theorem caretColumn_le (l : SourceLine) : l.caretColumn ≤ byteLength l.text := by
  have hlength := length_le_byteLength l.text
  have hprinted := (List.dropWhile_sublist isWhiteSpace (l := l.text)).length_le
  rw [SourceLine.caretColumn]
  split
  · split <;> omega
  · omega

theorem length_number_le {n : Nat} (h : n ≤ maxBytes + 1) : (toString n).length ≤ 20 := by
  rw [Nat.toString_eq_repr, Nat.length_repr_le_iff (by decide)]
  have hbound : maxBytes + 1 < 10 ^ 20 := by decide
  omega

theorem padLeft_add (n : Nat) (filler : Char) (text : String) :
    padLeft (n + text.length) filler text = String.ofList (List.replicate n filler) ++ text := by
  rw [padLeft, Nat.add_sub_cancel]

theorem sub?_trimStart (cs : List Char) :
    sub? (byteLength cs) (byteLength (trimStart cs)) =
      some (byteLength (cs.takeWhile isWhiteSpace)) := by
  have hsplit := congrArg byteLength (List.takeWhile_append_dropWhile (p := isWhiteSpace) (l := cs))
  rw [byteLength_append, Nat.add_comm] at hsplit
  rw [← hsplit]
  exact sub?_add_left _ _

/-- The machine has room for every picture: it draws what is drawn without bounds. -/
theorem render?_eq (hsize : source.utf8ByteSize ≤ maxBytes) (e : LexError) :
    render? e source = some (e.render source) := by
  rw [← byteLength_toList] at hsize
  rw [render?, lineAt?_eq hsize, LexError.render, Option.bind_eq_bind, Option.bind_some]
  cases h : SourceLine.at? source.toList e.position.offset.toNat with
  | none => rfl
  | some l =>
      obtain ⟨hnumber, htext⟩ := bounds_of_isAt (SourceLine.at?_eq_some_iff.1 h)
      have hcaret := caretColumn_le l
      have hdigits : (toString l.number).length ≤ 20 := length_number_le (by omega)
      have hroom : 22 ≤ maxBytes + 1 := by decide
      have hpadding : add? (toString l.number).length 2 = some ((toString l.number).length + 2) :=
        add?_of_le (by omega)
      have harrows : add? l.caretColumn 1 = some (l.caretColumn + 1) := add?_of_le (by omega)
      have hgutter : padLeft ((toString l.number).length + 2) ' ' "|" = l.excerpt.gutter :=
        padLeft_add ((toString l.number).length + 1) ' ' "|"
      have hdashes : padLeft (l.caretColumn + 1) '-' "^" =
          String.ofList (List.replicate l.caretColumn '-') ++ "^" :=
        padLeft_add l.caretColumn '-' "^"
      simp only [hpadding, sub?_trimStart, Option.bind_eq_bind, Option.bind_some,
        length_slice?_indent, harrows, hgutter, hdashes]
      simp only [SourceLine.excerpt, String.append_assoc]
      rfl

end Checked

end PixelScan
