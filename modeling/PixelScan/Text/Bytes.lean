namespace PixelScan

def byteLength : List Char → Nat
  | [] => 0
  | c :: cs => c.utf8Size + byteLength cs

@[simp]
theorem byteLength_nil : byteLength [] = 0 := rfl

@[simp]
theorem byteLength_cons (c : Char) (cs : List Char) :
    byteLength (c :: cs) = c.utf8Size + byteLength cs := rfl

@[simp]
theorem byteLength_append (as bs : List Char) :
    byteLength (as ++ bs) = byteLength as + byteLength bs := by
  induction as with
  | nil => simp
  | cons c cs ih => simp [ih, Nat.add_assoc]

theorem utf8ByteSize_ofList (cs : List Char) :
    (String.ofList cs).utf8ByteSize = byteLength cs := by
  induction cs with
  | nil => rfl
  | cons c cs ih =>
      rw [String.ofList_cons]
      simp [ih]

theorem byteLength_toList (s : String) : byteLength s.toList = s.utf8ByteSize := by
  rw [← utf8ByteSize_ofList, String.ofList_toList]

theorem length_le_byteLength (cs : List Char) : cs.length ≤ byteLength cs := by
  induction cs with
  | nil => simp
  | cons c cs ih => have := c.utf8Size_pos; simp only [List.length_cons, byteLength_cons]; omega

theorem byteLength_pos {cs : List Char} (h : cs ≠ []) : 0 < byteLength cs := by
  have := length_le_byteLength cs
  have := List.length_pos_iff.2 h
  omega

/-- What is left after the first `n` bytes; `none` if they end inside a character or past the end. -/
def dropBytes? : Nat → List Char → Option (List Char)
  | 0, cs => some cs
  | _ + 1, [] => none
  | n + 1, c :: cs => if c.utf8Size ≤ n + 1 then dropBytes? (n + 1 - c.utf8Size) cs else none

@[simp]
theorem dropBytes?_zero (cs : List Char) : dropBytes? 0 cs = some cs := by cases cs <;> rfl

theorem dropBytes?_byteLength_append (before after : List Char) :
    dropBytes? (byteLength before) (before ++ after) = some after := by
  induction before with
  | nil => simp
  | cons c cs ih =>
      have hpos := c.utf8Size_pos
      obtain ⟨n, hn⟩ : ∃ n, byteLength (c :: cs) = n + 1 := ⟨byteLength (c :: cs) - 1, by simp; omega⟩
      have hsub : n + 1 - c.utf8Size = byteLength cs := by simp at hn; omega
      rw [hn, List.cons_append, dropBytes?, if_pos (by simp at hn; omega), hsub, ih]

theorem dropBytes?_eq_some_iff {n : Nat} {cs after : List Char} :
    dropBytes? n cs = some after ↔ ∃ before, cs = before ++ after ∧ byteLength before = n := by
  constructor
  · intro h
    fun_induction dropBytes? n cs with
    | case1 cs => exact ⟨[], by simpa using h, rfl⟩
    | case2 n => simp at h
    | case3 n c cs hc ih =>
        obtain ⟨before, rfl, hb⟩ := ih h
        exact ⟨c :: before, rfl, by simp [hb]; omega⟩
    | case4 n c cs hc => simp at h
  · rintro ⟨before, rfl, rfl⟩
    exact dropBytes?_byteLength_append before after

end PixelScan
