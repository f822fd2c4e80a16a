namespace PixelScan

/-- What stands between the separators; without one it is the whole text, be it empty. -/
def pieces (separator : Char) : List Char → List (List Char)
  | [] => [[]]
  | c :: cs =>
    if c = separator then [] :: pieces separator cs
    else
      match pieces separator cs with
      | [] => [[c]]
      | piece :: rest => (c :: piece) :: rest

theorem pieces_ne_nil (separator : Char) (cs : List Char) : pieces separator cs ≠ [] := by
  cases cs with
  | nil => simp [pieces]
  | cons c cs =>
      rw [pieces]
      split
      · simp
      · split <;> simp

theorem intercalate_pieces (separator : Char) (cs : List Char) :
    [separator].intercalate (pieces separator cs) = cs := by
  induction cs with
  | nil => rfl
  | cons c cs ih =>
      rw [pieces]
      cases h : pieces separator cs with
      | nil => exact absurd h (pieces_ne_nil separator cs)
      | cons piece rest =>
          rw [h] at ih
          split
          · next hc => simpa [List.intercalate, hc] using ih
          · cases rest <;> simp_all [List.intercalate]

theorem pieces_inj {separator : Char} {xs ys : List Char}
    (h : pieces separator xs = pieces separator ys) : xs = ys := by
  rw [← intercalate_pieces separator xs, h, intercalate_pieces]

theorem separator_notMem_pieces {separator : Char} {cs piece : List Char}
    (h : piece ∈ pieces separator cs) : separator ∉ piece := by
  induction cs generalizing piece with
  | nil => simp_all [pieces]
  | cons c cs ih =>
      rw [pieces] at h
      split at h
      · rcases List.mem_cons.1 h with rfl | h
        · simp
        · exact ih h
      · cases hp : pieces separator cs with
        | nil => exact absurd hp (pieces_ne_nil separator cs)
        | cons first rest =>
            simp only [hp, List.mem_cons] at h
            rcases h with rfl | h
            · have := ih (hp ▸ List.mem_cons_self)
              simp_all [eq_comm]
            · exact ih (hp ▸ List.mem_cons_of_mem first h)

theorem pieces_of_notMem {separator : Char} {cs : List Char} (h : separator ∉ cs) :
    pieces separator cs = [cs] := by
  induction cs with
  | nil => rfl
  | cons c cs ih =>
      rw [List.mem_cons, not_or] at h
      rw [pieces, if_neg (Ne.symm h.1), ih h.2]

theorem pieces_append_separator (separator : Char) (xs ys : List Char) :
    pieces separator (xs ++ separator :: ys) = pieces separator xs ++ pieces separator ys := by
  induction xs with
  | nil => simp [pieces]
  | cons c xs ih =>
      rw [List.cons_append, pieces, pieces, ih]
      split
      · rfl
      · cases h : pieces separator xs with
        | nil => exact absurd h (pieces_ne_nil separator xs)
        | cons piece rest => rfl

theorem pieces_append_of_notMem {separator : Char} {xs : List Char} (h : separator ∉ xs)
    (ys : List Char) :
    ∃ first rest, pieces separator ys = first :: rest ∧
      pieces separator (xs ++ ys) = (xs ++ first) :: rest := by
  obtain ⟨first, rest, hys⟩ := List.exists_cons_of_ne_nil (pieces_ne_nil separator ys)
  refine ⟨first, rest, hys, ?_⟩
  induction xs with
  | nil => exact hys
  | cons c xs ih =>
      rw [List.mem_cons, not_or] at h
      rw [List.cons_append, pieces, if_neg (Ne.symm h.1), ih h.2]
      rfl

section Parting

variable {separator : Char} {xs ys as bs : List Char}

theorem append_inj_of_first (hxs : separator ∉ xs) (hys : separator ∉ ys)
    (h : xs ++ separator :: as = ys ++ separator :: bs) : xs = ys ∧ as = bs := by
  have hpieces := congrArg (pieces separator) h
  rw [pieces_append_separator, pieces_append_separator, pieces_of_notMem hxs,
    pieces_of_notMem hys] at hpieces
  obtain ⟨hfirst, hrest⟩ := List.cons.inj hpieces
  exact ⟨hfirst, pieces_inj hrest⟩

theorem append_inj_of_last (has : separator ∉ as) (hbs : separator ∉ bs)
    (h : xs ++ separator :: as = ys ++ separator :: bs) : xs = ys ∧ as = bs := by
  have hpieces := congrArg (pieces separator) h
  rw [pieces_append_separator, pieces_append_separator, pieces_of_notMem has,
    pieces_of_notMem hbs] at hpieces
  obtain ⟨hrest, hlast⟩ := List.append_inj' hpieces rfl
  exact ⟨pieces_inj hrest, List.singleton_inj.1 hlast⟩

end Parting

def textPieces (separator : Char) (s : String) : List String :=
  (pieces separator s.toList).map String.ofList

end PixelScan
