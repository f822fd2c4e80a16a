import PixelScan.Scanner.Extract

namespace PixelScan.Scanner

/-- Skips one blank or reads one token. It may only be asked for between tokens. On failure the
state tells what was being read. -/
def step (s : Scanner) : Option Reply :=
  if s.state = .start then
    s.remainder?.bind fun
      | [] => some ⟨s, none⟩
      | c :: _ =>
        match classify c with
        | .whitespace => some ⟨s.skip c, none⟩
        | .delimiter => s.delimiter c
        | k =>
          match s.state.next k with
          | none => some (s.refused (.unexpectedCharacter c))
          | some target => (s.enter target).extract
  else none

def Ahead (s t : Scanner) : Prop := t.source = s.source ∧ s.pos < t.pos

theorem Ahead.enter {s t : Scanner} {st : ScanState} (h : Ahead (s.enter st) t) : Ahead s t := h

theorem ahead_accept {s : Scanner} {l : Lexeme} (h : l.spelling ≠ []) : Ahead s (s.accept l) :=
  ⟨rfl, Nat.lt_add_of_pos_right (Lexeme.width_pos h)⟩

theorem ahead_settle {s : Scanner} {r : Except Fault Lexeme}
    (h : ∀ l, r = .ok l → l.spelling ≠ []) (he : (s.settle r).error = none) :
    Ahead s (s.settle r).scanner := by
  cases r with
  | ok l => exact ahead_accept (h l rfl)
  | error fault => simp [settle, refused] at he

theorem ahead_delimiter {s : Scanner} {c : Char} {r : Reply} (h : s.delimiter c = some r) :
    Ahead s r.scanner := by
  simp only [delimiter] at h
  split at h
  · cases h
    exact ahead_accept (List.cons_ne_nil c [])
  · cases h

theorem ahead_operator {s : Scanner} {c : Char} {r : Reply} (h : s.operator c = some r) :
    Ahead s r.scanner := by
  simp only [operator] at h
  split at h
  · cases h
    split
    · exact ahead_accept (s := s.record _) (List.cons_ne_nil c [])
    · exact ahead_accept (List.cons_ne_nil c [])
  · cases h

theorem ahead_colour {s : Scanner} {r : Reply} (h : s.colour = some r) (he : r.error = none) :
    Ahead s r.scanner := by
  obtain ⟨tail, -, h⟩ := Option.bind_eq_some_iff.1 h
  cases hl : Lexeme.colour tail with
  | ok l =>
      simp only [hl, Option.some.injEq] at h
      subst h
      exact ahead_accept (Lexeme.colour_spelling_ne_nil hl)
  | error defect =>
      cases defect with
      | tooShort =>
          simp only [hl] at h
          obtain ⟨rest, -, rfl⟩ := Option.map_eq_some_iff.1 h
          cases he
      | nonHexDigit =>
          simp only [hl, Option.some.injEq] at h
          subst h
          cases he

theorem ahead_string {s : Scanner} {r : Reply} (h : s.string = some r) (he : r.error = none) :
    Ahead s r.scanner := by
  obtain ⟨tail, -, rfl⟩ := Option.map_eq_some_iff.1 h
  exact ahead_settle (fun l => Lexeme.string_spelling_ne_nil) he

theorem step_ahead {s : Scanner} {r : Reply} (h : s.step = some r) (he : r.error = none)
    (hend : s.atEnd = false) : Ahead s r.scanner := by
  rw [step] at h
  split at h
  case isFalse => cases h
  case isTrue hstart =>
    obtain ⟨rest, hrest, h⟩ := Option.bind_eq_some_iff.1 h
    cases rest with
    | nil => exact absurd hrest (remainder?_ne_nil hend)
    | cons c tail =>
        cases hk : classify c with
        | whitespace =>
            simp only [hk, Option.some.injEq] at h
            subst h
            exact ⟨rfl, Nat.lt_add_of_pos_right c.utf8Size_pos⟩
        | delimiter =>
            simp only [hk] at h
            exact ahead_delimiter h
        | alpha =>
            simp only [hk, hstart, ScanState.next, extract, state_enter, word, remainder?_enter,
              hrest, Option.map_some, Option.some.injEq] at h
            subst h
            exact (ahead_accept (Lexeme.word_spelling_ne_nil hk)).enter
        | digit =>
            simp only [hk, hstart, ScanState.next, extract, state_enter, number, remainder?_enter,
              hrest, Option.map_some, Option.some.injEq] at h
            subst h
            exact (ahead_settle (fun l => Lexeme.number_spelling_ne_nil hk) he).enter
        | hash =>
            simp only [hk, hstart, ScanState.next, extract, state_enter] at h
            exact (ahead_colour h he).enter
        | quote =>
            simp only [hk, hstart, ScanState.next, extract, state_enter] at h
            exact (ahead_string h he).enter
        | operator =>
            simp only [hk, hstart, ScanState.next, extract, state_enter, peek?, remainder?_enter,
              hrest, Option.map_some, List.head?_cons, Option.bind_some] at h
            exact (ahead_operator h).enter
        | invalid =>
            simp only [hk, hstart, ScanState.next, Option.some.injEq] at h
            subst h
            cases he

def run (s : Scanner) : Option Reply :=
  match _hend : s.atEnd with
  | true => some ⟨s, none⟩
  | false =>
    match _hstep : s.step with
    | none => none
    | some ⟨t, some e⟩ => some ⟨t, some e⟩
    | some ⟨t, none⟩ => t.run
termination_by byteLength s.source - s.pos
decreasing_by
  obtain ⟨hsource, hpos⟩ : Ahead s t := step_ahead _hstep rfl _hend
  have hin : s.pos < byteLength s.source := by simpa [atEnd] using _hend
  rw [hsource]
  omega

theorem run_of_atEnd {s : Scanner} (h : s.atEnd = true) : s.run = some ⟨s, none⟩ := by
  rw [run]
  split
  · rfl
  · simp_all

theorem run_of_step_ok {s t : Scanner} (hend : s.atEnd = false) (h : s.step = some ⟨t, none⟩) :
    s.run = t.run := by
  rw [run]
  split
  · simp_all
  · split <;> simp_all

theorem run_of_step_error {s t : Scanner} {e : LexError} (hend : s.atEnd = false)
    (h : s.step = some ⟨t, some e⟩) : s.run = some ⟨t, some e⟩ := by
  rw [run]
  split
  · simp_all
  · split <;> simp_all

end PixelScan.Scanner
