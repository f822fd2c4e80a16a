import PixelScan.Proofs.Misuse

namespace PixelScan.Scanner

open Alphabet Grammar

variable {s t : Scanner} {c : Char} {r : Reply} {e : LexError} {fault : Fault}
  {command : Command} {tail : List Char}

def Spares (s : Scanner) (r : Reply) : Prop := r.error.isSome → r.scanner = s

theorem spares_of_ok (h : r.error = none) : Spares s r := by
  intro herror
  simp [h] at herror

theorem spares_refused (s : Scanner) (fault : Fault) : Spares s (s.refused fault) := fun _ => rfl

theorem spares_settle (s : Scanner) (x : Except Fault Lexeme) : Spares s (s.settle x) := by
  cases x with
  | ok l => exact spares_of_ok rfl
  | error fault => exact spares_refused s fault

theorem spares_word (h : s.word = some r) : Spares s r := by
  obtain ⟨rest, -, rfl⟩ := Option.map_eq_some_iff.1 h
  exact spares_of_ok rfl

theorem spares_boolean (h : s.boolean = some r) : Spares s r := by
  obtain ⟨rest, -, rfl⟩ := Option.map_eq_some_iff.1 h
  exact spares_settle s _

theorem spares_number (h : s.number = some r) : Spares s r := by
  obtain ⟨rest, -, rfl⟩ := Option.map_eq_some_iff.1 h
  exact spares_settle s _

theorem spares_string (h : s.string = some r) : Spares s r := by
  obtain ⟨tail, -, rfl⟩ := Option.map_eq_some_iff.1 h
  exact spares_settle s _

theorem spares_colour (h : s.colour = some r) : Spares s r := by
  obtain ⟨tail, -, h⟩ := Option.bind_eq_some_iff.1 h
  split at h
  · cases h
    exact spares_of_ok rfl
  · obtain ⟨rest, -, rfl⟩ := Option.map_eq_some_iff.1 h
    exact spares_refused s _
  · cases h
    exact spares_refused s _

theorem spares_operator (h : s.operator c = some r) : Spares s r := by
  simp only [operator] at h
  split at h
  · cases h
    exact spares_of_ok rfl
  · cases h

theorem spares_delimiter (h : s.delimiter c = some r) : Spares s r := by
  simp only [delimiter] at h
  split at h
  · cases h
    exact spares_of_ok rfl
  · cases h

theorem spares_extract (h : s.extract = some r) : Spares s r := by
  simp only [extract] at h
  split at h
  · cases h
    exact spares_of_ok rfl
  · exact spares_word h
  · exact spares_number h
  · exact spares_colour h
  · exact spares_boolean h
  · obtain ⟨head, -, h⟩ := Option.bind_eq_some_iff.1 h
    cases head with
    | some c => exact spares_operator h
    | none =>
        cases h
        exact spares_of_ok rfl
  · exact spares_string h

theorem spares_of_perform (h : s.perform command = some r) (hcommand : command ≠ .step) :
    Spares s r := by
  cases command with
  | step => exact absurd rfl hcommand
  | extract => exact spares_extract h
  | enter st | push tok =>
      cases h
      exact spares_of_ok rfl
  | advance n =>
      obtain ⟨t, -, rfl⟩ := Option.map_eq_some_iff.1 h
      exact spares_of_ok rfl
  | word => exact spares_word h
  | boolean => exact spares_boolean h
  | number => exact spares_number h
  | colour => exact spares_colour h
  | string => exact spares_string h
  | operator c => exact spares_operator h
  | delimiter c => exact spares_delimiter h

/-- A step fails only in front of a text that begins with no lexeme, and has just turned to it then. -/
theorem spoils_of_step_error (h : s.step = some ⟨t, some e⟩) :
    ∃ c tail fault, s.Facing (c :: tail) ∧ Spoils (c :: tail) fault ∧
      ⟨t, some e⟩ = (s.announce c).refused fault := by
  by_cases hstart : s.state = .start
  · cases hrest : s.remainder? with
    | none => simp [step, hrest] at h
    | some rest =>
        cases rest with
        | nil => simp [step, hstart, hrest] at h
        | cons c tail =>
            have hfacing : s.Facing (c :: tail) := ⟨hstart, hrest⟩
            by_cases hc : c ∈ blanks
            · rw [step_blank hfacing hc] at h
              cases h
            · rcases decided_of_not_blank hc tail with ⟨l, after, tok, htext, hl⟩ | ⟨fault, hfault⟩
              · obtain ⟨u, hstep, -⟩ := step_reads (htext ▸ hfacing) hl
                rw [hstep] at h
                cases h
              · rw [step_refuses hfacing hfault] at h
                exact ⟨c, tail, fault, hfacing, hfault, (Option.some.inj h).symm⟩
  · rw [step, if_neg hstart] at h
    cases h

/-- What a failed step leaves behind. It has moved nowhere and read nothing, but unless it refused the
character itself it is still in the state that the character led to, out of which no step is made. -/
structure FailedStep (s t : Scanner) (e : LexError) : Prop where
  stays : Stays s t
  state : ∃ c, CharAt s.source s.pos c ∧
    ((t.state = .start ∧ ScanState.start.next (classify c) = none ∧
        e.fault = .unexpectedCharacter c) ∨
      (ScanState.start.next (classify c) = some t.state ∧
        t.state ∈ [.inNumber, .inColour, .inString] ∧ ∀ d, e.fault ≠ .unexpectedCharacter d))
  extract : t.state ≠ .start → t.perform .extract = some ⟨t, some e⟩
  step_unexpected : (∃ c, e.fault = .unexpectedCharacter c) → t.perform .step = some ⟨t, some e⟩
  step_other : (∀ c, e.fault ≠ .unexpectedCharacter c) → t.perform .step = none

theorem stays_announce (s : Scanner) (c : Char) : Stays s (s.announce c) := by
  obtain ⟨hsource, hfile, hpos, htokens⟩ := s.announce_fields c
  exact ⟨hsource, hfile, hpos, htokens⟩

theorem charAt_of_facing (h : s.Facing (c :: tail)) : CharAt s.source s.pos c := by
  obtain ⟨before, hsource, hpos⟩ := remainder?_eq_some_iff.1 h.remainder
  exact ⟨before, tail, hsource, hpos⟩

theorem next_announce (h : classify c ∈ [.digit, .hash, .quote]) :
    ScanState.start.next (classify c) = some (s.announce c).state ∧
      (s.announce c).state ∈ [.inNumber, .inColour, .inString] := by
  rw [announce]
  cases hk : classify c with
  | digit | hash | quote => simp [ScanState.next]
  | whitespace | alpha | operator | delimiter | invalid => simp [hk] at h

theorem failedStep_of_step (h : s.step = some ⟨t, some e⟩) : FailedStep s t e := by
  have hagain := h
  obtain ⟨c, tail, fault, hfacing, hfault, hreply⟩ := spoils_of_step_error h
  obtain ⟨rfl, rfl⟩ : t = s.announce c ∧ e = ⟨fault, (s.announce c).position⟩ := by
    cases hreply
    exact ⟨rfl, rfl⟩
  have hchar := charAt_of_facing hfacing
  rcases classify_of_spoils hfault with ⟨hk, rfl⟩ | ⟨hk, hother⟩
  · have hsame : s.announce c = s := by rw [announce, hk]
    rw [hsame] at hagain ⊢
    exact {
      stays := .refl s
      state := ⟨c, hchar, .inl ⟨hfacing.state, (ScanState.next_eq_none_iff _ _).2 ⟨rfl, hk⟩, rfl⟩⟩
      extract := fun hstate => absurd hfacing.state hstate
      step_unexpected := fun _ => hagain
      step_other := fun hother => absurd rfl (hother c) }
  · obtain ⟨hnext, hstate⟩ := next_announce (s := s) hk
    have hleft : (s.announce c).state ≠ .start := by
      intro hstart
      simp [hstart] at hstate
    have hextract := extract_announce hfacing.remainder (List.mem_cons_of_mem .alpha hk)
    rw [Lexeme.leading_of_spoils hfault] at hextract
    exact {
      stays := stays_announce s c
      state := ⟨c, hchar, .inr ⟨hnext, hstate, hother⟩⟩
      extract := fun _ => hextract
      step_unexpected := by
        rintro ⟨d, hd⟩
        exact absurd hd (hother d)
      step_other := fun _ => step_eq_none_iff.2 (.inl hleft) }

/-- A request that fails loses nothing. All but a step leave the scanner untouched, and fail again in
the same way. -/
theorem perform_error_retains (h : s.perform command = some ⟨t, some e⟩) :
    (command ≠ .step → t = s ∧ t.perform command = some ⟨t, some e⟩) ∧
      (command = .step → FailedStep s t e) := by
  constructor
  · intro hcommand
    obtain rfl : t = s := spares_of_perform h hcommand rfl
    exact ⟨rfl, h⟩
  · rintro rfl
    exact failedStep_of_step h

theorem perform_error_retains_bad_escape :
    ∃ s t e, (ofString "日\"\\x" none).Reaches s ∧ s.perform .step = some ⟨t, some e⟩ ∧
      e.fault = .invalidEscape 'x' ∧ e.position.offset.toNat = 3 ∧ t.state = .inString ∧
      t.perform .extract = some ⟨t, some e⟩ ∧ t.perform .step = none := by
  let s : Scanner := { ofString "日\"\\x" none with pos := 3 }
  have hreaches : (ofString "日\"\\x" none).Reaches s :=
    .perform (c := .advance 3) (r := ⟨s, none⟩) .refl rfl
  have hfails : s.perform .step =
      some ⟨s.enter .inString, some ⟨.invalidEscape 'x', 3, "shell"⟩⟩ := by rfl
  have hfailed := (perform_error_retains hfails).2 rfl
  exact ⟨s, _, _, hreaches, hfails, rfl, rfl, rfl, hfailed.extract nofun, hfailed.step_other nofun⟩

end PixelScan.Scanner
