import PixelScan.Proofs.Acceptance
import PixelScan.Proofs.Misuse

namespace PixelScan

open Alphabet Grammar

namespace Scanner

variable {s t : Scanner} {rest text : List Char} {n : Nat}

inductive Turns (s : Scanner) : Nat → Scanner → Prop
  | zero : Turns s 0 s
  | succ {n : Nat} {t u : Scanner} :
      Turns s n t → t.atEnd = false → t.step = some ⟨u, none⟩ → Turns s (n + 1) u

def Proceeds (s t : Scanner) (rest : List Char) : Prop :=
  ∃ l after ts, rest = l ++ after ∧ l ≠ [] ∧ Moves s t l ts

theorem Proceeds.source (h : Proceeds s t rest) : t.source = s.source := by
  obtain ⟨l, after, ts, -, -, hmoves⟩ := h
  exact hmoves.source

theorem Proceeds.pos_lt (h : Proceeds s t rest) : s.pos < t.pos := by
  obtain ⟨l, after, ts, -, hl, hmoves⟩ := h
  rw [hmoves.pos]
  exact Nat.lt_add_of_pos_right (byteLength_pos hl)

theorem Proceeds.facing (h : Proceeds s t rest) (hs : s.Facing rest) :
    ∃ after, t.Facing after ∧ after.length < rest.length := by
  obtain ⟨l, after, ts, rfl, hl, hmoves⟩ := h
  have hpos := List.length_pos_iff.2 hl
  refine ⟨after, hmoves.facing hs, ?_⟩
  rw [List.length_append]
  omega

theorem ne_nil_of_facing (h : s.Facing rest) (hend : s.atEnd = false) : rest ≠ [] := by
  rintro rfl
  exact remainder?_ne_nil hend h.remainder

theorem step_cases (h : s.Facing rest) (hend : s.atEnd = false) :
    (∃ t, s.step = some ⟨t, none⟩ ∧ Proceeds s t rest) ∨ ∃ t e, s.step = some ⟨t, some e⟩ := by
  obtain ⟨c, tail, rfl⟩ := List.exists_cons_of_ne_nil (ne_nil_of_facing h hend)
  by_cases hc : c ∈ blanks
  · exact .inl ⟨_, step_blank h hc, [c], tail, [], rfl, by simp, moves_skip h.state c⟩
  · rcases decided_of_not_blank hc tail with ⟨l, after, tok, htext, hl⟩ | ⟨fault, hspoils⟩
    · obtain ⟨t, hstep, ht⟩ := step_reads (htext ▸ h) hl
      exact .inl ⟨t, hstep, l, after, [tok], htext, hl.ne_nil, ht⟩
    · obtain ⟨t, hstep⟩ := step_spoils h hspoils
      exact .inr ⟨t, _, hstep⟩

theorem proceeds_of_step (h : s.Facing rest) (hend : s.atEnd = false)
    (hstep : s.step = some ⟨t, none⟩) : Proceeds s t rest := by
  rcases step_cases h hend with ⟨u, hu, hproceeds⟩ | ⟨u, e, hu⟩
  · rw [hstep] at hu
    cases hu
    exact hproceeds
  · rw [hstep] at hu
    cases hu

theorem step_replies (h : s.Facing rest) (hend : s.atEnd = false) :
    ∃ r, s.step = some r ∧ (r.error = none → s.pos < r.scanner.pos) := by
  rcases step_cases h hend with ⟨t, hstep, ht⟩ | ⟨t, e, hstep⟩
  · exact ⟨_, hstep, fun _ => ht.pos_lt⟩
  · refine ⟨_, hstep, ?_⟩
    intro he
    cases he

theorem Turns.facing (h : s.Turns n t) (hs : s.Facing text) :
    ∃ rest, t.Facing rest ∧ n + rest.length ≤ text.length ∧ t.source = s.source := by
  induction h with
  | zero => exact ⟨text, hs, by simp, rfl⟩
  | succ _ hend hstep ih =>
      obtain ⟨rest, hrest, hlength, hsource⟩ := ih
      have hproceeds := proceeds_of_step hrest hend hstep
      obtain ⟨after, hafter, hless⟩ := hproceeds.facing hrest
      exact ⟨after, hafter, by omega, hproceeds.source.trans hsource⟩

def Ends (s : Scanner) (n : Nat) (r : Reply) : Prop :=
  ∃ t, s.Turns n t ∧
    ((t.atEnd = true ∧ r = ⟨t, none⟩) ∨
      (t.atEnd = false ∧ t.step = some r ∧ ∃ e, r.error = some e))

/-- From any turn on the run comes to an end, since there is less text left with each turn. -/
theorem exists_ends (h : s.Turns n t) (hrun : s.run = t.run) (ht : t.Facing rest) :
    ∃ m r, s.Ends m r ∧ s.run = some r := by
  induction hlength : rest.length using Nat.strongRecOn generalizing n t rest with
  | ind k ih =>
      cases hend : t.atEnd with
      | true => exact ⟨n, ⟨t, none⟩, ⟨t, h, .inl ⟨hend, rfl⟩⟩, hrun.trans (run_of_atEnd hend)⟩
      | false =>
          rcases step_cases ht hend with ⟨u, hstep, hu⟩ | ⟨u, e, hstep⟩
          · obtain ⟨after, hafter, hless⟩ := hu.facing ht
            have hnext := hrun.trans (run_of_step_ok hend hstep)
            exact ih after.length (hlength ▸ hless) (h.succ hend hstep) hnext hafter rfl
          · have hfails := hrun.trans (run_of_step_error hend hstep)
            exact ⟨n, _, ⟨t, h, .inr ⟨hend, hstep, e, rfl⟩⟩, hfails⟩

theorem Facing.boundary (h : s.Facing rest) : Boundary s.source s.pos :=
  boundary_of_dropBytes? h.remainder

theorem checked_step_of_facing (h : s.Facing rest) (hsize : byteLength s.source ≤ maxBytes) :
    Checked.step s = s.step :=
  Checked.step_eq ⟨h.boundary.le, hsize⟩

end Scanner

open Scanner

/-- A scan is over after no more steps than the source has characters, with all of its tokens or
with the error of the last step. Between any two of its steps it stands between two characters, and
the next one has a reply, also in the arithmetic of the machine, and moves on or fails. -/
theorem tokenize_terminates (source : String) (file : Option String) :
    (∃ n t, n ≤ source.length ∧ (opening source file).Turns n t ∧
      ((t.atEnd = true ∧ tokenize source file = some (.ok t.tokens)) ∨
        (t.atEnd = false ∧
          ∃ u e, t.step = some ⟨u, some e⟩ ∧ tokenize source file = some (.error e)))) ∧
    ∀ n t, (opening source file).Turns n t →
      t.state = .start ∧ Boundary source.toList t.pos ∧ t.pos ≤ source.utf8ByteSize ∧
      (t.atEnd = false →
        n < source.length ∧
        ∃ r, t.step = some r ∧ (r.error = none → t.pos < r.scanner.pos) ∧
          (source.utf8ByteSize ≤ maxBytes → Checked.step t = some r)) := by
  have hopening := facing_opening source file
  have hlength : source.length = source.toList.length := source.length_toList.symm
  have hwidth : byteLength source.toList = source.utf8ByteSize := byteLength_toList source
  constructor
  · obtain ⟨n, r, ⟨t, hturns, hends⟩, hrun⟩ := exists_ends .zero rfl hopening
    obtain ⟨rest, -, hleft, -⟩ := hturns.facing hopening
    refine ⟨n, t, by omega, hturns, ?_⟩
    rw [tokenize_eq_map_run, hrun]
    rcases hends with ⟨hend, rfl⟩ | ⟨hend, hstep, e, he⟩
    · exact .inl ⟨hend, rfl⟩
    · obtain ⟨u, error⟩ := r
      cases he
      exact .inr ⟨hend, u, e, hstep, rfl⟩
  · intro n t hturns
    obtain ⟨rest, hrest, hleft, hsource⟩ := hturns.facing hopening
    have hsource : t.source = source.toList := hsource
    have hboundary : Boundary source.toList t.pos := hsource ▸ hrest.boundary
    refine ⟨hrest.state, hboundary, hwidth ▸ hboundary.le, ?_⟩
    intro hend
    have hpos := List.length_pos_iff.2 (ne_nil_of_facing hrest hend)
    obtain ⟨r, hstep, hmoves⟩ := step_replies hrest hend
    refine ⟨by omega, r, hstep, hmoves, ?_⟩
    intro hsize
    rw [checked_step_of_facing hrest (by rw [hsource, hwidth]; exact hsize), hstep]

theorem tokenize_terminates_behind_wide_string :
    ∃ t r, (opening "\"日\" " none).Turns 1 t ∧ t.pos = 5 ∧ t.atEnd = false ∧
      Checked.step t = some r ∧ r.error = none ∧ 5 < r.scanner.pos := by
  obtain ⟨t, hstep, hpos, hend, hmore⟩ : ∃ t, (opening "\"日\" " none).step = some ⟨t, none⟩ ∧
      t.pos = 5 ∧ t.atEnd = false ∧ ∃ u, t.step = some ⟨u, none⟩ :=
    ⟨_, rfl, rfl, rfl, _, rfl⟩
  have hturn := Turns.zero.succ (by rfl) hstep
  obtain ⟨-, -, -, hnext⟩ := (tokenize_terminates "\"日\" " none).2 1 t hturn
  obtain ⟨-, r, hr, hmoves, hchecked⟩ := hnext hend
  obtain ⟨u, hu⟩ := hmore
  rw [hu] at hr
  cases hr
  exact ⟨t, _, hturn, hpos, hend, hchecked (by decide), rfl, hpos ▸ hmoves rfl⟩

end PixelScan
