import PixelScan.Proofs.Leading
import PixelScan.Transcript

namespace PixelScan.Scanner

open Alphabet Grammar

variable {s t u : Scanner} {c : Char} {a b l w tail rest : List Char} {ts us : List Token}

def announce (s : Scanner) (c : Char) : Scanner :=
  match classify c with
  | .alpha => s.enter .inIdentifier
  | .digit => s.enter .inNumber
  | .hash => s.enter .inColour
  | .quote => s.enter .inString
  | .operator =>
      let entered := s.enter .inAssignOrOperator
      if c = '=' then entered.record (.assign s.pos) else entered
  | .whitespace | .delimiter | .invalid => s

structure Facing (s : Scanner) (rest : List Char) : Prop where
  state : s.state = .start
  remainder : s.remainder? = some rest

/-- What it comes to that the text `a` was read as the tokens `ts`. -/
structure Moves (s t : Scanner) (a : List Char) (ts : List Token) : Prop where
  source : t.source = s.source
  file : t.file = s.file
  pos : t.pos = s.pos + byteLength a
  state : t.state = .start
  tokens : t.tokens.toList = s.tokens.toList ++ ts

theorem tail?_of_remainder? (h : s.remainder? = some (c :: tail)) (hc : c.utf8Size = 1) :
    s.tail? = some tail := by
  obtain ⟨before, hsource, hpos⟩ := remainder?_eq_some_iff.1 h
  refine dropBytes?_eq_some_iff.2 ⟨before ++ [c], by simp [hsource], ?_⟩
  simp [hpos, hc]

theorem announce_fields (s : Scanner) (c : Char) :
    (s.announce c).source = s.source ∧ (s.announce c).file = s.file ∧
      (s.announce c).pos = s.pos ∧ (s.announce c).tokens = s.tokens := by
  rw [announce]
  cases classify c with
  | operator => by_cases heq : c = '=' <;> simp [heq, enter, record]
  | _ => simp [enter, record]

theorem position_announce (s : Scanner) (c : Char) : (s.announce c).position = s.position := by
  obtain ⟨-, hfile, hpos, -⟩ := s.announce_fields c
  rw [position, hpos, hfile]
  rfl

theorem extract_announce (h : s.remainder? = some (c :: tail))
    (hk : classify c ∈ [.alpha, .digit, .hash, .quote]) :
    (s.announce c).extract = some ((s.announce c).settle (Lexeme.leading c tail)) := by
  have hc := ofClass_classify c
  rw [announce, Lexeme.leading]
  cases hclass : classify c with
  | alpha =>
      simp only [extract, state_enter, word, remainder?_enter, h, Option.map_some]
      rfl
  | digit => simp only [extract, state_enter, number, remainder?_enter, h, Option.map_some]
  | hash =>
      obtain rfl : c = '#' := by rwa [hclass] at hc
      have htail : (s.enter .inColour).tail? = some tail := tail?_of_remainder? h rfl
      simp only [extract, state_enter, colour, htail, Option.bind_some, remainder?_enter, h,
        Option.map_some]
      cases Lexeme.colour tail with
      | ok l => rfl
      | error defect => cases defect <;> rfl
  | quote =>
      obtain rfl : c = '"' := by rwa [hclass] at hc
      have htail : (s.enter .inString).tail? = some tail := tail?_of_remainder? h rfl
      simp only [extract, state_enter, string, htail, Option.map_some]
  | whitespace | operator | delimiter | invalid => simp [hclass] at hk

theorem step_eq_settle (h : s.Facing (c :: tail)) (hc : c ∉ blanks) :
    s.step = some ((s.announce c).settle (Lexeme.leading c tail)) := by
  obtain ⟨hstart, hrest⟩ := h
  have hpeek : s.peek? = some (some c) := by rw [peek?, hrest]; rfl
  rw [step, if_pos hstart, hrest, Option.bind_some]
  cases hk : classify c with
  | whitespace => exact absurd ((classify_eq_iff c .whitespace).1 hk) hc
  | alpha | digit | hash | quote =>
      rw [← extract_announce hrest (by simp [hk]), announce]
      simp only [hk, hstart, ScanState.next]
  | operator =>
      have hpeek' : (s.enter .inAssignOrOperator).peek? = some (some c) := hpeek
      simp only [hk, hstart, ScanState.next, announce, Lexeme.leading, extract, state_enter, hpeek',
        Option.bind_some, operator, if_true]
      rfl
  | delimiter =>
      simp only [hk, announce, Lexeme.leading, delimiter, hpeek, if_true]
      rfl
  | invalid =>
      simp only [hk, hstart, ScanState.next, announce, Lexeme.leading]
      rfl

theorem Moves.refl (h : s.state = .start) : Moves s s [] [] := ⟨rfl, rfl, rfl, h, by simp⟩

theorem Moves.trans (h : Moves s t a ts) (h' : Moves t u b us) : Moves s u (a ++ b) (ts ++ us) where
  source := h'.source.trans h.source
  file := h'.file.trans h.file
  pos := by rw [h'.pos, h.pos, byteLength_append, Nat.add_assoc]
  state := h'.state
  tokens := by rw [h'.tokens, h.tokens, List.append_assoc]

theorem Moves.facing (h : Moves s t a ts) (hs : s.Facing (a ++ rest)) : t.Facing rest := by
  obtain ⟨before, hsource, hpos⟩ := remainder?_eq_some_iff.1 hs.remainder
  refine ⟨h.state, remainder?_eq_some_iff.2 ⟨before ++ a, ?_, ?_⟩⟩
  · rw [h.source, hsource, List.append_assoc]
  · rw [h.pos, ← hpos, byteLength_append]

theorem atEnd_eq_false_of_facing (h : s.Facing rest) (hne : rest ≠ []) : s.atEnd = false := by
  obtain ⟨before, hsource, hpos⟩ := remainder?_eq_some_iff.1 h.remainder
  have hlength := byteLength_pos hne
  simp only [atEnd, hsource, byteLength_append, decide_eq_false_iff_not]
  omega

theorem atEnd_of_facing_nil (h : s.Facing []) : s.atEnd = true := by
  obtain ⟨before, hsource, hpos⟩ := remainder?_eq_some_iff.1 h.remainder
  simp [atEnd, hsource, hpos]

theorem step_blank (h : s.Facing (c :: rest)) (hc : c ∈ blanks) :
    s.step = some ⟨s.skip c, none⟩ := by
  have hk : classify c = .whitespace := classify_of_ofClass (k := .whitespace) hc
  rw [step, if_pos h.state, h.remainder, Option.bind_some]
  simp only [hk]

theorem moves_skip (h : s.state = .start) (c : Char) : Moves s (s.skip c) [c] [] :=
  ⟨rfl, rfl, by simp [skip], h, by simp [skip]⟩

theorem step_accepts {tok : Token} (h : s.Facing (c :: (l ++ rest))) (hl : Reads (c :: l) rest tok) :
    s.step = some ((s.announce c).accepted ⟨tok, c :: l⟩) := by
  rw [step_eq_settle h hl.head_not_blank, Lexeme.leading_of_reads hl]
  rfl

theorem moves_accept (s : Scanner) (c : Char) (tok : Token) :
    Moves s ((s.announce c).accept ⟨tok, l⟩) l [tok] := by
  obtain ⟨hsource, hfile, hpos, htokens⟩ := s.announce_fields c
  refine ⟨hsource, hfile, ?_, rfl, ?_⟩
  · rw [pos_accept, hpos]
    rfl
  · simp [accept, push, record, htokens]

theorem step_reads {tok : Token} (h : s.Facing (l ++ rest)) (hl : Reads l rest tok) :
    ∃ u, s.step = some ⟨u, none⟩ ∧ Moves s u l [tok] := by
  obtain ⟨c, tail, rfl⟩ := List.exists_cons_of_ne_nil hl.ne_nil
  exact ⟨_, step_accepts h hl, moves_accept s c tok⟩

theorem step_refuses {fault : Fault} (h : s.Facing (c :: tail)) (hfault : Spoils (c :: tail) fault) :
    s.step = some ((s.announce c).refused fault) := by
  rw [step_eq_settle h hfault.head_not_blank, Lexeme.leading_of_spoils hfault]
  rfl

theorem step_spoils {fault : Fault} (h : s.Facing b) (hb : Spoils b fault) :
    ∃ u, s.step = some ⟨u, some ⟨fault, s.position⟩⟩ := by
  obtain ⟨c, tail, rfl, -⟩ := hb.exists_cons
  refine ⟨s.announce c, ?_⟩
  rw [step_refuses h hb, ← s.position_announce c]
  rfl

theorem run_of_blanks (hw : Blanks w) (h : s.Facing (w ++ rest)) :
    ∃ u, s.run = u.run ∧ Moves s u w [] ∧ u.log = s.log := by
  induction w generalizing s with
  | nil => exact ⟨s, rfl, Moves.refl h.state, rfl⟩
  | cons c w ih =>
      obtain ⟨hc, hw⟩ := blanks_cons_iff.1 hw
      have hmove := moves_skip h.state c
      have hstep : s.step = some ⟨s.skip c, none⟩ := step_blank h hc
      obtain ⟨u, hrun, hu, hlog⟩ := ih hw (hmove.facing h)
      refine ⟨u, ?_, hmove.trans hu, hlog⟩
      rw [run_of_step_ok (atEnd_eq_false_of_facing h (by simp)) hstep, hrun]

/-- A run over blanks and lexemes is the run from behind them, with their tokens read. -/
theorem run_of_splits (ha : Splits a rest ts) (h : s.Facing (a ++ rest)) :
    ∃ u, s.run = u.run ∧ Moves s u a ts := by
  induction ha generalizing s with
  | done hw =>
      obtain ⟨u, hrun, hu, -⟩ := run_of_blanks hw h
      exact ⟨u, hrun, hu⟩
  | @cons w l a rest tok ts hw hl ha ih =>
      -- The blanks, the lexeme and the text behind it leave a scanner that faces what is left.
      rw [List.append_assoc, List.append_assoc] at h
      obtain ⟨t, hblanks, ht, -⟩ := run_of_blanks hw h
      have hfacing := ht.facing h
      obtain ⟨u, hstep, hu⟩ := step_reads hfacing hl
      obtain ⟨v, hrest, hv⟩ := ih (hu.facing hfacing)
      refine ⟨v, ?_, ht.trans (hu.trans hv)⟩
      have hne : l ++ (a ++ rest) ≠ [] := by simp [hl.ne_nil]
      rw [hblanks, run_of_step_ok (atEnd_eq_false_of_facing hfacing hne) hstep, hrest]

theorem run_of_splits_end (ha : Splits a [] ts) (h : s.Facing a) :
    ∃ t, s.run = some ⟨t, none⟩ ∧ Moves s t a ts := by
  rw [← List.append_nil a] at h
  obtain ⟨t, hrun, ht⟩ := run_of_splits ha h
  refine ⟨t, ?_, ht⟩
  rw [hrun, run_of_atEnd (atEnd_of_facing_nil (ht.facing h))]

/-- A run over blanks and lexemes to a place where none begins fails there, and has then just turned
to what stands at that place. -/
theorem run_of_spoils {fault : Fault} (ha : Splits a (c :: tail) ts)
    (hfault : Spoils (c :: tail) fault) (h : s.Facing (a ++ c :: tail)) :
    ∃ t, s.run = some ((t.announce c).refused fault) ∧ Moves s t a ts := by
  obtain ⟨t, hrun, ht⟩ := run_of_splits ha h
  have hthere := ht.facing h
  refine ⟨t, ?_, ht⟩
  rw [hrun]
  exact run_of_step_error (atEnd_eq_false_of_facing hthere (by simp)) (step_refuses hthere hfault)

end PixelScan.Scanner
