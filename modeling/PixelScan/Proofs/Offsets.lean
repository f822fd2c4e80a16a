import Mathlib
import PixelScan.Proofs.Progress
import PixelScan.Proofs.Retrying

namespace PixelScan

open Alphabet Grammar Scanner

variable {source : String} {file : Option String} {e : LexError}

theorem exists_failing_step (h : tokenize source file = some (.error e)) :
    ∃ n s t text, (opening source file).Turns n s ∧ s.step = some ⟨t, some e⟩ ∧
      s.source = source.toList ∧ s.Facing text ∧ Spoils text e.fault ∧ e.position = s.position := by
  have hopening := facing_opening source file
  obtain ⟨n, r, ⟨s, hturns, hends⟩, hrun⟩ := exists_ends .zero rfl hopening
  rw [tokenize_eq_map_run, hrun] at h
  rcases hends with ⟨-, rfl⟩ | ⟨-, hstep, e', he'⟩
  · cases h
  · obtain ⟨t, error⟩ := r
    cases he'
    cases h
    obtain ⟨text, -, -, hsource⟩ := hturns.facing hopening
    obtain ⟨c, tail, fault, hfacing, hspoils, hreply⟩ := spoils_of_step_error hstep
    cases hreply
    exact ⟨n, s, _, c :: tail, hturns, hstep, hsource, hfacing, hspoils, position_announce s c⟩

theorem pos_of_unexpected {s : Scanner} {c : Char} {before after text : List Char}
    (hsource : s.source = before ++ c :: after) (hbefore : c ∉ before) (hafter : c ∉ after)
    (hfacing : s.Facing text) (hspoils : Spoils text (.unexpectedCharacter c)) :
    s.pos = byteLength before := by
  obtain ⟨passed, hsplit, hpos⟩ := remainder?_eq_some_iff.1 hfacing.remainder
  cases hspoils with
  | unexpected =>
      have hsame := hsource.symm.trans hsplit
      obtain ⟨rfl, -, -⟩ := (List.append_cons_inj_of_notMem hbefore hafter).1 hsame
      exact hpos.symm

theorem byteLength_blanks (n : Nat) : byteLength (List.replicate n ' ') = n := by
  induction n with
  | zero => rfl
  | succ n ih =>
      rw [List.replicate_succ, byteLength_cons, ih]
      exact Nat.add_comm 1 n

theorem blanks_replicate (n : Nat) : Blanks (List.replicate n ' ') := by
  intro c hc
  obtain rfl := List.eq_of_mem_replicate hc
  decide

/-- A text at fault behind `n` blanks is reported at `n`, counted in 32 bits. -/
theorem tokenize_behind_blanks {b : List Char} {fault : Fault} (n : Nat) (hb : Spoils b fault) :
    tokenize (String.ofList (List.replicate n ' ' ++ b)) file =
      some (.error ⟨fault, n.toUInt32, file.getD "shell"⟩) := by
  rw [tokenize_of_spoils String.toList_ofList (.done (blanks_replicate n)) hb, byteLength_blanks]

theorem exists_failing_step_behind_blanks (n : Nat) :
    ∃ e m s t, tokenize (String.ofList (List.replicate n ' ' ++ ['@'])) none = some (.error e) ∧
      (opening (String.ofList (List.replicate n ' ' ++ ['@'])) none).Turns m s ∧
      s.step = some ⟨t, some e⟩ ∧ s.pos = n ∧ e.position.offset = n.toUInt32 := by
  have hspoils : Spoils ['@'] (.unexpectedCharacter '@') :=
    .unexpected ((classify_eq_iff _ _).1 (by decide))
  have hmem : '@' ∉ List.replicate n ' ' := by simp
  have herror := @tokenize_behind_blanks none _ _ n hspoils
  obtain ⟨m, s, t, text, hturns, hstep, hsource, hfacing, hfault, -⟩ := exists_failing_step herror
  rw [String.toList_ofList] at hsource
  have hpos := pos_of_unexpected hsource hmem List.not_mem_nil hfacing hfault
  rw [byteLength_blanks] at hpos
  exact ⟨_, m, s, t, herror, hturns, hstep, hpos, rfl⟩

/-- The offset of an error is the byte that the text at fault begins at, counted in 32 bits. It lies
in the source, but it is that byte only where that is below `2 ^ 32`, as it is in a source that is
no longer than that. -/
theorem tokenize_error_offset (h : tokenize source file = some (.error e)) :
    e.position.offset.toNat < source.utf8ByteSize ∧
    ∃ n s t text, (opening source file).Turns n s ∧ s.step = some ⟨t, some e⟩ ∧
      s.Facing text ∧ Spoils text e.fault ∧
      s.pos < source.utf8ByteSize ∧ Boundary source.toList s.pos ∧
      e.position.offset.toNat = s.pos % UInt32.size ∧
      (e.position.offset.toNat = s.pos ↔ s.pos < UInt32.size) ∧
      (source.utf8ByteSize ≤ UInt32.size → e.position.offset.toNat = s.pos) := by
  obtain ⟨n, s, t, text, hturns, hstep, hsource, hfacing, hspoils, hposition⟩ :=
    exists_failing_step h
  have hoffset : e.position.offset.toNat = s.pos % UInt32.size := by
    rw [hposition]
    exact toNat_toUInt32 s.pos
  have hinside : s.pos < source.utf8ByteSize := by
    obtain ⟨before, hsplit, hpos⟩ := remainder?_eq_some_iff.1 hfacing.remainder
    obtain ⟨c, tail, rfl, -⟩ := hspoils.exists_cons
    have hleft : 0 < byteLength (c :: tail) := byteLength_pos (by simp)
    rw [← byteLength_toList, ← hsource, hsplit, byteLength_append, hpos]
    omega
  have hexact : e.position.offset.toNat = s.pos ↔ s.pos < UInt32.size := by
    rw [hoffset]
    exact Nat.mod_eq_iff_lt (by decide)
  refine ⟨byteLength_toList source ▸ offset_lt_of_tokenize h, n, s, t, text, hturns, hstep, hfacing,
    hspoils, hinside, hsource ▸ hfacing.boundary, hoffset, hexact, ?_⟩
  intro hsize
  exact hexact.2 (by omega)

theorem tokenize_error_offset_behind_wide_string :
    ∃ e n s t, tokenize "\"日\"\n#12G456" none = some (.error e) ∧
      (opening "\"日\"\n#12G456" none).Turns n s ∧ s.step = some ⟨t, some e⟩ ∧
      e.position.offset.toNat = 6 ∧ s.pos = 6 := by
  have h : tokenize "\"日\"\n#12G456" none =
      some (.error ⟨.malformedColour .nonHexDigit "#12G456", 6, "shell"⟩) := by cbv
  have hsize : "\"日\"\n#12G456".utf8ByteSize ≤ UInt32.size := by decide
  obtain ⟨-, n, s, t, text, hturns, hstep, -, -, -, -, -, -, hexact⟩ := tokenize_error_offset h
  exact ⟨_, n, s, t, h, hturns, hstep, rfl, (hexact hsize).symm⟩

theorem tokenize_error_offset_wraps :
    ∃ e n s t,
      tokenize (String.ofList (List.replicate UInt32.size ' ' ++ ['@'])) none = some (.error e) ∧
      (opening (String.ofList (List.replicate UInt32.size ' ' ++ ['@'])) none).Turns n s ∧
      s.step = some ⟨t, some e⟩ ∧ s.pos = UInt32.size ∧ e.position.offset.toNat = 0 := by
  obtain ⟨e, n, s, t, herror, hturns, hstep, hpos, hoffset⟩ :=
    exists_failing_step_behind_blanks UInt32.size
  refine ⟨e, n, s, t, herror, hturns, hstep, hpos, ?_⟩
  rw [hoffset, toNat_toUInt32, Nat.mod_self]

end PixelScan
