import PixelScan.Proofs.Extension
import PixelScan.Proofs.Requests

namespace PixelScan

open Grammar

theorem isSome_tokenize (source : String) (file : Option String) :
    (tokenize source file).isSome := by
  rcases splits_or_spoils source.toList with ⟨ts, h⟩ | ⟨a, b, ts, fault, hsource, ha, hb⟩
  · rw [tokenize_of_splits h]
    rfl
  · rw [tokenize_of_spoils hsource ha hb]
    rfl

theorem Grammar.text_of_short {b : List Char} {text : String}
    (h : Spoils b (.malformedColour .tooShort text)) : b = text.toList := by
  cases h with
  | short => simp

namespace Scanner

variable {s t : Scanner} {a before rest : List Char} {ts : List Token}

theorem facing_of_source (hstart : s.state = .start) (hsource : s.source = before ++ rest)
    (hpos : s.pos = byteLength before) : s.Facing rest :=
  ⟨hstart, remainder?_eq_some_iff.2 ⟨before, hsource, hpos.symm⟩⟩

theorem Moves.tokens_eq (h : Moves s t a ts) : t.tokens = s.tokens ++ ts.toArray := by
  rw [← Array.toList_inj, h.tokens, Array.toList_append]

/-- A run from the middle of a source does as a scan of the rest of it by itself, whatever was done
before: the tokens of that scan follow those there were, and its error stands further on by what is
in front of the cursor. -/
theorem run_resumes (hstart : s.state = .start) (hsource : s.source = before ++ rest)
    (hpos : s.pos = byteLength before) :
    (tokenize (String.ofList rest) (some s.file)).isSome ∧
      (∀ tokens, tokenize (String.ofList rest) (some s.file) = some (.ok tokens) →
        ∃ t, s.run = some ⟨t, none⟩ ∧ t.source = s.source ∧ t.file = s.file ∧
          t.pos = byteLength s.source ∧ t.state = .start ∧ t.tokens = s.tokens ++ tokens) ∧
      ∀ e, tokenize (String.ofList rest) (some s.file) = some (.error e) →
        ∃ t e' a b tokens, s.run = some ⟨t, some e'⟩ ∧ e'.fault = e.fault ∧
          e'.position.file = e.position.file ∧
          e'.position.offset.toNat =
            (byteLength before + e.position.offset.toNat) % UInt32.size ∧
          rest = a ++ b ∧ Spoils b e.fault ∧
          e.position.offset.toNat = byteLength a % UInt32.size ∧
          tokenize (String.ofList a) (some s.file) = some (.ok tokens) ∧
          t.tokens = s.tokens ++ tokens := by
  have hfacing := facing_of_source hstart hsource hpos
  refine ⟨isSome_tokenize _ _, ?_, ?_⟩
  · intro tokens hscan
    have hsplits : Splits rest [] tokens.toList := by simpa using splits_of_tokenize hscan
    obtain ⟨t, hrun, ht⟩ := run_of_splits_end hsplits hfacing
    refine ⟨t, hrun, ht.source, ht.file, ?_, ht.state, ?_⟩
    · rw [ht.pos, hsource, hpos, byteLength_append]
    · rw [ht.tokens_eq, Array.toArray_toList]
  · intro e hscan
    obtain ⟨a, b, ts, htext, ha, hb, hposition⟩ := spoils_of_tokenize hscan
    rw [String.toList_ofList] at htext
    subst htext
    obtain ⟨c, tail, rfl, -⟩ := hb.exists_cons
    obtain ⟨t, hrun, ht⟩ := run_of_spoils ha hb hfacing
    obtain ⟨-, hfile, hcursor, htokens⟩ := t.announce_fields c
    have halone : Splits (String.ofList a).toList [] ts := by simpa using ha.cut
    refine ⟨_, _, a, _, ts.toArray, hrun, rfl, ?_, ?_, rfl, hb, ?_, tokenize_of_splits halone, ?_⟩
    · rw [hposition]
      exact hfile.trans ht.file
    · rw [hposition, toNat_toUInt32, Nat.add_mod_mod, ← hpos, ← ht.pos, ← hcursor]
      exact toNat_toUInt32 _
    · rw [hposition, toNat_toUInt32]
    · rw [htokens, ht.tokens_eq]

theorem run_resumes_behind_pushed_token :
    ∃ s t e, (ofString "日x#1" none).Reaches s ∧ s.pos = 3 ∧ s.tokens = #[⟨.delimiter, ","⟩] ∧
      s.run = some ⟨t, some e⟩ ∧ e.fault = .malformedColour .tooShort "#1" ∧
      e.position.offset.toNat = 4 ∧
      t.tokens = #[⟨.delimiter, ","⟩, ⟨.identifier, "x"⟩] := by
  let comma : Token := ⟨.delimiter, ","⟩
  let s : Scanner := { ofString "日x#1" none with pos := 3, tokens := #[comma] }
  have hreaches : (ofString "日x#1" none).Reaches s :=
    .perform (c := .advance 3) (r := ⟨s, none⟩) (.perform (c := .push comma) .refl rfl) rfl
  have hsource : s.source = ['日'] ++ ['x', '#', '1'] := rfl
  have hscan : tokenize (String.ofList ['x', '#', '1']) (some s.file) =
      some (.error ⟨.malformedColour .tooShort "#1", 1, "shell"⟩) := by cbv
  have hx : tokenize (String.ofList ['x']) (some s.file) =
      some (.ok #[⟨.identifier, "x"⟩]) := by cbv
  obtain ⟨-, -, hfails⟩ := run_resumes rfl hsource rfl
  obtain ⟨t, e, a, b, tokens, hrun, hfault, -, hoffset, htext, hb, -, ha, htokens⟩ :=
    hfails _ hscan
  obtain rfl : b = ['#', '1'] := text_of_short hb
  obtain rfl : ['x'] = a := (List.append_left_inj ['#', '1']).1 htext
  rw [hx] at ha
  cases ha
  exact ⟨s, t, e, hreaches, rfl, rfl, hrun, hfault, hoffset, htokens⟩

end Scanner

end PixelScan
