import PixelScan.Proofs.Coverage
import PixelScan.Proofs.Stepping

namespace PixelScan

open Grammar

variable {source : String} {file : Option String} {a b : List Char} {ts : List Token}

def opening (source : String) (file : Option String) : Scanner :=
  let s := Scanner.ofString source file
  s.record (.started s.file (byteLength s.source))

theorem tokenize_eq_map_run (source : String) (file : Option String) :
    tokenize source file =
      (opening source file).run.map fun r => (Transcript.ofReply r).result := by
  rw [tokenize, transcribe, Option.map_map]
  rfl

theorem facing_opening (source : String) (file : Option String) :
    (opening source file).Facing source.toList :=
  ⟨rfl, dropBytes?_zero source.toList⟩

theorem position_of_moves {t : Scanner} (h : (opening source file).Moves t a ts) :
    t.position = ⟨(byteLength a).toUInt32, file.getD "shell"⟩ := by
  have hpos : t.pos = byteLength a := by rw [h.pos]; exact Nat.zero_add _
  rw [Scanner.position, hpos, h.file]
  rfl

theorem tokenize_of_splits (h : Splits source.toList [] ts) :
    tokenize source file = some (.ok ts.toArray) := by
  obtain ⟨t, hrun, ht⟩ := Scanner.run_of_splits_end h (facing_opening source file)
  have htokens : t.tokens = ts.toArray := by
    rw [← Array.toList_inj, ht.tokens]
    rfl
  rw [tokenize_eq_map_run, hrun, ← htokens]
  rfl

theorem tokenize_of_spoils {fault : Fault} (hsource : source.toList = a ++ b)
    (ha : Splits a b ts) (hb : Spoils b fault) :
    tokenize source file =
      some (.error ⟨fault, (byteLength a).toUInt32, file.getD "shell"⟩) := by
  have hfacing : (opening source file).Facing (a ++ b) := hsource ▸ facing_opening source file
  obtain ⟨c, tail, rfl, -⟩ := hb.exists_cons
  obtain ⟨t, hrun, ht⟩ := Scanner.run_of_spoils ha hb hfacing
  rw [tokenize_eq_map_run, hrun, ← position_of_moves ht, ← Scanner.position_announce t c]
  rfl

theorem splits_of_tokenize {tokens : Array Token}
    (h : tokenize source file = some (.ok tokens)) : Splits source.toList [] tokens.toList := by
  rcases splits_or_spoils source.toList with ⟨ts, hsplits⟩ | ⟨a, b, ts, fault, hsource, ha, hb⟩
  · have hsame := (tokenize_of_splits hsplits).symm.trans h
    cases hsame
    exact hsplits
  · have hsame := (tokenize_of_spoils hsource ha hb).symm.trans h
    cases hsame

theorem spoils_of_tokenize {e : LexError} (h : tokenize source file = some (.error e)) :
    ∃ a b ts, source.toList = a ++ b ∧ Splits a b ts ∧ Spoils b e.fault ∧
      e.position = ⟨(byteLength a).toUInt32, file.getD "shell"⟩ := by
  rcases splits_or_spoils source.toList with ⟨ts, hsplits⟩ | ⟨a, b, ts, fault, hsource, ha, hb⟩
  · have hsame := (tokenize_of_splits hsplits).symm.trans h
    cases hsame
  · have hsame := (tokenize_of_spoils hsource ha hb).symm.trans h
    cases hsame
    exact ⟨a, b, ts, hsource, ha, hb, rfl⟩

/-- A scan succeeds on the texts of the grammar alone, with the tokens that the grammar gives them. -/
theorem tokenize_eq_ok_iff_splits (source : String) (file : Option String) (tokens : Array Token) :
    tokenize source file = some (.ok tokens) ↔ Splits source.toList [] tokens.toList := by
  constructor
  · exact splits_of_tokenize
  · intro h
    simpa using tokenize_of_splits h

theorem toNat_toUInt32 (n : Nat) : n.toUInt32.toNat = n % UInt32.size := UInt32.toNat_ofNat'

theorem position_eq_iff {p : Position} {n : Nat} {name : String} :
    p = ⟨n.toUInt32, name⟩ ↔ p.offset.toNat = n % UInt32.size ∧ p.file = name := by
  rw [← toNat_toUInt32, UInt32.toNat_inj]
  constructor
  · rintro rfl
    exact ⟨rfl, rfl⟩
  · rintro ⟨hoffset, rfl⟩
    rw [← hoffset]

/-- A scan fails at the first place where the text goes on with neither a blank nor a lexeme, and with
nothing but the fault of that place. -/
theorem tokenize_eq_error_iff_spoils (source : String) (file : Option String) (e : LexError) :
    tokenize source file = some (.error e) ↔
      ∃ a b ts, source.toList = a ++ b ∧ Splits a b ts ∧ Spoils b e.fault ∧
        e.position.offset.toNat = byteLength a % UInt32.size ∧
        e.position.file = file.getD "shell" := by
  simp only [← position_eq_iff]
  constructor
  · exact spoils_of_tokenize
  · rintro ⟨a, b, ts, hsource, ha, hb, hposition⟩
    rw [tokenize_of_spoils hsource ha hb, ← hposition]

theorem offset_lt_of_tokenize {e : LexError} (h : tokenize source file = some (.error e)) :
    e.position.offset.toNat < byteLength source.toList := by
  obtain ⟨a, b, ts, hsource, -, hb, hposition⟩ := spoils_of_tokenize h
  obtain ⟨c, tail, rfl, -⟩ := hb.exists_cons
  have hpos : 0 < byteLength (c :: tail) := byteLength_pos (by simp)
  have hwrap := Nat.mod_le (byteLength a) UInt32.size
  rw [(position_eq_iff.1 hposition).1, hsource, byteLength_append]
  omega

end PixelScan
