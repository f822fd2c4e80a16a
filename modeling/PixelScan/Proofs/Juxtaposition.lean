import Mathlib
import PixelScan.Proofs.Acceptance

namespace PixelScan

namespace Grammar

open Alphabet

variable {a b l s w rest rest' : List Char} {t : Token} {ts us : List Token}

def Severs : TokenKind → List Char → Prop
  | .identifier, rest | .keyword, rest | .booleanLiteral, rest => Stops WordChar rest
  | .integerLiteral, rest | .floatLiteral, rest => Stops NumberChar rest
  | .colourLiteral, _ | .stringLiteral, _ | .operator, _ | .delimiter, _ => True

/-- The end of a text with these tokens cannot fuse with the start of the text that follows. -/
def Apart (a : List Char) (ts : List Token) (b : List Char) : Prop :=
  ts = [] ∨ (∃ c ∈ blanks, a.getLast? = some c) ∨ ∃ t, ts.getLast? = some t ∧ Severs t.kind b

theorem severs_of_blank (kind : TokenKind) (h : ∀ c, rest.head? = some c → c ∈ blanks) :
    Severs kind rest := by
  have hword : Stops WordChar rest := by
    intro c hc
    exact (not_lexical_of_mem_blanks c (h c hc)).1
  have hnumber : Stops NumberChar rest := by
    intro c hc
    exact (not_lexical_of_mem_blanks c (h c hc)).2.1
  cases kind with
  | identifier | keyword | booleanLiteral => exact hword
  | integerLiteral | floatLiteral => exact hnumber
  | colourLiteral | stringLiteral | operator | delimiter => trivial

theorem severs_wordKind_iff (word : String) :
    Severs ((reservedKind? word).getD .identifier) rest ↔ Stops WordChar rest := by
  cases h : reservedKind? word with
  | none => rfl
  | some kind =>
      rcases kind_of_mem_reservedWords _ (mem_of_reservedKind? h) with rfl | rfl <;> rfl

theorem Reads.severed (h : Reads l rest t) : Severs t.kind rest := by
  cases h with
  | word _ hrest => exact (severs_wordKind_iff _).2 hrest
  | integer _ hrest | decimal _ hrest => exact hrest
  | colour | string | operator | delimiter => trivial

theorem Reads.of_severs (h : Reads l rest t) (hrest : Severs t.kind rest') : Reads l rest' t := by
  cases h with
  | word hword => exact .word hword ((severs_wordKind_iff _).1 hrest)
  | integer hinteger => exact .integer hinteger hrest
  | decimal hdecimal => exact .decimal hdecimal hrest
  | colour hcolour => exact .colour hcolour
  | string hu => exact .string hu
  | operator hc => exact .operator hc
  | delimiter hc => exact .delimiter hc

theorem severs_append (kind : TokenKind) (hs : s ≠ []) (rest : List Char) :
    Severs kind (s ++ rest) ↔ Severs kind s := by
  obtain ⟨c, s, rfl⟩ := List.exists_cons_of_ne_nil hs
  cases kind <;> rfl

theorem Splits.blanks (hw : Blanks w) (h : Splits s rest ts) : Splits (w ++ s) rest ts := by
  induction w with
  | nil => exact h
  | cons c w ih =>
      obtain ⟨hc, hw⟩ := blanks_cons_iff.1 hw
      exact .blank hc (ih hw)

theorem Splits.append (ha : Splits a (b ++ rest) ts) (hb : Splits b rest us) :
    Splits (a ++ b) rest (ts ++ us) := by
  generalize hrest : b ++ rest = more at ha
  induction ha with
  | done hw => exact hb.blanks hw
  | @cons w l s more t ts hw hl hs ih =>
      subst hrest
      rw [← List.append_assoc] at hl
      simpa using Splits.cons hw hl (ih rfl)

theorem Splits.eq_nil_of_nil (h : Splits [] rest ts) : ts = [] := by
  generalize ha : [] = a at h
  cases h with
  | done => rfl
  | cons hw hl hs =>
      have hne := hl.ne_nil
      simp_all

theorem Apart.tail (hs : s ≠ []) (h : Apart (l ++ s) (t :: ts) b) : Apart s ts b := by
  rcases h with h | ⟨c, hc, hlast⟩ | ⟨last, hlast, hsevers⟩
  · exact absurd h (by simp)
  · refine .inr (.inl ⟨c, hc, ?_⟩)
    rwa [List.getLast?_append_of_ne_nil _ hs] at hlast
  · cases ts with
    | nil => exact .inl rfl
    | cons u us => exact .inr (.inr ⟨last, by rwa [List.getLast?_cons_cons] at hlast, hsevers⟩)

theorem Splits.of_apart (h : Splits a [] ts) (hb : Apart a ts b) : Splits a b ts := by
  generalize hnil : [] = rest at h
  induction h with
  | done hw => exact .done hw
  | @cons w l s rest t ts hw hl hs ih =>
      subst hnil
      rw [List.append_nil] at hl
      -- Only the last lexeme sees what comes after the text; behind the others stands a
      -- character of the text itself.
      by_cases hend : s = []
      · subst hend
        obtain rfl := hs.eq_nil_of_nil
        have hsevers : Severs t.kind b := by
          rcases hb with hb | ⟨c, hc, hlast⟩ | ⟨last, hlast, hsevers⟩
          · exact absurd hb (by simp)
          · rw [List.append_nil, List.getLast?_append_of_ne_nil _ hl.ne_nil] at hlast
            exact absurd hc (hl.last_not_blank hlast)
          · obtain rfl : t = last := by simpa using hlast
            exact hsevers
        exact .cons hw (hl.of_severs hsevers) (.done blanks_nil)
      · have hsevers : Severs t.kind (s ++ b) := (severs_append t.kind hend b).2 hl.severed
        have htail : Apart s ts b := by
          rw [← List.append_assoc] at hb
          exact hb.tail hend
        exact .cons hw (hl.of_severs hsevers) (ih htail rfl)

theorem apart_of_blank (h : ∃ c ∈ Alphabet.blanks, b.head? = some c) : Apart a ts b := by
  obtain ⟨c, hc, hhead⟩ := h
  cases hlast : ts.getLast? with
  | none => exact .inl (List.getLast?_eq_none_iff.1 hlast)
  | some t =>
      refine .inr (.inr ⟨t, hlast, severs_of_blank t.kind ?_⟩)
      intro d hd
      rw [hhead] at hd
      cases hd
      exact hc

end Grammar

open Grammar

/-- Two texts that cannot fuse are scanned one after the other: the tokens of the second follow those
of the first, and its error is that of the whole, further on by the length of the first. -/
theorem tokenize_append {a b : String} {file : Option String} {ta : Array Token}
    (ha : tokenize a file = some (.ok ta))
    (hab : Apart a.toList ta.toList b.toList ∨
      ∃ c ∈ Alphabet.blanks, b.toList.head? = some c) :
    (∀ tb, tokenize b file = some (.ok tb) → tokenize (a ++ b) file = some (.ok (ta ++ tb))) ∧
      ∀ e, tokenize b file = some (.error e) →
        ∃ e', tokenize (a ++ b) file = some (.error e') ∧ e'.fault = e.fault ∧
          e'.position.file = e.position.file ∧
          e'.position.offset.toNat =
            (a.utf8ByteSize + e.position.offset.toNat) % UInt32.size := by
  have hfirst : Splits a.toList b.toList ta.toList :=
    (splits_of_tokenize ha).of_apart (hab.elim id apart_of_blank)
  constructor
  · intro tb hb
    have hsecond : Splits b.toList [] tb.toList := splits_of_tokenize hb
    have hwhole : Splits (a ++ b).toList [] (ta.toList ++ tb.toList) := by
      rw [String.toList_append]
      apply Splits.append _ hsecond
      rwa [List.append_nil]
    rw [tokenize_of_splits hwhole]
    simp
  · intro e hb
    obtain ⟨p, q, ts, htext, hp, hq, hposition⟩ := spoils_of_tokenize hb
    rw [htext] at hfirst
    have hsource : (a ++ b).toList = (a.toList ++ p) ++ q := by
      rw [String.toList_append, htext, List.append_assoc]
    refine ⟨_, tokenize_of_spoils hsource (hfirst.append hp) hq, rfl, ?_, ?_⟩
    · rw [hposition]
    · rw [hposition, toNat_toUInt32, toNat_toUInt32, byteLength_append, byteLength_toList,
        Nat.add_mod_mod]

theorem tokenize_append_short_colour :
    tokenize "x" none = some (.ok #[⟨.identifier, "x"⟩]) ∧
      Apart "x".toList [⟨.identifier, "x"⟩] "+#12".toList ∧
      ∃ e, tokenize ("x" ++ "+#12") none = some (.error e) ∧
        e.fault = .malformedColour .tooShort "#12" ∧ e.position.offset.toNat = 2 := by
  have hx : tokenize "x" none = some (.ok #[⟨.identifier, "x"⟩]) := by cbv
  have hcolour : tokenize "+#12" none =
      some (.error ⟨.malformedColour .tooShort "#12", 1, "shell"⟩) := by cbv
  have hapart : Apart "x".toList [⟨.identifier, "x"⟩] "+#12".toList := by
    refine .inr (.inr ⟨_, rfl, ?_⟩)
    exact stops_cons_iff.2 (by decide)
  obtain ⟨e, he, hfault, -, hoffset⟩ := (tokenize_append hx (.inl hapart)).2 _ hcolour
  exact ⟨hx, hapart, e, he, hfault, hoffset⟩

end PixelScan
