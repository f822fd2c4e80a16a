import PixelScan.Proofs.Juxtaposition

namespace PixelScan

open Alphabet Grammar

/-- A fault that shows before the text is over, so that no continuation of the text can mend it. -/
def Fault.Lasting : Fault → Prop
  | .unexpectedCharacter _ | .malformedNumber _ | .malformedColour .nonHexDigit _
  | .invalidEscape _ => True
  | .malformedColour .tooShort _ | .malformedBoolean _ | .unterminatedString => False

namespace Grammar

variable {a b u v ds rest rest' : List Char} {ts : List Token} {fault : Fault}

theorem Splits.of_severs (h : Splits a rest ts)
    (hrest : ∀ kind, Severs kind rest → Severs kind rest') : Splits a rest' ts := by
  induction h with
  | done hw => exact .done hw
  | @cons w l s rest t ts hw hl hs ih =>
      have hsevers : Severs t.kind (s ++ rest') := by
        by_cases hend : s = []
        · subst hend
          exact hrest t.kind hl.severed
        · have hhead : Severs t.kind s := (severs_append t.kind hend rest).1 hl.severed
          exact (severs_append t.kind hend rest').2 hhead
      exact .cons hw (hl.of_severs hsevers) (ih hrest)

theorem severs_nil (kind : TokenKind) : Severs kind [] := severs_of_blank kind (by simp)

theorem Splits.cut (h : Splits a b ts) : Splits a [] ts := by
  apply h.of_severs
  intro kind _
  exact severs_nil kind

theorem Splits.extend (h : Splits a b ts) (hb : b ≠ []) (x : List Char) :
    Splits a (b ++ x) ts := by
  apply h.of_severs
  intro kind hkind
  exact (severs_append kind hb x).2 hkind

theorem Spoils.ne_nil (h : Spoils b fault) : b ≠ [] := by
  obtain ⟨c, tail, rfl, -⟩ := h.exists_cons
  simp

theorem Spoils.extend (h : Spoils b fault) (hlasting : fault.Lasting) (x : List Char) :
    Spoils (b ++ x) fault := by
  cases h with
  | unexpected hc => exact .unexpected hc
  | number hdecimal => simpa using Spoils.number hdecimal
  | nonHex hlength hhex => simpa using Spoils.nonHex hlength hhex
  | escape hu hn ht hbackslash => simpa using Spoils.escape hu hn ht hbackslash
  | short | unclosed | backslash => exact hlasting.elim

theorem Spells.append {u' v' : List Char} (h : Spells u v) (h' : Spells u' v') :
    Spells (u ++ u') (v ++ v') := by
  induction h with
  | nil => exact h'
  | plain hquote hbackslash _ ih => exact .plain hquote hbackslash ih
  | escape hd _ ih => exact .escape hd ih

/-- An open string is closed by a quote, or by a backslash and a quote if a backslash is still
waiting for its character. -/
theorem exists_reads_of_unterminated (h : Spoils b .unterminatedString) :
    ∃ x t, Reads (b ++ x) [] t := by
  cases h with
  | unclosed hu => exact ⟨['"'], _, .string hu⟩
  | backslash hu =>
      have hescaped : Spells ['\\', '\\'] ['\\'] := .escape (by decide) .nil
      exact ⟨['\\', '"'], _, by simpa using Reads.string (hu.append hescaped)⟩

theorem exists_digits_of_short {text : String}
    (h : Spoils b (.malformedColour .tooShort text)) :
    ∃ ds, b = '#' :: ds ∧ ds.length < 6 := by
  cases h with
  | short hlength => exact ⟨_, rfl, hlength⟩

theorem exists_reads_of_hex (hlength : ds.length < 6) (hhex : ∀ d ∈ ds, HexDigit d) :
    ∃ x t, Reads ('#' :: ds ++ x) [] t := by
  refine ⟨List.replicate (6 - ds.length) '0', _, .colour ⟨_, rfl, ?_, ?_⟩⟩
  · simp only [List.append_eq, List.length_append, List.length_replicate]
    omega
  · intro d hd
    rcases List.mem_append.1 hd with hd | hd
    · exact hhex d hd
    · obtain rfl := List.eq_of_mem_replicate hd
      decide

theorem exists_spoils_of_not_hex (hlength : ds.length < 6) (hbad : ∃ d ∈ ds, ¬ HexDigit d)
    (x : List Char) :
    ∃ defect text, Spoils ('#' :: ds ++ x) (.malformedColour defect text) := by
  rw [List.cons_append]
  by_cases hshort : (ds ++ x).length < 6
  · exact ⟨_, _, .short hshort⟩
  · have hsix : ((ds ++ x).take 6).length = 6 := by
      rw [List.length_take]
      omega
    have hwrong : ∃ d ∈ (ds ++ x).take 6, ¬ HexDigit d := by
      obtain ⟨d, hd, hnot⟩ := hbad
      refine ⟨d, ?_, hnot⟩
      rw [List.take_append, List.take_of_length_le (by omega)]
      exact List.mem_append_left _ hd
    rw [← List.take_append_drop 6 (ds ++ x)]
    exact ⟨_, _, .nonHex hsix hwrong⟩

end Grammar

def Accepted (source : String) (file : Option String) : Prop :=
  ∃ tokens, tokenize source file = some (.ok tokens)

variable {source : String} {file : Option String} {a b ds : List Char} {ts : List Token}
  {fault : Fault}

theorem accepted_of_splits (h : Splits source.toList [] ts) : Accepted source file :=
  ⟨ts.toArray, tokenize_of_splits h⟩

theorem not_accepted_of_error {e : LexError} (h : tokenize source file = some (.error e)) :
    ¬ Accepted source file := by
  rintro ⟨tokens, hok⟩
  rw [hok] at h
  cases h

theorem accepted_append (hsource : source.toList = a ++ b) (ha : Splits a b ts) (hb : b ≠ [])
    {x : List Char} {t : Token} (hx : Reads (b ++ x) [] t) :
    Accepted (source ++ String.ofList x) file := by
  have hrest : Splits (b ++ x) [] [t] := by
    simpa using Splits.lexeme (by simpa using hx) (.done blanks_nil)
  have hwhole : Splits (a ++ (b ++ x)) [] (ts ++ [t]) := by
    apply Splits.append _ hrest
    simpa using ha.extend hb x
  have htext : (source ++ String.ofList x).toList = a ++ (b ++ x) := by
    rw [String.toList_append, String.toList_ofList, hsource, List.append_assoc]
  exact accepted_of_splits (htext ▸ hwhole)

theorem tokenize_append_of_spoils (hsource : source.toList = a ++ b) (ha : Splits a b ts)
    (hb : b ≠ []) {x : String} (hx : Spoils (b ++ x.toList) fault) :
    tokenize (source ++ x) file =
      some (.error ⟨fault, (byteLength a).toUInt32, file.getD "shell"⟩) := by
  apply tokenize_of_spoils _ (ha.extend hb x.toList) hx
  rw [String.toList_append, hsource, List.append_assoc]

theorem tokenize_of_spoils_alone (hb : Spoils b fault) :
    tokenize (String.ofList b) file = some (.error ⟨fault, 0, file.getD "shell"⟩) := by
  have htext : (String.ofList b).toList = [] ++ b := by simp
  exact tokenize_of_spoils htext (.done blanks_nil) hb

theorem tokenize_append_of_not_hex (hsource : source.toList = a ++ '#' :: ds)
    (ha : Splits a ('#' :: ds) ts) (hlength : ds.length < 6) (hbad : ¬ ∀ d ∈ ds, HexDigit d)
    (x : String) :
    ∃ defect text, tokenize (source ++ x) file = some (.error
      ⟨.malformedColour defect text, (byteLength a).toUInt32, file.getD "shell"⟩) := by
  have hwrong : ∃ d ∈ ds, ¬ HexDigit d := by simpa using hbad
  obtain ⟨defect, text, hx⟩ := exists_spoils_of_not_hex hlength hwrong x.toList
  exact ⟨defect, text, tokenize_append_of_spoils hsource ha (by simp) hx⟩

/-- The first error of a text is settled by the text up to it: what stands before it is accepted by
itself, and what begins with it fails at once in the same way. Nothing behind the text changes an
error that shows before its end; a string or a colour that the end cuts off can still be completed,
unless the colour has a wrong digit already. -/
theorem tokenize_error_extends {e : LexError} (h : tokenize source file = some (.error e)) :
    ∃ a b : String, source = a ++ b ∧
      e.position.offset.toNat = a.utf8ByteSize % UInt32.size ∧
      Accepted a file ∧
      tokenize b file = some (.error ⟨e.fault, 0, e.position.file⟩) ∧
      (e.fault.Lasting → ∀ x, tokenize (source ++ x) file = some (.error e)) ∧
      (e.fault = .unterminatedString → ∃ x, Accepted (source ++ x) file) ∧
      ∀ text, e.fault = .malformedColour .tooShort text →
        ∃ digits, b.toList = '#' :: digits ∧
          ((∃ x, Accepted (source ++ x) file) ↔ ∀ d ∈ digits, HexDigit d) ∧
          ((¬ ∀ d ∈ digits, HexDigit d) → ∀ x, ∃ defect text',
            tokenize (source ++ x) file =
              some (.error ⟨.malformedColour defect text', e.position⟩)) := by
  obtain ⟨a, b, ts, hsource, ha, hb, hposition⟩ := spoils_of_tokenize h
  refine ⟨String.ofList a, String.ofList b, ?_, ?_, ?_, ?_, ?_, ?_, ?_⟩
  · rw [← String.ofList_append, ← hsource, String.ofList_toList]
  · rw [hposition, toNat_toUInt32, utf8ByteSize_ofList]
  · have halone : Splits (String.ofList a).toList [] ts := by simpa using ha.cut
    exact accepted_of_splits halone
  · rw [tokenize_of_spoils_alone hb, hposition]
  · intro hlasting x
    have hx : Spoils (b ++ x.toList) e.fault := hb.extend hlasting x.toList
    rw [tokenize_append_of_spoils hsource ha hb.ne_nil hx, ← hposition]
  · intro hfault
    obtain ⟨x, t, hx⟩ := exists_reads_of_unterminated (hfault ▸ hb)
    exact ⟨_, accepted_append hsource ha hb.ne_nil hx⟩
  · intro text hfault
    obtain ⟨ds, rfl, hlength⟩ := exists_digits_of_short (hfault ▸ hb)
    refine ⟨ds, by simp, ⟨?_, ?_⟩, ?_⟩
    · rintro ⟨x, hx⟩
      by_contra hbad
      obtain ⟨defect, text', herror⟩ := tokenize_append_of_not_hex hsource ha hlength hbad x
      exact not_accepted_of_error herror hx
    · intro hhex
      obtain ⟨x, t, hx⟩ := exists_reads_of_hex hlength hhex
      exact ⟨_, accepted_append hsource ha hb.ne_nil hx⟩
    · rw [hposition]
      exact tokenize_append_of_not_hex hsource ha hlength

theorem tokenize_error_extends_wide_digit :
    tokenize "\"é\"#1é2345" none =
        some (.error ⟨.malformedColour .nonHexDigit "#1é2345", 4, "shell"⟩) ∧
      ∀ x, tokenize ("\"é\"#1é2345" ++ x) none =
        some (.error ⟨.malformedColour .nonHexDigit "#1é2345", 4, "shell"⟩) := by
  have herror : tokenize "\"é\"#1é2345" none =
      some (.error ⟨.malformedColour .nonHexDigit "#1é2345", 4, "shell"⟩) := by cbv
  obtain ⟨a, b, -, -, -, -, hlasting, -⟩ := tokenize_error_extends herror
  exact ⟨herror, hlasting trivial⟩

end PixelScan
