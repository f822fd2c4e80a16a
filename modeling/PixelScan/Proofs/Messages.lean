import PixelScan.LexError
import PixelScan.Proofs.Quotation

namespace PixelScan

open Quotation

inductive Complaint
  | unexpectedCharacter | malformedNumber | malformedColour (defect : ColourDefect)
  | malformedBoolean | invalidEscape | unterminatedString
deriving DecidableEq

namespace Complaint

def all : List Complaint :=
  [unexpectedCharacter, malformedNumber, malformedColour .tooShort, malformedColour .nonHexDigit,
    malformedBoolean, invalidEscape, unterminatedString]

theorem mem_all (k : Complaint) : k ∈ all := by
  rcases k with _ | _ | ⟨_ | _⟩ | _ | _ | _ <;> decide

def words : Complaint → String
  | unexpectedCharacter => "unexpected character: "
  | malformedNumber => "invalid number format (multiple decimal points): "
  | malformedColour defect => "invalid colour format (" ++ defect.describe ++ "): "
  | malformedBoolean => "invalid boolean literal: "
  | invalidEscape => "invalid escape sequence: \\"
  | unterminatedString => "unterminated string literal"

theorem eq_of_words_prefix {k k' : Complaint} (h : k.words.toList <+: k'.words.toList) :
    k = k' := by
  have hall : ∀ k ∈ all, ∀ k' ∈ all, k.words.toList <+: k'.words.toList → k = k' := by decide
  exact hall k k.mem_all k' k'.mem_all h

end Complaint

namespace Fault

def complaint : Fault → Complaint
  | unexpectedCharacter _ => .unexpectedCharacter
  | malformedNumber _ => .malformedNumber
  | malformedColour defect _ => .malformedColour defect
  | malformedBoolean _ => .malformedBoolean
  | invalidEscape _ => .invalidEscape
  | unterminatedString => .unterminatedString

def Repeats : Fault → List Char → Prop
  | unexpectedCharacter c, text => Quotes '\'' [c] text
  | malformedNumber s, text | malformedColour _ s, text | malformedBoolean s, text =>
      Quotes '"' s.toList text
  | invalidEscape c, text => text = [c]
  | unterminatedString, text => text = []

/-- A text that puts a fault into words. There is a choice of them only as quotations leave one. -/
def Worded (f : Fault) (text : List Char) : Prop :=
  ∃ repeated, f.Repeats repeated ∧ text = f.complaint.words.toList ++ repeated

variable {f g : Fault} {v w x y : List Char}

theorem worded_of_cause_eq {repeated : List Char} (hrepeats : f.Repeats repeated)
    (h : f.cause = f.complaint.words ++ String.ofList repeated) : f.Worded f.cause.toList := by
  refine ⟨repeated, hrepeats, ?_⟩
  rw [h, String.toList_append, String.toList_ofList]

theorem worded_cause (f : Fault) : f.Worded f.cause.toList := by
  cases f with
  | unexpectedCharacter c => exact worded_of_cause_eq (quotes_quote '\'' [c]) rfl
  | malformedNumber s | malformedColour _ s | malformedBoolean s =>
      exact worded_of_cause_eq (quotes_quote '"' s.toList) rfl
  | invalidEscape c => exact worded_of_cause_eq rfl rfl
  | unterminatedString => exact worded_of_cause_eq rfl rfl

theorem Repeats.append_inj (hcomplaint : f.complaint = g.complaint) (hf : f.Repeats v)
    (hg : g.Repeats w) (h : v ++ x = w ++ y) : f = g ∧ x = y := by
  have hstring : ∀ s s' : String, Quotes '"' s.toList v → Quotes '"' s'.toList w →
      s = s' ∧ x = y := by
    intro s s' hs hs'
    obtain ⟨htext, hrest⟩ := hs.append_inj (by decide) hs' h
    exact ⟨String.toList_inj.1 htext, hrest⟩
  cases f with
  | unexpectedCharacter c =>
      cases g with
      | unexpectedCharacter c' =>
          obtain ⟨hc, hrest⟩ := Quotes.append_inj (by decide) hf hg h
          exact ⟨congrArg _ (List.singleton_inj.1 hc), hrest⟩
      | _ => cases hcomplaint
  | malformedNumber s =>
      cases g with
      | malformedNumber s' =>
          obtain ⟨rfl, hrest⟩ := hstring s s' hf hg
          exact ⟨rfl, hrest⟩
      | _ => cases hcomplaint
  | malformedColour defect s =>
      cases g with
      | malformedColour defect' s' =>
          obtain ⟨rfl, hrest⟩ := hstring s s' hf hg
          cases hcomplaint
          exact ⟨rfl, hrest⟩
      | _ => cases hcomplaint
  | malformedBoolean s =>
      cases g with
      | malformedBoolean s' =>
          obtain ⟨rfl, hrest⟩ := hstring s s' hf hg
          exact ⟨rfl, hrest⟩
      | _ => cases hcomplaint
  | invalidEscape c =>
      cases g with
      | invalidEscape c' =>
          cases hf
          cases hg
          obtain ⟨rfl, hrest⟩ := List.cons.inj h
          exact ⟨rfl, hrest⟩
      | _ => cases hcomplaint
  | unterminatedString =>
      cases g with
      | unterminatedString =>
          cases hf
          cases hg
          exact ⟨rfl, h⟩
      | _ => cases hcomplaint

/-- The words of a fault tell it, and where they end, whatever follows them. -/
theorem Worded.append_inj (hf : f.Worded v) (hg : g.Worded w) (h : v ++ x = w ++ y) :
    f = g ∧ x = y := by
  obtain ⟨p, hp, rfl⟩ := hf
  obtain ⟨q, hq, rfl⟩ := hg
  rw [List.append_assoc, List.append_assoc] at h
  have hcomplaint : f.complaint = g.complaint := by
    rcases List.prefix_or_prefix_of_prefix ⟨_, h⟩ ⟨_, rfl⟩ with hwords | hwords
    · exact Complaint.eq_of_words_prefix hwords
    · exact (Complaint.eq_of_words_prefix hwords).symm
  rw [hcomplaint, List.append_cancel_left_eq] at h
  exact hp.append_inj hcomplaint hq h

end Fault

namespace LexError

def Worded (e : LexError) (text : String) : Prop :=
  ∃ cause, e.fault.Worded cause ∧
    text = String.ofList cause ++ " at " ++ e.position.file ++ ":" ++
      toString e.position.offset.toNat

theorem worded_message (e : LexError) : e.Worded e.message := by
  refine ⟨e.fault.cause.toList, e.fault.worded_cause, ?_⟩
  rw [String.ofList_toList, message]

theorem Worded.unique {e e' : LexError} {text : String} (h : e.Worded text) (h' : e'.Worded text) :
    e = e' := by
  obtain ⟨fault, offset, file⟩ := e
  obtain ⟨fault', offset', file'⟩ := e'
  obtain ⟨v, hv, htext⟩ := h
  obtain ⟨w, hw, htext'⟩ := h'
  have heq : v ++ (" at ".toList ++ (file.toList ++ ':' :: Nat.toDigits 10 offset.toNat)) =
      w ++ (" at ".toList ++ (file'.toList ++ ':' :: Nat.toDigits 10 offset'.toNat)) := by
    simpa using congrArg String.toList (htext.symm.trans htext')
  obtain ⟨rfl, hplace⟩ := hv.append_inj hw heq
  -- A file may have colons in its name, so it is the last one that the offset stands behind.
  have hcolon : ∀ n : Nat, ':' ∉ Nat.toDigits 10 n := by
    intro n
    exact notMem_toDigits (by decide) (by simp)
  obtain ⟨hfile, hdigits⟩ := append_inj_of_last (hcolon offset.toNat) (hcolon offset'.toNat)
    (List.append_cancel_left hplace)
  obtain rfl := String.toList_inj.1 hfile
  obtain rfl := UInt32.toNat_inj.1 (toDigits_inj (by decide) (by decide) hdigits)
  rfl

/-- A message is about one error only, even if it is left open which characters its quotations
write by their code points. -/
theorem message_identifies (e e' : LexError) :
    e.Worded e.message ∧ (e.message = e'.message ↔ e = e') ∧
      ((∃ text, e.Worded text ∧ e'.Worded text) ↔ e = e') := by
  refine ⟨e.worded_message, ⟨?_, congrArg message⟩, ⟨?_, ?_⟩⟩
  · intro h
    exact e.worded_message.unique (h ▸ e'.worded_message)
  · rintro ⟨text, h, h'⟩
    exact h.unique h'
  · rintro rfl
    exact ⟨e.message, e.worded_message, e.worded_message⟩

example : message ⟨.malformedBoolean "\"\n", ⟨7, "b at c:1"⟩⟩ =
    "invalid boolean literal: \"\\\"\\n\" at b at c:1:7" := by decide

end LexError

end PixelScan
