import PixelScan.Proofs.Checked.Agreement
import PixelScan.Proofs.Stepping

namespace PixelScan

open Alphabet

def CharAt (cs : List Char) (i : Nat) (c : Char) : Prop :=
  ∃ before after, cs = before ++ c :: after ∧ byteLength before = i

def NearEnd (cs : List Char) (i : Nat) : Prop :=
  ∃ before after, cs = before ++ after ∧ byteLength before = i ∧ after.length < 6

theorem CharAt.boundary {cs : List Char} {i : Nat} (h : CharAt cs i c) : Boundary cs i := by
  obtain ⟨before, after, hcs, hbefore⟩ := h
  exact ⟨before, c :: after, hcs, hbefore⟩

theorem Lexeme.colour_eq_tooShort_iff {tail : List Char} :
    colour tail = .error .tooShort ↔ tail.length < colourDigits := by
  constructor
  · intro h
    apply Nat.lt_of_not_le
    intro hlong
    have htake : ¬ (tail.take colourDigits).length < colourDigits := by
      rw [List.length_take]
      omega
    simp only [colour, if_neg htake] at h
    split at h <;> cases h
  · exact colour_short

namespace Scanner

/-- The byte under the cursor is not there, or is not the last of a character. -/
def LacksMark (s : Scanner) : Prop :=
  byteLength s.source ≤ s.pos ∨ ¬ Boundary s.source (s.pos + 1)

/-- A colour is read behind its mark, and in front of it only to report one that is cut short. -/
def MisusesColour (s : Scanner) : Prop :=
  s.LacksMark ∨ ¬ Boundary s.source s.pos ∧ NearEnd s.source (s.pos + 1)

def Misuse (s : Scanner) : Command → Prop
  | .word | .boolean | .number => ¬ Boundary s.source s.pos
  | .operator c | .delimiter c => ¬ Boundary s.source s.pos ∨ ¬ CharAt s.source s.pos c
  | .colour => s.MisusesColour
  | .string => s.LacksMark
  | .step => s.state ≠ .start ∨ ¬ Boundary s.source s.pos
  | .extract =>
    match s.state with
    | .start => False
    | .inIdentifier | .inNumber | .inBoolean | .inAssignOrOperator => ¬ Boundary s.source s.pos
    | .inColour => s.MisusesColour
    | .inString => s.LacksMark
  | .advance n => UInt64.size ≤ s.pos + n
  | .enter _ | .push _ => False

variable {s : Scanner} {c : Char} {tail : List Char}

theorem remainder?_eq_none_iff : s.remainder? = none ↔ ¬ Boundary s.source s.pos :=
  dropBytes?_eq_none_iff

theorem peek?_eq_none_iff : s.peek? = none ↔ ¬ Boundary s.source s.pos :=
  Option.map_eq_none_iff.trans remainder?_eq_none_iff

theorem peek?_eq_some_iff : s.peek? = some (some c) ↔ CharAt s.source s.pos c := by
  constructor
  · intro h
    obtain ⟨tail, hrest⟩ := exists_remainder?_of_peek? h
    obtain ⟨before, hsource, hpos⟩ := remainder?_eq_some_iff.1 hrest
    exact ⟨before, tail, hsource, hpos⟩
  · rintro ⟨before, tail, hsource, hpos⟩
    have hrest : s.remainder? = some (c :: tail) :=
      remainder?_eq_some_iff.2 ⟨before, hsource, hpos⟩
    rw [peek?, hrest]
    rfl

theorem tail?_eq_none_iff : s.tail? = none ↔ s.LacksMark := by
  rw [tail?, dropBytes?_eq_none_iff, LacksMark]
  constructor
  · exact .inr
  · rintro (hend | hoff) hboundary
    · have := hboundary.le
      omega
    · exact hoff hboundary

theorem word_eq_none_iff : s.word = none ↔ ¬ Boundary s.source s.pos :=
  Option.map_eq_none_iff.trans remainder?_eq_none_iff

theorem boolean_eq_none_iff : s.boolean = none ↔ ¬ Boundary s.source s.pos :=
  Option.map_eq_none_iff.trans remainder?_eq_none_iff

theorem number_eq_none_iff : s.number = none ↔ ¬ Boundary s.source s.pos :=
  Option.map_eq_none_iff.trans remainder?_eq_none_iff

theorem string_eq_none_iff : s.string = none ↔ s.LacksMark :=
  Option.map_eq_none_iff.trans tail?_eq_none_iff

theorem nearEnd_iff (h : s.tail? = some tail) :
    NearEnd s.source (s.pos + 1) ↔ tail.length < Lexeme.colourDigits := by
  constructor
  · rintro ⟨before, after, hsource, hbefore, hlength⟩
    have hafter : s.tail? = some after := dropBytes?_eq_some_iff.2 ⟨before, hsource, hbefore⟩
    rw [h] at hafter
    cases hafter
    exact hlength
  · intro hlength
    obtain ⟨before, hsource, hbefore⟩ := dropBytes?_eq_some_iff.1 h
    exact ⟨before, tail, hsource, hbefore, hlength⟩

theorem colour_eq_none_iff : s.colour = none ↔ s.MisusesColour := by
  rw [MisusesColour, ← tail?_eq_none_iff, ← remainder?_eq_none_iff, colour]
  cases h : s.tail? with
  | none => simp
  | some tail =>
      rw [nearEnd_iff h, ← Lexeme.colour_eq_tooShort_iff, Option.bind_some]
      cases Lexeme.colour tail with
      | ok l => simp
      | error defect => cases defect <;> simp

theorem peek?_ne_iff :
    s.peek? ≠ some (some c) ↔ ¬ Boundary s.source s.pos ∨ ¬ CharAt s.source s.pos c := by
  rw [Ne, peek?_eq_some_iff]
  constructor
  · exact .inr
  · rintro (hoff | hother) hc
    · exact hoff hc.boundary
    · exact hother hc

theorem operator_eq_none_iff :
    s.operator c = none ↔ ¬ Boundary s.source s.pos ∨ ¬ CharAt s.source s.pos c := by
  rw [← peek?_ne_iff, operator]
  split <;> simp_all

theorem delimiter_eq_none_iff :
    s.delimiter c = none ↔ ¬ Boundary s.source s.pos ∨ ¬ CharAt s.source s.pos c := by
  rw [← peek?_ne_iff, delimiter]
  split <;> simp_all

theorem extract_eq_none_iff : s.extract = none ↔ s.Misuse .extract := by
  rw [extract, Misuse]
  cases s.state with
  | start => simp
  | inIdentifier => exact word_eq_none_iff
  | inNumber => exact number_eq_none_iff
  | inColour => exact colour_eq_none_iff
  | inBoolean => exact boolean_eq_none_iff
  | inAssignOrOperator =>
      -- The character that is asked for is the one that was found.
      rw [← peek?_eq_none_iff]
      cases h : s.peek? with
      | none => simp
      | some found =>
          cases found with
          | none => simp
          | some c => simp [operator, h]
  | inString => exact string_eq_none_iff

theorem step_ne_none_of_facing {rest : List Char} (h : s.Facing rest) : s.step ≠ none := by
  cases rest with
  | nil => simp [step, h.state, h.remainder]
  | cons c tail =>
      by_cases hc : c ∈ blanks
      · simp [step_blank h hc]
      · simp [step_eq_settle h hc]

theorem step_eq_none_iff : s.step = none ↔ s.state ≠ .start ∨ ¬ Boundary s.source s.pos := by
  rw [← remainder?_eq_none_iff]
  constructor
  · intro hstep
    by_cases hstart : s.state = .start
    · cases hrest : s.remainder? with
      | none => exact .inr rfl
      | some rest => exact absurd hstep (step_ne_none_of_facing ⟨hstart, hrest⟩)
    · exact .inl hstart
  · rintro (hstate | hrest)
    · rw [step, if_neg hstate]
    · simp [step, hrest]

theorem advance?_eq_none_iff {n : Nat} : s.advance? n = none ↔ UInt64.size ≤ s.pos + n := by
  rw [advance?, ← Nat.not_lt]
  split <;> simp_all

theorem perform_eq_none_iff {command : Command} :
    s.perform command = none ↔ s.Misuse command := by
  cases command with
  | step => exact step_eq_none_iff
  | extract => exact extract_eq_none_iff
  | enter st => simp [perform, Misuse]
  | advance n => exact Option.map_eq_none_iff.trans advance?_eq_none_iff
  | push tok => simp [perform, Misuse]
  | word => exact word_eq_none_iff
  | boolean => exact boolean_eq_none_iff
  | number => exact number_eq_none_iff
  | colour => exact colour_eq_none_iff
  | string => exact string_eq_none_iff
  | operator c => exact operator_eq_none_iff
  | delimiter c => exact delimiter_eq_none_iff

theorem Reaches.sound {source : String} {file : Option String}
    (h : (ofString source file).Reaches s) (hsize : source.utf8ByteSize ≤ maxBytes) :
    Checked.Sound s := by
  have hs := h.continues_ofString
  have hlength : byteLength s.source = source.utf8ByteSize := by
    rw [hs.source]
    exact byteLength_toList source
  exact ⟨hs.source ▸ hs.inside, hlength ▸ hsize⟩

/-- Whatever was asked of a scanner before, it has no reply just to a misuse, and the arithmetic of
the machine adds none. Where its cursor is, what state it is in and what tokens it has may always be
asked. -/
theorem perform_eq_none_iff_misuse {source : String} {file : Option String}
    (h : (ofString source file).Reaches s) :
    (∀ command, s.perform command = none ↔ s.Misuse command) ∧
      (s.peek? = none ↔ ¬ Boundary s.source s.pos) ∧
      (s.remainder? = none ↔ ¬ Boundary s.source s.pos) ∧
      (source.utf8ByteSize ≤ maxBytes →
        ∀ command, Checked.perform s command = s.perform command) := by
  refine ⟨fun command => perform_eq_none_iff, peek?_eq_none_iff, remainder?_eq_none_iff, ?_⟩
  intro hsize command
  exact Checked.perform_eq (h.sound hsize) command

/-- A colour that is cut short and begins inside a character cannot even be reported. -/
theorem perform_eq_none_iff_misuse_short_colour :
    ∃ s, (ofString "日1" none).Reaches s ∧ s.pos = 2 ∧ ¬ s.LacksMark ∧ s.perform .colour = none := by
  have hadvance : (ofString "日1" none).perform (.advance 2) =
      some ⟨{ ofString "日1" none with pos := 2 }, none⟩ := by rfl
  have hreaches := Reaches.perform .refl hadvance
  have hinside : ¬ Boundary "日1".toList 2 := dropBytes?_eq_none_iff.1 rfl
  have hnear : NearEnd "日1".toList 3 := ⟨['日'], ['1'], rfl, rfl, by decide⟩
  refine ⟨_, hreaches, rfl, ?_, ?_⟩
  · intro hlacks
    cases tail?_eq_none_iff.2 hlacks
  · exact ((perform_eq_none_iff_misuse hreaches).1 .colour).2 (.inr ⟨hinside, hnear⟩)

end Scanner

end PixelScan
