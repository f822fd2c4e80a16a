import PixelScan.Proofs.Grammar

namespace PixelScan.Grammar

open Alphabet

variable {c : Char} {tail text : List Char}

def Decided (text : List Char) : Prop :=
  (∃ l rest t, text = l ++ rest ∧ Reads l rest t) ∨ ∃ fault, Spoils text fault

theorem exists_run (p : Char → Prop) [DecidablePred p] (text : List Char) :
    ∃ l rest, text = l ++ rest ∧ (∀ c ∈ l, p c) ∧ Stops p rest := by
  induction text with
  | nil => exact ⟨[], [], rfl, by simp, Stops.nil p⟩
  | cons c tail ih =>
      by_cases hc : p c
      · obtain ⟨l, rest, rfl, hl, hrest⟩ := ih
        exact ⟨c :: l, rest, rfl, by simpa using ⟨hc, hl⟩, hrest⟩
      · exact ⟨[], c :: tail, rfl, by simp, stops_cons_iff.2 hc⟩

theorem point_or_stops_numberChar (h : Stops Digit text) :
    (∃ tail, text = '.' :: tail) ∨ Stops NumberChar text := by
  cases text with
  | nil => exact .inr (Stops.nil _)
  | cons c tail =>
      by_cases hc : c = '.'
      · exact .inl ⟨tail, by rw [hc]⟩
      · exact .inr (stops_cons_iff.2 (not_or.2 ⟨stops_cons_iff.1 h, hc⟩))

theorem decided_word (hc : WordStart c) : Decided (c :: tail) := by
  obtain ⟨cs, rest, rfl, hcs, hrest⟩ := exists_run WordChar tail
  exact .inl ⟨c :: cs, rest, _, rfl, .word ⟨c, cs, rfl, hc, hcs⟩ hrest⟩

/-- A text begins with a run of digits, perhaps an empty one, which ends there, or which goes on
behind a point to where it ends or to a second point. -/
inductive Numeral : List Char → Prop
  | integer {ds rest} : Digits ds → Stops NumberChar rest → Numeral (ds ++ rest)
  | decimal {ds es rest} : Digits ds → Digits es → Stops NumberChar rest →
      Numeral (ds ++ '.' :: (es ++ rest))
  | secondPoint {ds es rest} : Digits ds → Digits es → Numeral (ds ++ '.' :: (es ++ '.' :: rest))

theorem numeral (text : List Char) : Numeral text := by
  obtain ⟨ds, rest, rfl, hds, hrest⟩ := exists_run Digit text
  rcases point_or_stops_numberChar hrest with ⟨rest, rfl⟩ | hrest
  · obtain ⟨es, rest, rfl, hes, hrest⟩ := exists_run Digit rest
    rcases point_or_stops_numberChar hrest with ⟨rest, rfl⟩ | hrest
    · exact .secondPoint hds hes
    · exact .decimal hds hes hrest
  · exact .integer hds hrest

theorem integer_of_cons {ds rest : List Char} (hc : Digit c) (hds : Digits ds)
    (htext : c :: tail = ds ++ rest) (hrest : Stops Digit rest) : Integer ds := by
  refine ⟨?_, hds⟩
  rintro rfl
  rw [List.nil_append] at htext
  exact stops_cons_iff.1 (htext ▸ hrest) hc

theorem decided_number (hc : Digit c) : Decided (c :: tail) := by
  generalize htext : c :: tail = text
  cases numeral text with
  | integer hds hrest =>
      have hwhole := integer_of_cons hc hds htext (stops_digit_of_numberChar hrest)
      exact .inl ⟨_, _, _, rfl, .integer hwhole hrest⟩
  | decimal hds hes hrest =>
      have hwhole := integer_of_cons hc hds htext stops_digit_point
      exact .inl ⟨_, _, _, by simp, .decimal ⟨_, _, rfl, hwhole, hes⟩ hrest⟩
  | secondPoint hds hes =>
      have hwhole := integer_of_cons hc hds htext stops_digit_point
      exact .inr ⟨_, by simpa using Spoils.number ⟨_, _, rfl, hwhole, hes⟩⟩

theorem colourText_cases (tail : List Char) :
    tail.length < 6 ∨ ∃ ds after, tail = ds ++ after ∧ ds.length = 6 ∧
      ((∀ d ∈ ds, HexDigit d) ∨ ∃ d ∈ ds, ¬ HexDigit d) := by
  by_cases hlength : tail.length < 6
  · exact .inl hlength
  · refine .inr ⟨tail.take 6, tail.drop 6, (List.take_append_drop 6 tail).symm, ?_, ?_⟩
    · rw [List.length_take]
      omega
    · by_cases hhex : ∀ d ∈ tail.take 6, HexDigit d
      · exact .inl hhex
      · exact .inr (by simpa using hhex)

theorem decided_colour : Decided ('#' :: tail) := by
  rcases colourText_cases tail with hlength | ⟨ds, after, rfl, hlength, hhex | hhex⟩
  · exact .inr ⟨_, .short hlength⟩
  · exact .inl ⟨'#' :: ds, after, _, rfl, .colour ⟨ds, rfl, hlength, hhex⟩⟩
  · exact .inr ⟨_, .nonHex hlength hhex⟩

theorem exists_spells (tail : List Char) : ∃ u v rest, tail = u ++ rest ∧ Spells u v ∧
    (rest = [] ∨ rest = ['\\'] ∨ (∃ more, rest = '"' :: more) ∨
      ∃ c more, rest = '\\' :: c :: more ∧ c ≠ 'n' ∧ c ≠ 't' ∧ c ≠ '\\') := by
  induction tail using Lexeme.stringBody.induct with
  | case1 => exact ⟨[], [], [], rfl, .nil, .inl rfl⟩
  | case2 more => exact ⟨[], [], '"' :: more, rfl, .nil, .inr (.inr (.inl ⟨more, rfl⟩))⟩
  | case3 => exact ⟨[], [], ['\\'], rfl, .nil, .inr (.inl rfl)⟩
  | case4 c more hc =>
      exact ⟨[], [], '\\' :: c :: more, rfl, .nil,
        .inr (.inr (.inr ⟨c, more, rfl, unescape?_eq_none_iff.1 hc⟩))⟩
  | case5 c tail d hd ih =>
      obtain ⟨u, v, rest, rfl, hu, hrest⟩ := ih
      exact ⟨'\\' :: c :: u, d :: v, rest, rfl, .escape (mem_escapes_iff.2 hd) hu, hrest⟩
  | case6 c tail hquote hlast hescape ih =>
      have hbackslash : c ≠ '\\' := by
        intro hc
        cases tail with
        | nil => exact hlast hc rfl
        | cons d tail => exact hescape d tail hc rfl
      obtain ⟨u, v, rest, rfl, hu, hrest⟩ := ih
      exact ⟨c :: u, c :: v, rest, rfl, .plain hquote hbackslash hu, hrest⟩

theorem decided_string : Decided ('"' :: tail) := by
  obtain ⟨u, v, rest, rfl, hu, hrest⟩ := exists_spells tail
  rcases hrest with rfl | rfl | ⟨more, rfl⟩ | ⟨c, more, rfl, hn, ht, hbackslash⟩
  · exact .inr ⟨_, by simpa using Spoils.unclosed hu⟩
  · exact .inr ⟨_, .backslash hu⟩
  · exact .inl ⟨'"' :: (u ++ ['"']), more, _, by simp, .string hu⟩
  · exact .inr ⟨_, .escape hu hn ht hbackslash⟩

theorem decided_of_not_blank (hc : c ∉ blanks) (tail : List Char) : Decided (c :: tail) := by
  obtain ⟨k, hclass⟩ : ∃ k, OfClass k c := ⟨_, ofClass_classify c⟩
  cases k with
  | whitespace => exact absurd hclass hc
  | alpha => exact decided_word hclass
  | digit => exact decided_number hclass
  | hash =>
      obtain rfl : c = '#' := hclass
      exact decided_colour
  | quote =>
      obtain rfl : c = '"' := hclass
      exact decided_string
  | operator => exact .inl ⟨[c], tail, _, rfl, .operator hclass⟩
  | delimiter => exact .inl ⟨[c], tail, _, rfl, .delimiter hclass⟩
  | invalid => exact .inr ⟨_, .unexpected hclass⟩

/-- Every text is read to its end, or up to the first place where no lexeme begins. -/
theorem splits_or_spoils (text : List Char) :
    (∃ ts, Splits text [] ts) ∨
      ∃ a b ts fault, text = a ++ b ∧ Splits a b ts ∧ Spoils b fault := by
  induction hlength : text.length using Nat.strongRecOn generalizing text with
  | ind n ih =>
      cases text with
      | nil => exact .inl ⟨[], .done blanks_nil⟩
      | cons c tail =>
          rw [List.length_cons] at hlength
          by_cases hc : c ∈ blanks
          · rcases ih tail.length (by omega) tail rfl with ⟨ts, h⟩ | ⟨a, b, ts, fault, rfl, ha, hb⟩
            · exact .inl ⟨ts, h.blank hc⟩
            · exact .inr ⟨c :: a, b, ts, fault, rfl, ha.blank hc, hb⟩
          · rcases decided_of_not_blank hc tail with ⟨l, rest, t, htext, hl⟩ | ⟨fault, h⟩
            · -- A lexeme is never empty, so what is behind it is shorter.
              have hshorter : rest.length < n := by
                have hpos := List.length_pos_iff.2 hl.ne_nil
                have htotal := congrArg List.length htext
                rw [List.length_cons, List.length_append] at htotal
                omega
              rw [htext]
              rcases ih rest.length hshorter rest rfl with ⟨ts, h⟩ | ⟨a, b, ts, fault, rfl, ha, hb⟩
              · exact .inl ⟨t :: ts, .lexeme (by simpa using hl) h⟩
              · exact .inr ⟨l ++ a, b, t :: ts, fault, by simp, .lexeme hl ha, hb⟩
            · exact .inr ⟨[], c :: tail, [], fault, rfl, .done blanks_nil, h⟩

end PixelScan.Grammar
