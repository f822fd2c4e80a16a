import PixelScan.Proofs.Acceptance
import PixelScan.Proofs.Misuse

namespace PixelScan

open Alphabet Grammar

variable {P Q : List Char → Prop} {p : Char → Prop} {c : Char}
  {l ds es tail text rest : List Char}

structure Longest (P : List Char → Prop) (l text : List Char) : Prop where
  begins : l <+: text
  holds : P l
  longest : ∀ m, m <+: text → P m → m.length ≤ l.length

/-- Digits with no more than one point among them. There may be none on either side of it, or none
at all. -/
def Numeric (l : List Char) : Prop :=
  Digits l ∨ ∃ ds es, l = ds ++ '.' :: es ∧ Digits ds ∧ Digits es

theorem Longest.of_imp (h : Longest P l text) (hl : Q l) (hQ : ∀ m, Q m → P m) :
    Longest Q l text :=
  ⟨h.begins, hl, fun m hm hq => h.longest m hm (hQ m hq)⟩

theorem longest_append (hl : P l) (h : ∀ c tail, rest = c :: tail → ∀ x, ¬ P (l ++ c :: x)) :
    Longest P l (l ++ rest) := by
  refine ⟨List.prefix_append l rest, hl, ?_⟩
  intro m hm hP
  rcases List.prefix_or_prefix_of_prefix hm (List.prefix_append l rest) with hml | ⟨x, rfl⟩
  · exact hml.length_le
  · cases x with
    | nil => simp
    | cons c x =>
        obtain ⟨y, hy⟩ := (List.prefix_append_right_inj l).1 hm
        exact absurd hP (h c (x ++ y) hy.symm x)

theorem longest_of_stops (hl : ∀ c ∈ l, p c) (hrest : Stops p rest) :
    Longest (fun m => ∀ c ∈ m, p c) l (l ++ rest) := by
  apply longest_append hl
  rintro c tail rfl x hx
  exact stops_cons_iff.1 hrest (hx c (by simp))

theorem Numeric.numberChar (h : Numeric l) : ∀ c ∈ l, NumberChar c := by
  rcases h with hds | ⟨ds, es, rfl, hds, hes⟩
  · intro c hc
    exact .inl (hds c hc)
  · exact numberChar_of_point hds hes

theorem point_notMem_of_digits (h : Digits ds) : '.' ∉ ds := by
  intro hmem
  exact absurd (h _ hmem) (by decide)

theorem Numeric.count_point_le (h : Numeric l) : l.count '.' ≤ 1 := by
  rcases h with hds | ⟨ds, es, rfl, hds, hes⟩
  · rw [List.count_eq_zero_of_not_mem (point_notMem_of_digits hds)]
    exact Nat.zero_le 1
  · simp [List.count_eq_zero_of_not_mem, point_notMem_of_digits hds, point_notMem_of_digits hes]

theorem longest_numeric_of_stops (hl : Numeric l) (hrest : Stops NumberChar rest) :
    Longest Numeric l (l ++ rest) :=
  (longest_of_stops hl.numberChar hrest).of_imp hl fun _ hm => hm.numberChar

theorem longest_numeric_secondPoint (hds : Digits ds) (hes : Digits es) (rest : List Char) :
    Longest Numeric (ds ++ '.' :: es) (ds ++ '.' :: es ++ '.' :: rest) := by
  apply longest_append (.inr ⟨ds, es, rfl, hds, hes⟩)
  rintro c tail heq x hx
  obtain ⟨rfl, -⟩ := List.cons.inj heq
  have hcount := hx.count_point_le
  rw [List.count_append, List.count_append, List.count_cons_self, List.count_cons_self] at hcount
  omega

def SecondPoint (n text : List Char) : Prop := '.' ∈ n ∧ n ++ ['.'] <+: text

instance (n text : List Char) : Decidable (SecondPoint n text) :=
  inferInstanceAs (Decidable (_ ∧ _))

theorem not_secondPoint_of_stops (hrest : Stops NumberChar rest) : ¬ SecondPoint l (l ++ rest) := by
  rintro ⟨-, hprefix⟩
  obtain ⟨tail, htail⟩ := (List.prefix_append_right_inj l).1 hprefix
  exact Lexeme.ne_point_of_stops hrest tail htail.symm

namespace Lexeme

theorem boolean_append (hl : ∀ c ∈ l, WordChar c) (hrest : Stops WordChar rest) :
    boolean (l ++ rest) =
      if String.ofList l ∈ booleanWords then .ok (verbatim .booleanLiteral l)
      else .error (.malformedBoolean (String.ofList l)) := by
  simp only [boolean, wordRun, (span_append continues_inIdentifier_iff hl hrest).1]

/-- Reading a number takes the longest beginning that could be one, whether it is one or not. -/
theorem exists_longest_numeric (text : List Char) :
    ∃ n, Longest Numeric n text ∧
      number text =
        if SecondPoint n text then .error (.malformedNumber (String.ofList (n ++ ['.'])))
        else .ok (verbatim (if '.' ∈ n then .floatLiteral else .integerLiteral) n) := by
  cases numeral text with
  | @integer ds rest hds hrest =>
      refine ⟨ds, longest_numeric_of_stops (.inl hds) hrest, ?_⟩
      rw [number_integer hds hrest, if_neg (not_secondPoint_of_stops hrest),
        if_neg (point_notMem_of_digits hds)]
  | @decimal ds es rest hds hes hrest =>
      have hpoint : '.' ∈ ds ++ '.' :: es := by simp
      rw [number_decimal hds hes hrest, ← List.cons_append, ← List.append_assoc]
      refine ⟨ds ++ '.' :: es, longest_numeric_of_stops (.inr ⟨ds, es, rfl, hds, hes⟩) hrest, ?_⟩
      rw [if_neg (not_secondPoint_of_stops hrest), if_pos hpoint]
  | @secondPoint ds es rest hds hes =>
      have hpoint : '.' ∈ ds ++ '.' :: es := by simp
      rw [number_secondPoint hds hes, ← List.cons_append, ← List.append_assoc]
      have hsecond : SecondPoint (ds ++ '.' :: es) (ds ++ '.' :: es ++ '.' :: rest) :=
        ⟨hpoint, rest, by simp⟩
      exact ⟨ds ++ '.' :: es, longest_numeric_secondPoint hds hes rest, (if_pos hsecond).symm⟩

end Lexeme

namespace Scanner

variable {s : Scanner} {command : Command} {tok : Token} {fault : Fault} {lexeme : Lexeme}
  {a u v w after : List Char}

def Succeeds (s : Scanner) (command : Command) : Prop := ∃ t, s.perform command = some ⟨t, none⟩

def Yields (s : Scanner) (command : Command) (a : List Char) (tok : Token) : Prop :=
  ∃ t, s.perform command = some ⟨t, none⟩ ∧ Moves s t a [tok]

def Refuses (s : Scanner) (command : Command) (fault : Fault) : Prop :=
  s.perform command = some ⟨s, some ⟨fault, ⟨s.pos.toUInt32, s.file⟩⟩⟩

theorem Yields.succeeds (h : s.Yields command a tok) : s.Succeeds command := by
  obtain ⟨t, ht, -⟩ := h
  exact ⟨t, ht⟩

theorem Refuses.not_succeeds (h : s.Refuses command fault) : ¬ s.Succeeds command := by
  rintro ⟨t, ht⟩
  rw [Refuses, ht] at h
  cases h

theorem yields_accepted (h : s.perform command = some (s.accepted lexeme))
    (hwidth : lexeme.width = byteLength a) : s.Yields command a lexeme.token := by
  refine ⟨s.accept lexeme, h, rfl, rfl, ?_, rfl, ?_⟩
  · rw [pos_accept, hwidth]
  · simp [accept, push, record]

theorem refuses_refused (h : s.perform command = some (s.refused fault)) :
    s.Refuses command fault := h

structure TakesWord (s : Scanner) (w rest : List Char) : Prop where
  longest : Longest (fun l => ∀ c ∈ l, WordChar c) w rest
  yields : s.Yields .word w
    ⟨(reservedKind? (String.ofList w)).getD .identifier, String.ofList w⟩

/-- Reading a number takes what could be one, unless another point follows the one in it. -/
structure TakesNumber (s : Scanner) (n rest : List Char) : Prop where
  longest : Longest Numeric n rest
  refuses_iff :
    s.Refuses .number (.malformedNumber (String.ofList (n ++ ['.']))) ↔ SecondPoint n rest
  yields : ¬ SecondPoint n rest → s.Yields .number n
    ⟨if '.' ∈ n then .floatLiteral else .integerLiteral, String.ofList n⟩

/-- Reading a colour takes any character of one byte for the mark, with the six after it. -/
structure TakesColour (s : Scanner) (c : Char) (tail : List Char) : Prop where
  succeeds_iff : s.Succeeds .colour ↔
    ∃ ds after, tail = ds ++ after ∧ ds.length = 6 ∧ ∀ d ∈ ds, HexDigit d
  yields : ∀ ds after, tail = ds ++ after → ds.length = 6 → (∀ d ∈ ds, HexDigit d) →
    s.Yields .colour (c :: ds) ⟨.colourLiteral, String.ofList ('#' :: ds)⟩ ∧
      byteLength (c :: ds) = 7
  nonHexDigit : ∀ ds after, tail = ds ++ after → ds.length = 6 → (∃ d ∈ ds, ¬ HexDigit d) →
    s.Refuses .colour (.malformedColour .nonHexDigit (String.ofList ('#' :: ds)))
  tooShort : tail.length < 6 →
    s.Refuses .colour (.malformedColour .tooShort (String.ofList (c :: tail)))

structure TakesString (s : Scanner) (c : Char) (tail : List Char) : Prop where
  succeeds_iff : s.Succeeds .string ↔ ∃ u v after, tail = u ++ '"' :: after ∧ Spells u v
  yields : ∀ u v after, tail = u ++ '"' :: after → Spells u v →
    s.Yields .string (c :: (u ++ ['"'])) ⟨.stringLiteral, String.ofList v⟩
  invalidEscape : ∀ u v d after, tail = u ++ '\\' :: d :: after → Spells u v →
    d ≠ 'n' → d ≠ 't' → d ≠ '\\' → s.Refuses .string (.invalidEscape d)
  unterminated : ∀ u v, tail = u ∨ tail = u ++ ['\\'] → Spells u v →
    s.Refuses .string .unterminatedString

theorem yields_word (h : s.remainder? = some (w ++ rest)) (hw : ∀ c ∈ w, WordChar c)
    (hrest : Stops WordChar rest) :
    s.Yields .word w ⟨(reservedKind? (String.ofList w)).getD .identifier, String.ofList w⟩ := by
  have hperform : s.perform .word =
      some (s.accepted (.verbatim (wordKind (String.ofList w)) w)) := by
    simp only [perform, word, h, Option.map_some, Lexeme.word_append hw hrest]
  exact yields_accepted hperform rfl

theorem takesWord (h : s.remainder? = some rest) : ∃ w, s.TakesWord w rest := by
  obtain ⟨w, after, rfl, hw, hafter⟩ := exists_run WordChar rest
  exact ⟨w, longest_of_stops hw hafter, yields_word h hw hafter⟩

theorem takesNumber (h : s.remainder? = some rest) : ∃ n, s.TakesNumber n rest := by
  obtain ⟨n, hlongest, hnumber⟩ := Lexeme.exists_longest_numeric rest
  have hperform : s.perform .number = some (s.settle (Lexeme.number rest)) := by
    simp only [perform, number, h, Option.map_some]
  rw [hnumber] at hperform
  have hrefuses (hsecond : SecondPoint n rest) :
      s.Refuses .number (.malformedNumber (String.ofList (n ++ ['.']))) := by
    rw [if_pos hsecond] at hperform
    exact refuses_refused hperform
  have hyields (hsecond : ¬ SecondPoint n rest) : s.Yields .number n
      ⟨if '.' ∈ n then .floatLiteral else .integerLiteral, String.ofList n⟩ := by
    rw [if_neg hsecond] at hperform
    exact yields_accepted hperform rfl
  refine ⟨n, hlongest, ⟨?_, hrefuses⟩, hyields⟩
  intro hrefused
  apply Decidable.byContradiction
  intro hsecond
  exact hrefused.not_succeeds (hyields hsecond).succeeds

theorem utf8Size_of_hexDigit (h : HexDigit c) : c.utf8Size = 1 := by
  have hascii : c ≤ '\x7f' := by
    rcases h with ⟨-, h⟩ | ⟨-, h⟩ | ⟨-, h⟩ <;> exact Char.le_trans h (by decide)
  exact Char.utf8Size_eq_one_iff.2 hascii

theorem byteLength_hexDigits (hds : ∀ d ∈ ds, HexDigit d) : byteLength ds = ds.length := by
  induction ds with
  | nil => rfl
  | cons d ds ih =>
      obtain ⟨hd, hds⟩ := List.forall_mem_cons.1 hds
      rw [byteLength_cons, utf8Size_of_hexDigit hd, ih hds, List.length_cons, Nat.add_comm]

theorem yields_colour (h : s.remainder? = some (c :: (ds ++ after))) (hc : c.utf8Size = 1)
    (hlength : ds.length = 6) (hhex : ∀ d ∈ ds, HexDigit d) :
    s.Yields .colour (c :: ds) ⟨.colourLiteral, String.ofList ('#' :: ds)⟩ := by
  have hperform : s.perform .colour =
      some (s.accepted (.verbatim .colourLiteral ('#' :: ds))) := by
    simp only [perform, colour, tail?_of_remainder? h hc, Option.bind_some,
      Lexeme.colour_digits hlength hhex]
  exact yields_accepted hperform (congrArg (· + byteLength ds) hc.symm)

theorem refuses_nonHexDigit (h : s.remainder? = some (c :: (ds ++ after))) (hc : c.utf8Size = 1)
    (hlength : ds.length = 6) (hhex : ∃ d ∈ ds, ¬ HexDigit d) :
    s.Refuses .colour (.malformedColour .nonHexDigit (String.ofList ('#' :: ds))) := by
  apply refuses_refused
  simp only [perform, colour, tail?_of_remainder? h hc, Option.bind_some,
    Lexeme.colour_nonHex hlength hhex, Lexeme.take_colourDigits hlength]

theorem refuses_tooShort (h : s.remainder? = some (c :: tail)) (hc : c.utf8Size = 1)
    (hlength : tail.length < 6) :
    s.Refuses .colour (.malformedColour .tooShort (String.ofList (c :: tail))) := by
  apply refuses_refused
  simp only [perform, colour, tail?_of_remainder? h hc, Option.bind_some,
    Lexeme.colour_short hlength, h, Option.map_some]

theorem takesColour (h : s.remainder? = some (c :: tail)) (hc : c.utf8Size = 1) :
    s.TakesColour c tail := by
  refine ⟨⟨?_, ?_⟩, ?_, ?_, refuses_tooShort h hc⟩
  · intro hsucceeds
    rcases colourText_cases tail with hlength | ⟨ds, after, rfl, hlength, hhex | hhex⟩
    · exact absurd hsucceeds (refuses_tooShort h hc hlength).not_succeeds
    · exact ⟨ds, after, rfl, hlength, hhex⟩
    · exact absurd hsucceeds (refuses_nonHexDigit h hc hlength hhex).not_succeeds
  · rintro ⟨ds, after, rfl, hlength, hhex⟩
    exact (yields_colour h hc hlength hhex).succeeds
  · rintro ds after rfl hlength hhex
    refine ⟨yields_colour h hc hlength hhex, ?_⟩
    rw [byteLength_cons, hc, byteLength_hexDigits hhex, hlength]
  · rintro ds after rfl hlength hhex
    exact refuses_nonHexDigit h hc hlength hhex

theorem perform_string (h : s.remainder? = some (c :: tail)) (hc : c.utf8Size = 1) :
    s.perform .string = some (s.settle (Lexeme.string tail)) := by
  simp only [perform, string, tail?_of_remainder? h hc, Option.map_some]

theorem yields_string (h : s.remainder? = some (c :: (u ++ '"' :: after))) (hc : c.utf8Size = 1)
    (hu : Spells u v) : s.Yields .string (c :: (u ++ ['"'])) ⟨.stringLiteral, String.ofList v⟩ := by
  have hperform := perform_string h hc
  rw [Lexeme.string_closed hu] at hperform
  exact yields_accepted hperform (congrArg (· + byteLength (u ++ ['"'])) hc.symm)

theorem refuses_string (h : s.remainder? = some (c :: tail)) (hc : c.utf8Size = 1)
    (hfault : Lexeme.string tail = .error fault) : s.Refuses .string fault := by
  have hperform := perform_string h hc
  rw [hfault] at hperform
  exact refuses_refused hperform

theorem takesString (h : s.remainder? = some (c :: tail)) (hc : c.utf8Size = 1) :
    s.TakesString c tail := by
  have hescape : ∀ u v d after, tail = u ++ '\\' :: d :: after → Spells u v →
      d ≠ 'n' → d ≠ 't' → d ≠ '\\' → s.Refuses .string (.invalidEscape d) := by
    rintro u v d after rfl hu hn ht hbackslash
    have hd := unescape?_eq_none_iff.2 ⟨hn, ht, hbackslash⟩
    exact refuses_string h hc (Lexeme.string_badEscape hu hd)
  have hopen : ∀ u v, tail = u ∨ tail = u ++ ['\\'] → Spells u v →
      s.Refuses .string .unterminatedString := by
    rintro u v (rfl | rfl) hu
    · exact refuses_string h hc (Lexeme.string_unclosed hu)
    · exact refuses_string h hc (Lexeme.string_backslash hu)
  refine ⟨⟨?_, ?_⟩, ?_, hescape, hopen⟩
  · intro hsucceeds
    obtain ⟨u, v, rest, htext, hu, hrest⟩ := exists_spells tail
    rcases hrest with rfl | rfl | ⟨after, rfl⟩ | ⟨d, after, rfl, hn, ht, hbackslash⟩
    · rw [List.append_nil] at htext
      exact absurd hsucceeds (hopen u v (.inl htext) hu).not_succeeds
    · exact absurd hsucceeds (hopen u v (.inr htext) hu).not_succeeds
    · exact ⟨u, v, after, htext, hu⟩
    · have hrefuses := hescape u v d after htext hu hn ht hbackslash
      exact absurd hsucceeds hrefuses.not_succeeds
  · rintro ⟨u, v, after, rfl, hu⟩
    exact (yields_string h hc hu).succeeds
  · rintro u v after rfl hu
    exact yields_string h hc hu

theorem exists_remainder?_of_boundary (h : Boundary s.source s.pos) :
    ∃ rest, s.remainder? = some rest := by
  obtain ⟨before, rest, hsource, hpos⟩ := h
  exact ⟨rest, remainder?_eq_some_iff.2 ⟨before, hsource, hpos⟩⟩

/-- Between any two characters of a source, and in any state, a request to read takes what it should
of the text there, also where no lexeme of that sort begins. The arithmetic of the machine makes no
difference to it. -/
theorem extractors_take_longest (h : Boundary s.source s.pos) :
    ∃ rest, s.remainder? = some rest ∧ (∃ w, s.TakesWord w rest) ∧ (∃ n, s.TakesNumber n rest) ∧
      (∀ c tail, rest = c :: tail → c.utf8Size = 1 →
        s.TakesColour c tail ∧ s.TakesString c tail) ∧
      (byteLength s.source ≤ maxBytes →
        ∀ command, Checked.perform s command = s.perform command) := by
  obtain ⟨rest, hrest⟩ := exists_remainder?_of_boundary h
  refine ⟨rest, hrest, takesWord hrest, takesNumber hrest, ?_, ?_⟩
  · rintro c tail rfl hc
    exact ⟨takesColour hrest hc, takesString hrest hc⟩
  · intro hsize command
    exact Checked.perform_eq ⟨h.le, hsize⟩ command

theorem extractors_take_longest_behind_wide_character :
    ∃ s, (ofString "日xBadcab" none).Reaches s ∧ s.pos = 3 ∧ s.state = .inString ∧
      s.Yields .colour ['x', 'B', 'a', 'd', 'c', 'a', 'b'] ⟨.colourLiteral, "#Badcab"⟩ ∧
      s.Refuses .string .unterminatedString := by
  let s : Scanner := { ofString "日xBadcab" none with pos := 3 }
  have hreaches : (ofString "日xBadcab" none).Reaches s :=
    .perform (c := .advance 3) (r := ⟨s, none⟩) .refl rfl
  have hentered := hreaches.perform (c := .enter .inString) rfl
  have hboundary : Boundary (s.enter .inString).source 3 := ⟨['日'], _, rfl, rfl⟩
  have hspells : Spells ['B', 'a', 'd', 'c', 'a', 'b'] ['B', 'a', 'd', 'c', 'a', 'b'] := by
    iterate 6 refine .plain (by decide) (by decide) ?_
    exact .nil
  obtain ⟨rest, hrest, -, -, hmarked, -⟩ := extractors_take_longest hboundary
  obtain rfl : ['x', 'B', 'a', 'd', 'c', 'a', 'b'] = rest := Option.some.inj hrest
  obtain ⟨hcolour, hstring⟩ := hmarked 'x' _ rfl rfl
  refine ⟨_, hentered, rfl, rfl, ?_, ?_⟩
  · have hhex : ∀ d ∈ ['B', 'a', 'd', 'c', 'a', 'b'], HexDigit d := forall_of_all (by decide)
    exact (hcolour.yields _ [] rfl rfl hhex).1
  · exact hstring.unterminated _ _ (.inl rfl) hspells

theorem mem_booleanWords_of_mem_reservedWords :
    ∀ r ∈ reservedWords, r.2 = .booleanLiteral → r.1 ∈ booleanWords := by decide

theorem wordKind_of_mem_booleanWords : ∀ w ∈ booleanWords, wordKind w = .booleanLiteral := by decide

/-- The boolean words are listed twice, and the lists agree. -/
theorem wordKind_eq_booleanLiteral_iff {word : String} :
    wordKind word = .booleanLiteral ↔ word ∈ booleanWords := by
  constructor
  · intro h
    cases hkind : reservedKind? word with
    | none => simp [wordKind, hkind] at h
    | some kind =>
        obtain rfl : kind = .booleanLiteral := by simpa [wordKind, hkind] using h
        exact mem_booleanWords_of_mem_reservedWords _ (mem_of_reservedKind? hkind) rfl
  · exact wordKind_of_mem_booleanWords word

/-- What is read for a boolean is what would be read for a word. If it is `true` or `false`, only the
log tells which of the two was asked for; if it is anything else, a longer word or no word at all,
it is this text that is reported. -/
theorem boolean_agrees_with_word (h : Boundary s.source s.pos) :
    ∃ rest i tok b, s.remainder? = some rest ∧
      (s.enter .inIdentifier).perform .extract = some ⟨i, none⟩ ∧
      i.tokens = s.tokens.push tok ∧
      Longest (fun l => ∀ c ∈ l, WordChar c) tok.value.toList rest ∧
      (s.enter .inBoolean).perform .extract = some b ∧
      (b.error = none ↔ tok.kind = .booleanLiteral) ∧
      (b.error = none → b.scanner = { i with log := b.scanner.log }) ∧
      ∀ e, b.error = some e → e.fault = .malformedBoolean tok.value ∧
        e.position.offset.toNat = s.pos % UInt32.size ∧ e.position.file = s.file ∧
        b.scanner = s.enter .inBoolean := by
  obtain ⟨rest, hrest⟩ := exists_remainder?_of_boundary h
  obtain ⟨w, after, rfl, hw, hafter⟩ := exists_run WordChar rest
  let read : Lexeme := .verbatim (wordKind (String.ofList w)) w
  have hword : (s.enter .inIdentifier).perform .extract =
      some ((s.enter .inIdentifier).accepted read) := by
    simp only [perform, extract, state_enter, word, remainder?_enter, hrest, Option.map_some,
      Lexeme.word_append hw hafter, read]
  have hboolean : (s.enter .inBoolean).perform .extract =
      some ((s.enter .inBoolean).settle (Lexeme.boolean (w ++ after))) := by
    simp only [perform, extract, state_enter, boolean, remainder?_enter, hrest, Option.map_some]
  have hlongest : Longest (fun l => ∀ c ∈ l, WordChar c) read.token.value.toList (w ++ after) := by
    simpa [read, Lexeme.verbatim] using longest_of_stops hw hafter
  refine ⟨w ++ after, _, read.token, _, hrest, hword, rfl, hlongest, hboolean, ?_⟩
  rw [Lexeme.boolean_append hw hafter]
  by_cases hmem : String.ofList w ∈ booleanWords
  · have hkind : read.token.kind = .booleanLiteral := wordKind_eq_booleanLiteral_iff.2 hmem
    have hsame : read = .verbatim .booleanLiteral w := congrArg (Lexeme.verbatim · w) hkind
    rw [if_pos hmem]
    refine ⟨⟨fun _ => hkind, fun _ => rfl⟩, ?_, ?_⟩
    · intro _
      rw [hsame]
      rfl
    · intro e he
      cases he
  · have hkind : read.token.kind ≠ .booleanLiteral := mt wordKind_eq_booleanLiteral_iff.1 hmem
    rw [if_neg hmem]
    refine ⟨⟨?_, fun hboth => absurd hboth hkind⟩, ?_, ?_⟩
    · intro he
      cases he
    · intro he
      cases he
    · intro e he
      cases he
      exact ⟨rfl, toNat_toUInt32 s.pos, rfl, rfl⟩

theorem boolean_agrees_with_word_longer_word :
    ∃ s i b e, (ofString "日true1" none).Reaches s ∧ s.pos = 3 ∧
      (s.enter .inIdentifier).perform .extract = some ⟨i, none⟩ ∧
      i.tokens = #[⟨.identifier, "true1"⟩] ∧
      (s.enter .inBoolean).perform .extract = some b ∧ b.error = some e ∧
      e.fault = .malformedBoolean "true1" ∧ e.position.offset.toNat = 3 := by
  let s : Scanner := { ofString "日true1" none with pos := 3 }
  have hreaches : (ofString "日true1" none).Reaches s :=
    .perform (c := .advance 3) (r := ⟨s, none⟩) .refl rfl
  have hboundary : Boundary s.source s.pos := ⟨['日'], _, rfl, rfl⟩
  obtain ⟨rest, i, tok, b, -, hword, htokens, -, hboolean, hiff, -, hfails⟩ :=
    boolean_agrees_with_word hboundary
  have hread : (s.enter .inIdentifier).perform .extract =
      some ((s.enter .inIdentifier).accepted (.verbatim .identifier "true1".toList)) := by rfl
  rw [hread] at hword
  cases hword
  obtain rfl : (⟨.identifier, "true1"⟩ : Token) = tok := (Array.push_eq_push.1 htokens).1
  cases he : b.error with
  | none => exact absurd (hiff.1 he) (by decide)
  | some e =>
      obtain ⟨hfault, hoffset, -, -⟩ := hfails e he
      exact ⟨s, _, b, e, hreaches, rfl, hread, rfl, hboolean, he, hfault, hoffset⟩

end Scanner

end PixelScan
