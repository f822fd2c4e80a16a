import PixelScan.Proofs.Coverage
import PixelScan.Proofs.Leading
import PixelScan.Scanner.Command

namespace PixelScan

open Alphabet Grammar

def Boundary (cs : List Char) (i : Nat) : Prop :=
  ∃ before after, cs = before ++ after ∧ byteLength before = i

section Boundary

variable {cs p after : List Char} {i n : Nat}

theorem Boundary.le (h : Boundary cs i) : i ≤ byteLength cs := by
  obtain ⟨before, after, rfl, rfl⟩ := h
  simp

theorem boundary_of_dropBytes? (h : dropBytes? i cs = some after) : Boundary cs i := by
  obtain ⟨before, hcs, hbefore⟩ := dropBytes?_eq_some_iff.1 h
  exact ⟨before, after, hcs, hbefore⟩

theorem dropBytes?_eq_none_iff : dropBytes? i cs = none ↔ ¬ Boundary cs i := by
  constructor
  · rintro hnone ⟨before, after, rfl, rfl⟩
    rw [dropBytes?_byteLength_append] at hnone
    cases hnone
  · intro hoff
    cases h : dropBytes? i cs with
    | none => rfl
    | some after => exact absurd (boundary_of_dropBytes? h) hoff

theorem boundary_add (h : dropBytes? i cs = some after) (hp : p <+: after) :
    Boundary cs (i + byteLength p) := by
  obtain ⟨before, rfl, rfl⟩ := dropBytes?_eq_some_iff.1 h
  obtain ⟨rest, rfl⟩ := hp
  exact ⟨before ++ p, rest, by simp, byteLength_append before p⟩

end Boundary

namespace Lexeme

variable {rest tail : List Char} {l : Lexeme}

theorem spelling_prefix_word (rest : List Char) : (word rest).spelling <+: rest :=
  List.takeWhile_prefix _

theorem spelling_prefix_boolean (h : boolean rest = .ok l) : l.spelling <+: rest := by
  simp only [boolean] at h
  split at h
  · cases h
    exact spelling_prefix_word rest
  · cases h

theorem spelling_prefix_number (h : number rest = .ok l) : l.spelling <+: rest := by
  cases numeral rest with
  | integer hds hrest =>
      rw [number_integer hds hrest] at h
      cases h
      exact List.prefix_append _ _
  | @decimal ds es rest hds hes hrest =>
      rw [number_decimal hds hes hrest] at h
      cases h
      exact ⟨rest, by simp [verbatim]⟩
  | secondPoint hds hes =>
      rw [number_secondPoint hds hes] at h
      cases h

theorem colour_spelling (h : colour tail = .ok l) : ∃ ds, l.spelling = '#' :: ds ∧ ds <+: tail := by
  simp only [colour] at h
  split at h
  · cases h
  · split at h
    · cases h
      exact ⟨_, rfl, List.take_prefix _ _⟩
    · cases h

theorem string_spelling (h : string tail = .ok l) : ∃ u, l.spelling = '"' :: u ∧ u <+: tail := by
  obtain ⟨u, v, rest, rfl, hu, hrest⟩ := exists_spells tail
  rcases hrest with rfl | rfl | ⟨more, rfl⟩ | ⟨c, more, rfl, hn, ht, hbackslash⟩
  · rw [List.append_nil, string_unclosed hu] at h
    cases h
  · rw [string_backslash hu] at h
    cases h
  · rw [string_closed hu] at h
    cases h
    exact ⟨u ++ ['"'], rfl, more, by simp⟩
  · rw [string_badEscape hu (unescape?_eq_none_iff.2 ⟨hn, ht, hbackslash⟩)] at h
    cases h

end Lexeme

namespace Scanner

variable {s t u : Scanner} {c : Command} {r : Reply}

/-- The scanner is where it was, with the tokens that it had. Its state may be another one. -/
structure Stays (s t : Scanner) : Prop where
  source : t.source = s.source
  file : t.file = s.file
  pos : t.pos = s.pos
  tokens : t.tokens = s.tokens

theorem Stays.refl (s : Scanner) : Stays s s := ⟨rfl, rfl, rfl, rfl⟩

theorem Stays.trans (h : Stays s t) (h' : Stays t u) : Stays s u where
  source := h'.source.trans h.source
  file := h'.file.trans h.file
  pos := h'.pos.trans h.pos
  tokens := h'.tokens.trans h.tokens

theorem stays_enter (s : Scanner) (st : ScanState) : Stays s (s.enter st) := ⟨rfl, rfl, rfl, rfl⟩

theorem stays_record (s : Scanner) (e : Event) : Stays s (s.record e) := ⟨rfl, rfl, rfl, rfl⟩

inductive Extracted (s : Scanner) : Reply → Prop
  | stays {t e} : Stays s t → Extracted s ⟨t, e⟩
  | accepts {t l} : Stays s t → Boundary s.source (s.pos + l.width) → Extracted s (t.accepted l)

theorem Extracted.of_stays (h : Stays s t) (hr : Extracted t r) : Extracted s r := by
  cases hr with
  | stays ht => exact .stays (h.trans ht)
  | accepts ht hend =>
      rw [h.source, h.pos] at hend
      exact .accepts (h.trans ht) hend

theorem extracted_settle {x : Except Fault Lexeme}
    (h : ∀ l, x = .ok l → Boundary s.source (s.pos + l.width)) : Extracted s (s.settle x) := by
  cases x with
  | ok l => exact .accepts (.refl s) (h l rfl)
  | error fault => exact .stays (.refl s)

theorem boundary_of_remainder? {rest : List Char} {l : Lexeme} (h : s.remainder? = some rest)
    (hl : l.spelling <+: rest) : Boundary s.source (s.pos + l.width) :=
  boundary_add h hl

/-- The character in front of the tail counts as one byte, whatever it is. -/
theorem boundary_of_tail? {tail ds : List Char} {l : Lexeme} {mark : Char}
    (h : s.tail? = some tail) (hl : l.spelling = mark :: ds) (hmark : mark.utf8Size = 1)
    (hds : ds <+: tail) : Boundary s.source (s.pos + l.width) := by
  have hend := boundary_add h hds
  rwa [Nat.add_assoc, ← hmark, ← byteLength_cons, ← hl] at hend

theorem extracted_word (h : s.word = some r) : Extracted s r := by
  obtain ⟨rest, hrest, rfl⟩ := Option.map_eq_some_iff.1 h
  exact .accepts (.refl s) (boundary_of_remainder? hrest (Lexeme.spelling_prefix_word rest))

theorem extracted_boolean (h : s.boolean = some r) : Extracted s r := by
  obtain ⟨rest, hrest, rfl⟩ := Option.map_eq_some_iff.1 h
  apply extracted_settle
  intro l hl
  exact boundary_of_remainder? hrest (Lexeme.spelling_prefix_boolean hl)

theorem extracted_number (h : s.number = some r) : Extracted s r := by
  obtain ⟨rest, hrest, rfl⟩ := Option.map_eq_some_iff.1 h
  apply extracted_settle
  intro l hl
  exact boundary_of_remainder? hrest (Lexeme.spelling_prefix_number hl)

theorem extracted_string (h : s.string = some r) : Extracted s r := by
  obtain ⟨tail, htail, rfl⟩ := Option.map_eq_some_iff.1 h
  apply extracted_settle
  intro l hl
  obtain ⟨u, hspelling, hu⟩ := Lexeme.string_spelling hl
  exact boundary_of_tail? htail hspelling rfl hu

theorem extracted_colour (h : s.colour = some r) : Extracted s r := by
  obtain ⟨tail, htail, h⟩ := Option.bind_eq_some_iff.1 h
  cases hl : Lexeme.colour tail with
  | ok l =>
      simp only [hl, Option.some.injEq] at h
      subst h
      obtain ⟨ds, hspelling, hds⟩ := Lexeme.colour_spelling hl
      exact .accepts (.refl s) (boundary_of_tail? htail hspelling rfl hds)
  | error defect =>
      cases defect with
      | tooShort =>
          simp only [hl] at h
          obtain ⟨rest, -, rfl⟩ := Option.map_eq_some_iff.1 h
          exact .stays (.refl s)
      | nonHexDigit =>
          simp only [hl, Option.some.injEq] at h
          subst h
          exact .stays (.refl s)

theorem exists_remainder?_of_peek? {ch : Char} (h : s.peek? = some (some ch)) :
    ∃ tail, s.remainder? = some (ch :: tail) := by
  obtain ⟨rest, hrest, hhead⟩ := Option.map_eq_some_iff.1 h
  obtain ⟨tail, rfl⟩ := List.head?_eq_some_iff.1 hhead
  exact ⟨tail, hrest⟩

theorem boundary_of_peek? {ch : Char} {l : Lexeme} (h : s.peek? = some (some ch))
    (hl : l.spelling = [ch]) : Boundary s.source (s.pos + l.width) := by
  obtain ⟨tail, hrest⟩ := exists_remainder?_of_peek? h
  exact boundary_of_remainder? hrest (hl ▸ List.prefix_append [ch] tail)

theorem extracted_operator {ch : Char} (h : s.operator ch = some r) : Extracted s r := by
  simp only [operator] at h
  split at h
  · next hpeek =>
      cases h
      split
      · exact .accepts (stays_record s _) (boundary_of_peek? hpeek rfl)
      · exact .accepts (.refl s) (boundary_of_peek? hpeek rfl)
  · cases h

theorem extracted_delimiter {ch : Char} (h : s.delimiter ch = some r) : Extracted s r := by
  simp only [delimiter] at h
  split at h
  · next hpeek =>
      cases h
      exact .accepts (.refl s) (boundary_of_peek? hpeek rfl)
  · cases h

theorem extracted_extract (h : s.extract = some r) : Extracted s r := by
  simp only [extract] at h
  split at h
  · cases h
    exact .stays (.refl s)
  · exact extracted_word h
  · exact extracted_number h
  · exact extracted_colour h
  · exact extracted_boolean h
  · obtain ⟨head, -, h⟩ := Option.bind_eq_some_iff.1 h
    cases head with
    | some ch => exact extracted_operator h
    | none =>
        cases h
        exact .stays ⟨rfl, rfl, rfl, rfl⟩
  · exact extracted_string h

inductive Outcome (s : Scanner) : Command → Reply → Prop
  | extracted {c : Command} {r : Reply} : Extracted s r → Outcome s c r
  | skipped {ch rest} : s.remainder? = some (ch :: rest) → Outcome s .step ⟨s.skip ch, none⟩
  | advanced {n t} : s.advance? n = some t → Outcome s (.advance n) ⟨t, none⟩
  | pushed {tok} : Outcome s (.push tok) ⟨s.push tok, none⟩

theorem outcome_step (h : s.step = some r) : Outcome s .step r := by
  rw [step] at h
  split at h
  case isFalse => cases h
  case isTrue hstart =>
    obtain ⟨rest, hrest, h⟩ := Option.bind_eq_some_iff.1 h
    cases rest with
    | nil =>
        cases h
        exact .extracted (.stays (.refl s))
    | cons ch tail =>
        dsimp only at h
        split at h
        · cases h
          exact .skipped hrest
        · exact .extracted (extracted_delimiter h)
        · split at h
          · cases h
            exact .extracted (.stays (.refl s))
          · next target _ =>
              exact .extracted ((extracted_extract h).of_stays (stays_enter s target))

theorem outcome_of_perform (h : s.perform c = some r) : Outcome s c r := by
  cases c with
  | step => exact outcome_step h
  | extract => exact .extracted (extracted_extract h)
  | enter st =>
      cases h
      exact .extracted (.stays (stays_enter s st))
  | advance n =>
      obtain ⟨t, ht, rfl⟩ := Option.map_eq_some_iff.1 h
      exact .advanced ht
  | push tok =>
      cases h
      exact .pushed
  | word => exact .extracted (extracted_word h)
  | boolean => exact .extracted (extracted_boolean h)
  | number => exact .extracted (extracted_number h)
  | colour => exact .extracted (extracted_colour h)
  | string => exact .extracted (extracted_string h)
  | operator ch => exact .extracted (extracted_operator h)
  | delimiter ch => exact .extracted (extracted_delimiter h)

structure Follows (s : Scanner) (c : Command) (t : Scanner) : Prop where
  source : t.source = s.source
  file : t.file = s.file
  pos_le : s.pos ≤ t.pos
  inside : t.pos ≤ byteLength s.source
  tokens : t.tokens = s.tokens ∨
    ∃ tok, t.tokens = s.tokens.push tok ∧ (c = .push tok ∨ t.state = .start)
  boundary : (∀ n, c ≠ .advance n) → Boundary s.source s.pos → Boundary s.source t.pos

theorem Stays.follows (h : Stays s t) (hs : s.pos ≤ byteLength s.source) (c : Command) :
    Follows s c t where
  source := h.source
  file := h.file
  pos_le := Nat.le_of_eq h.pos.symm
  inside := h.pos ▸ hs
  tokens := .inl h.tokens
  boundary := fun _ hboundary => h.pos ▸ hboundary

theorem Extracted.follows (h : Extracted s r) (hs : s.pos ≤ byteLength s.source) (c : Command) :
    Follows s c r.scanner := by
  cases h with
  | stays ht => exact ht.follows hs c
  | @accepts t l ht hend =>
      have hpos : (t.accept l).pos = s.pos + l.width := by rw [pos_accept, ht.pos]
      exact {
        source := ht.source
        file := ht.file
        pos_le := hpos ▸ Nat.le_add_right s.pos l.width
        inside := hpos ▸ hend.le
        tokens := .inr ⟨l.token, congrArg (Array.push · l.token) ht.tokens, .inr rfl⟩
        boundary := fun _ _ => hpos ▸ hend }

theorem follows_skip {ch : Char} {rest : List Char} (h : s.remainder? = some (ch :: rest))
    (c : Command) : Follows s c (s.skip ch) := by
  have hend : Boundary s.source (s.pos + byteLength [ch]) :=
    boundary_add h (List.prefix_append [ch] rest)
  exact {
    source := rfl
    file := rfl
    pos_le := Nat.le_add_right s.pos ch.utf8Size
    inside := hend.le
    tokens := .inl rfl
    boundary := fun _ _ => hend }

theorem follows_advance {n : Nat} (h : s.advance? n = some t)
    (hs : s.pos ≤ byteLength s.source) : Follows s (.advance n) t := by
  simp only [advance?] at h
  split at h
  · cases h
    exact {
      source := rfl
      file := rfl
      pos_le := Nat.le_min.2 ⟨Nat.le_add_right s.pos n, hs⟩
      inside := Nat.min_le_right _ _
      tokens := .inl rfl
      boundary := fun hc _ => absurd rfl (hc n) }
  · cases h

theorem follows_push (tok : Token) (hs : s.pos ≤ byteLength s.source) :
    Follows s (.push tok) (s.push tok) where
  source := rfl
  file := rfl
  pos_le := Nat.le_refl s.pos
  inside := hs
  tokens := .inr ⟨tok, rfl, .inl rfl⟩
  boundary := fun _ hboundary => hboundary

theorem follows_of_perform (h : s.perform c = some r) (hs : s.pos ≤ byteLength s.source) :
    Follows s c r.scanner := by
  cases outcome_of_perform h with
  | extracted hr => exact hr.follows hs c
  | skipped hrest => exact follows_skip hrest .step
  | advanced ht => exact follows_advance ht hs
  | pushed => exact follows_push _ hs

/-- A scanner with what any requests make of it, those included that fail. -/
inductive Reaches (s : Scanner) : Scanner → Prop
  | refl : Reaches s s
  | perform {t : Scanner} {c : Command} {r : Reply} :
      Reaches s t → t.perform c = some r → Reaches s r.scanner

structure Continues (s t : Scanner) : Prop where
  source : t.source = s.source
  file : t.file = s.file
  pos_le : s.pos ≤ t.pos
  inside : t.pos ≤ byteLength s.source
  tokens : s.tokens.toList <+: t.tokens.toList

theorem Follows.prefix_tokens (h : Follows s c t) : s.tokens.toList <+: t.tokens.toList := by
  rcases h.tokens with htokens | ⟨tok, htokens, -⟩
  · exact htokens ▸ List.prefix_refl _
  · rw [htokens, Array.toList_push]
    exact List.prefix_append _ _

theorem Reaches.continues (h : s.Reaches t) (hs : s.pos ≤ byteLength s.source) :
    Continues s t := by
  induction h with
  | refl => exact ⟨rfl, rfl, Nat.le_refl _, hs, List.prefix_refl _⟩
  | @perform t c r _ hperform ih =>
      have hr : Follows t c r.scanner := follows_of_perform hperform (ih.source ▸ ih.inside)
      exact {
        source := hr.source.trans ih.source
        file := hr.file.trans ih.file
        pos_le := Nat.le_trans ih.pos_le hr.pos_le
        inside := ih.source ▸ hr.inside
        tokens := ih.tokens.trans hr.prefix_tokens }

theorem Reaches.continues_ofString {source : String} {file : Option String}
    (h : (ofString source file).Reaches s) : Continues (ofString source file) s :=
  h.continues (Nat.zero_le _)

/-- However a scanner came about from a source, its cursor lies in that source, and no request takes
it back, takes a token away or adds more than one. -/
theorem reaches_invariant {source : String} {file : Option String}
    (h : (ofString source file).Reaches s) :
    s.source = source.toList ∧ s.file = file.getD "shell" ∧ s.pos ≤ source.utf8ByteSize ∧
      (∀ c r, s.perform c = some r → Follows s c r.scanner) ∧
      ∀ t, s.Reaches t → s.pos ≤ t.pos ∧ s.tokens.toList <+: t.tokens.toList := by
  have hs := h.continues_ofString
  have hinside : s.pos ≤ byteLength s.source := hs.source ▸ hs.inside
  refine ⟨hs.source, hs.file, byteLength_toList source ▸ hs.inside, ?_, ?_⟩
  · intro c r hperform
    exact follows_of_perform hperform hinside
  · intro t ht
    have hcontinues := ht.continues hinside
    exact ⟨hcontinues.pos_le, hcontinues.tokens⟩

/-- A colour that is read from inside a character, which takes the last byte of it for its mark. -/
theorem reaches_invariant_colour_inside_character :
    ∃ s r, (ofString "日aabbcc" none).Reaches s ∧ s.pos = 2 ∧ s.perform .colour = some r ∧
      Follows s .colour r.scanner ∧ r.scanner.pos = 9 := by
  have hadvance : (ofString "日aabbcc" none).perform (.advance 2) =
      some ⟨{ ofString "日aabbcc" none with pos := 2 }, none⟩ := by rfl
  have hreaches := Reaches.perform .refl hadvance
  refine ⟨_, _, hreaches, rfl, rfl, ?_, rfl⟩
  exact (reaches_invariant hreaches).2.2.2.1 .colour _ rfl

end Scanner

end PixelScan
