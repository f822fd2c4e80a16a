import PixelScan.Proofs.Checked.Requests
import PixelScan.Proofs.Requests

namespace PixelScan.Checked

open Alphabet Grammar

structure Sound (s : Scanner) : Prop where
  pos_le : s.pos ≤ byteLength s.source
  size_le : byteLength s.source ≤ maxBytes

variable {s : Scanner} {l : Lexeme} {c : Char} {cs ds es u v rest tail content : List Char}
  {m n first last offset : Nat} {point : Bool}

theorem maxBytes_add_one_lt : maxBytes + 1 < UInt64.size := by decide

theorem add?_of_le (h : m + n ≤ maxBytes + 1) : add? m n = some (m + n) :=
  if_pos (Nat.lt_of_le_of_lt h maxBytes_add_one_lt)

theorem sub?_add_left (m n : Nat) : sub? (m + n) m = some n := by
  rw [sub?, if_pos (Nat.le_add_right m n), Nat.add_sub_cancel_left]

theorem assert?_true {p : Prop} [Decidable p] (h : p) : assert? p = some () := if_pos h

theorem slice?_eq {p after : List Char} (h : dropBytes? first cs = some after)
    (hp : p <+: after) : slice? cs first (first + byteLength p) = some p := by
  obtain ⟨before, rfl, rfl⟩ := dropBytes?_eq_some_iff.1 h
  obtain ⟨rest, rfl⟩ := hp
  have hlast :
      dropBytes? (byteLength before + byteLength p) (before ++ (p ++ rest)) = some rest := by
    rw [← byteLength_append, ← List.append_assoc]
    exact dropBytes?_byteLength_append (before ++ p) rest
  simp [slice?, h, hlast, assert?]

theorem foldlM_add? (h : n + byteLength cs ≤ maxBytes) :
    cs.foldlM (fun n c => add? n c.utf8Size) n = some (n + byteLength cs) := by
  induction cs generalizing n with
  | nil => rfl
  | cons c cs ih =>
      rw [byteLength_cons, ← Nat.add_assoc] at h
      have hsum : n + c.utf8Size ≤ maxBytes + 1 := by omega
      rw [List.foldlM_cons, add?_of_le hsum, Option.bind_eq_bind, Option.bind_some, ih h,
        byteLength_cons, Nat.add_assoc]

theorem width?_eq (h : byteLength cs ≤ maxBytes) : width? cs = some (byteLength cs) := by
  have hsum : 0 + byteLength cs ≤ maxBytes := by rwa [Nat.zero_add]
  rw [width?, foldlM_add? hsum, Nat.zero_add]

theorem advance?_eq (hs : Sound s) (h : s.pos + n ≤ byteLength s.source) :
    s.advance? n = some { s with pos := s.pos + n } := by
  have hfits : s.pos + n < UInt64.size := by
    have := hs.size_le
    have := maxBytes_add_one_lt
    omega
  rw [Scanner.advance?, if_pos hfits, Nat.min_eq_left h]

theorem accept?_eq (hs : Sound s) (h : s.pos + l.width ≤ byteLength s.source) :
    accept? s l.width l.token = some (s.accepted l) := by
  rw [accept?, advance?_eq hs h]
  rfl

theorem accept?_verbatim {p : List Char} (kind : TokenKind) (hs : Sound s)
    (h : s.pos + byteLength p ≤ byteLength s.source) :
    accept? s (byteLength p) ⟨kind, String.ofList p⟩ =
      some (s.accepted (Lexeme.verbatim kind p)) :=
  accept?_eq (l := Lexeme.verbatim kind p) hs h

theorem inside_add {p : List Char} (h : s.remainder? = some rest) (hp : p <+: rest) :
    s.pos + byteLength p ≤ byteLength s.source :=
  (boundary_add h hp).le

theorem wordAt?_eq (hs : Sound s) (h : s.remainder? = some rest) :
    wordAt? s = some (byteLength (Lexeme.wordRun rest), Lexeme.wordRun rest) := by
  have hrun : Lexeme.wordRun rest <+: rest := Lexeme.spelling_prefix_word rest
  have hinside := inside_add h hrun
  have hsize := hs.size_le
  have hwidth : width? (Lexeme.wordRun rest) = some (byteLength (Lexeme.wordRun rest)) :=
    width?_eq (by omega)
  have hlast : add? s.pos (byteLength (Lexeme.wordRun rest)) =
      some (s.pos + byteLength (Lexeme.wordRun rest)) := add?_of_le (by omega)
  simp only [wordAt?, h, hwidth, hlast, slice?_eq h hrun, Option.bind_eq_bind,
    Option.bind_some]
  rfl

theorem word_eq (hs : Sound s) : word s = s.word := by
  cases h : s.remainder? with
  | none => simp [word, wordAt?, Scanner.word, h]
  | some rest =>
      have hinside := inside_add h (Lexeme.spelling_prefix_word rest)
      simp only [word, Scanner.word, h, wordAt?_eq hs h, Option.bind_eq_bind, Option.bind_some,
        Option.map_some]
      exact accept?_verbatim _ hs hinside

theorem boolean_eq (hs : Sound s) : boolean s = s.boolean := by
  cases h : s.remainder? with
  | none => simp [boolean, wordAt?, Scanner.boolean, h]
  | some rest =>
      have hinside := inside_add h (Lexeme.spelling_prefix_word rest)
      simp only [boolean, Scanner.boolean, h, wordAt?_eq hs h, Option.bind_eq_bind,
        Option.bind_some, Option.map_some, Lexeme.boolean]
      split
      · exact accept?_verbatim _ hs hinside
      · rfl

theorem numberEnd?_digits (hds : Digits ds) (h : last + byteLength ds ≤ maxBytes) :
    numberEnd? cs first (ds ++ rest) last point =
      numberEnd? cs first rest (last + byteLength ds) point := by
  induction ds generalizing last with
  | nil => rfl
  | cons d ds ih =>
      have hd : Digit d := hds d (by simp)
      have hpoint : d ≠ '.' := by
        rintro rfl
        exact absurd hd (by decide)
      have hcontinues := (continues_inNumber_iff d).2 hd
      have htail : Digits ds := fun e he => hds e (by simp [he])
      rw [byteLength_cons, ← Nat.add_assoc] at h
      have hsum : last + d.utf8Size ≤ maxBytes + 1 := by omega
      rw [List.cons_append, numberEnd?, if_neg hpoint, if_pos hcontinues, add?_of_le hsum,
        Option.bind_eq_bind, Option.bind_some, ih htail h, byteLength_cons, Nat.add_assoc]

theorem numberEnd?_stops (hrest : Stops NumberChar rest) :
    numberEnd? cs first rest last point = some (.ok (last, point)) := by
  cases rest with
  | nil => rfl
  | cons c tail =>
      have hc : ¬ Digit c ∧ c ≠ '.' := not_or.1 (stops_cons_iff.1 hrest)
      rw [numberEnd?, if_neg hc.2, if_neg (fun h => hc.1 ((continues_inNumber_iff c).1 h))]

theorem numberEnd?_decimal (hds : Digits ds) (hes : Digits es)
    (h : last + byteLength (ds ++ '.' :: es) ≤ maxBytes) :
    numberEnd? cs first (ds ++ '.' :: (es ++ rest)) last false =
      numberEnd? cs first rest (last + byteLength (ds ++ '.' :: es)) true := by
  have hpoint : '.'.utf8Size = 1 := rfl
  rw [byteLength_append, byteLength_cons, hpoint] at h
  have hwhole : last + byteLength ds ≤ maxBytes := by omega
  have hsum : last + byteLength ds + '.'.utf8Size ≤ maxBytes + 1 := by omega
  have hfraction : last + byteLength ds + '.'.utf8Size + byteLength es ≤ maxBytes := by omega
  rw [numberEnd?_digits hds hwhole, numberEnd?, if_pos rfl, if_neg (by decide), add?_of_le hsum,
    Option.bind_eq_bind, Option.bind_some, numberEnd?_digits hes hfraction, byteLength_append,
    byteLength_cons, Nat.add_assoc, Nat.add_assoc]

theorem numberEnd?_secondPoint {text : List Char} (h : last + 1 ≤ maxBytes)
    (htext : slice? cs first (last + 1) = some text) :
    numberEnd? cs first ('.' :: rest) last true =
      some (.error (.malformedNumber (String.ofList text))) := by
  rw [numberEnd?, if_pos rfl, if_pos rfl, add?_of_le (Nat.le_succ_of_le h)]
  simp only [Option.bind_eq_bind, Option.bind_some, htext]
  rfl

theorem number_of_end {p : List Char} {kind : TokenKind} (hs : Sound s)
    (h : s.remainder? = some rest) (hp : p <+: rest)
    (hend : numberEnd? s.source s.pos rest s.pos false = some (.ok (s.pos + byteLength p, point)))
    (hkind : (if point then TokenKind.floatLiteral else .integerLiteral) = kind) :
    number s = some (s.accepted (Lexeme.verbatim kind p)) := by
  have hrest : dropBytes? s.pos s.source = some rest := h
  simp only [number, hrest, hend, slice?_eq h hp, sub?_add_left, hkind,
    Option.bind_eq_bind, Option.bind_some]
  exact accept?_verbatim kind hs (inside_add h hp)

theorem number_of_fault {fault : Fault} (h : s.remainder? = some rest)
    (hend : numberEnd? s.source s.pos rest s.pos false = some (.error fault)) :
    number s = some (s.refused fault) := by
  have hrest : dropBytes? s.pos s.source = some rest := h
  simp only [number, hrest, hend, Option.bind_eq_bind, Option.bind_some]
  rfl

/-- The second point is read and reported, but never counted into the number. -/
theorem numberEnd?_refused (hs : Sound s) (hds : Digits ds) (hes : Digits es)
    (h : s.remainder? = some (ds ++ '.' :: (es ++ '.' :: rest))) :
    numberEnd? s.source s.pos (ds ++ '.' :: (es ++ '.' :: rest)) s.pos false =
      some (.error (.malformedNumber (String.ofList (ds ++ '.' :: es ++ ['.'])))) := by
  have hp : ds ++ '.' :: es ++ ['.'] <+: ds ++ '.' :: (es ++ '.' :: rest) := ⟨rest, by simp⟩
  have hinside := inside_add h hp
  have htext := slice?_eq h hp
  rw [byteLength_append, ← Nat.add_assoc] at hinside htext
  have hlast : s.pos + byteLength (ds ++ '.' :: es) + 1 ≤ maxBytes :=
    Nat.le_trans hinside hs.size_le
  rw [numberEnd?_decimal hds hes (Nat.le_of_succ_le hlast), numberEnd?_secondPoint hlast htext]

theorem number_eq (hs : Sound s) : number s = s.number := by
  cases h : s.remainder? with
  | none =>
      have hrest : dropBytes? s.pos s.source = none := h
      simp [number, Scanner.number, h, hrest]
  | some rest =>
      have hsize := hs.size_le
      rw [Scanner.number, h, Option.map_some]
      cases numeral rest with
      | @integer ds rest hds hrest =>
          have hp : ds <+: ds ++ rest := List.prefix_append ds rest
          have hinside := inside_add h hp
          have hend : numberEnd? s.source s.pos (ds ++ rest) s.pos false =
              some (.ok (s.pos + byteLength ds, false)) := by
            rw [numberEnd?_digits hds (by omega), numberEnd?_stops hrest]
          rw [Lexeme.number_integer hds hrest]
          exact number_of_end hs h hp hend rfl
      | @decimal ds es rest hds hes hrest =>
          have hp : ds ++ '.' :: es <+: ds ++ '.' :: (es ++ rest) := ⟨rest, by simp⟩
          have hinside := inside_add h hp
          have hend : numberEnd? s.source s.pos (ds ++ '.' :: (es ++ rest)) s.pos false =
              some (.ok (s.pos + byteLength (ds ++ '.' :: es), true)) := by
            rw [numberEnd?_decimal hds hes (by omega), numberEnd?_stops hrest]
          rw [Lexeme.number_decimal hds hes hrest]
          exact number_of_end hs h hp hend rfl
      | secondPoint hds hes =>
          rw [Lexeme.number_secondPoint hds hes]
          exact number_of_fault h (numberEnd?_refused hs hds hes h)

theorem stringEnd?_plain (hquote : c ≠ '"') (hbackslash : c ≠ '\\')
    (h : offset + c.utf8Size ≤ maxBytes) :
    stringEnd? first (c :: tail) offset content =
      stringEnd? first tail (offset + c.utf8Size) (content ++ [c]) := by
  have hsum : add? offset c.utf8Size = some (offset + c.utf8Size) :=
    add?_of_le (Nat.le_succ_of_le h)
  rw [stringEnd?.eq_def]
  split <;> simp_all

theorem stringEnd?_escape {d : Char} (hd : Lexeme.unescape? c = some d)
    (h : offset + 1 + c.utf8Size ≤ maxBytes) :
    stringEnd? first ('\\' :: c :: tail) offset content =
      stringEnd? first tail (offset + 1 + c.utf8Size) (content ++ [d]) := by
  have hescaped : offset + 1 ≤ maxBytes + 1 := by omega
  simp only [stringEnd?, hd, add?_of_le hescaped, add?_of_le (Nat.le_succ_of_le h),
    Option.bind_eq_bind, Option.bind_some]

theorem stringEnd?_spells (hu : Spells u v) (h : offset + byteLength u ≤ maxBytes) :
    stringEnd? first (u ++ rest) offset content =
      stringEnd? first rest (offset + byteLength u) (content ++ v) := by
  induction hu generalizing offset content with
  | nil => simp
  | @plain c u v hquote hbackslash _ ih =>
      rw [byteLength_cons, ← Nat.add_assoc] at h
      rw [List.cons_append, stringEnd?_plain hquote hbackslash (by omega), ih h]
      simp [Nat.add_assoc]
  | @escape c d u v hd _ ih =>
      have hbackslash : '\\'.utf8Size = 1 := rfl
      rw [byteLength_cons, byteLength_cons, hbackslash, ← Nat.add_assoc, ← Nat.add_assoc] at h
      rw [List.cons_append, List.cons_append,
        stringEnd?_escape (mem_escapes_iff.1 hd) (by omega), ih h]
      simp [hbackslash, Nat.add_assoc]

theorem stringEnd?_quote (h : first + offset + 1 ≤ maxBytes) :
    stringEnd? first ('"' :: rest) offset content =
      some (.ok (some (first + offset + 1), content)) := by
  have hquote : first + offset ≤ maxBytes + 1 := by omega
  rw [stringEnd?, add?_of_le hquote, Option.bind_eq_bind, Option.bind_some,
    add?_of_le (Nat.le_succ_of_le h)]
  rfl

theorem stringEnd?_badEscape (hc : Lexeme.unescape? c = none) (h : offset ≤ maxBytes) :
    stringEnd? first ('\\' :: c :: rest) offset content =
      some (.error (.invalidEscape c)) := by
  have hescaped : add? offset 1 = some (offset + 1) := add?_of_le (Nat.succ_le_succ h)
  simp only [stringEnd?, hc, hescaped, Option.bind_eq_bind, Option.bind_some]
  rfl

theorem add?_pos_one (hs : Sound s) : add? s.pos 1 = some (s.pos + 1) := by
  have hpos := hs.pos_le
  have hsize := hs.size_le
  exact add?_of_le (by omega)

theorem string_of_fault {fault : Fault} (hs : Sound s) (h : s.tail? = some tail)
    (hend : stringEnd? (s.pos + 1) tail 0 [] = some (.error fault)) :
    string s = some (s.refused fault) := by
  have htail : dropBytes? (s.pos + 1) s.source = some tail := h
  simp only [string, add?_pos_one hs, htail, hend, Option.bind_eq_bind, Option.bind_some]
  rfl

theorem string_of_unclosed (hs : Sound s) (h : s.tail? = some tail)
    (hend : stringEnd? (s.pos + 1) tail 0 [] = some (.ok (none, content))) :
    string s = some (s.refused .unterminatedString) := by
  have htail : dropBytes? (s.pos + 1) s.source = some tail := h
  simp only [string, add?_pos_one hs, htail, hend, Option.bind_eq_bind, Option.bind_some]
  rfl

theorem string_of_end (hs : Sound s) (h : s.tail? = some tail)
    (hend : stringEnd? (s.pos + 1) tail 0 [] = some (.ok (some (s.pos + l.width), content)))
    (hinside : s.pos + l.width ≤ byteLength s.source)
    (hl : l.token = ⟨.stringLiteral, String.ofList content⟩) :
    string s = some (s.accepted l) := by
  have htail : dropBytes? (s.pos + 1) s.source = some tail := h
  simp only [string, add?_pos_one hs, htail, hend, sub?_add_left, Option.bind_eq_bind,
    Option.bind_some]
  rw [← hl, accept?_eq hs hinside]

theorem stringEnd?_append (hs : Sound s) (h : s.tail? = some (u ++ rest)) (hu : Spells u v) :
    stringEnd? (s.pos + 1) (u ++ rest) 0 [] = stringEnd? (s.pos + 1) rest (byteLength u) v := by
  have hinside := (boundary_add h (List.prefix_append u rest)).le
  have hsize := hs.size_le
  rw [stringEnd?_spells hu (by omega), Nat.zero_add, List.nil_append]

theorem stringEnd?_closed (hs : Sound s) (hu : Spells u v)
    (h : s.tail? = some (u ++ '"' :: rest)) :
    s.pos + byteLength ('"' :: (u ++ ['"'])) ≤ byteLength s.source ∧
      stringEnd? (s.pos + 1) (u ++ '"' :: rest) 0 [] =
        some (.ok (some (s.pos + byteLength ('"' :: (u ++ ['"']))), v)) := by
  have hp : u ++ ['"'] <+: u ++ '"' :: rest := ⟨rest, by simp⟩
  have hinside := (boundary_add h hp).le
  have hmark : '"'.utf8Size = 1 := rfl
  have hlast : s.pos + byteLength ('"' :: (u ++ ['"'])) = s.pos + 1 + byteLength u + 1 := by
    simp only [byteLength_cons, byteLength_append, byteLength_nil, hmark]
    omega
  rw [byteLength_append, ← Nat.add_assoc] at hinside
  rw [hlast, stringEnd?_append hs h hu, stringEnd?_quote (Nat.le_trans hinside hs.size_le)]
  exact ⟨hinside, rfl⟩

theorem string_eq (hs : Sound s) : string s = s.string := by
  cases h : s.tail? with
  | none =>
      have htail : dropBytes? (s.pos + 1) s.source = none := h
      simp [string, Scanner.string, h, add?_pos_one hs, htail]
  | some tail =>
      rw [Scanner.string, h, Option.map_some]
      obtain ⟨u, v, rest, rfl, hu, hrest⟩ := exists_spells tail
      have hread := stringEnd?_append hs h hu
      rcases hrest with rfl | rfl | ⟨more, rfl⟩ | ⟨c, more, rfl, hn, ht, hbackslash⟩
      · rw [string_of_unclosed hs h hread, List.append_nil, Lexeme.string_unclosed hu]
        rfl
      · rw [string_of_unclosed hs h hread, Lexeme.string_backslash hu]
        rfl
      · obtain ⟨hinside, hend⟩ := stringEnd?_closed hs hu h
        rw [Lexeme.string_closed hu]
        exact string_of_end hs h hend hinside rfl
      · have hc : Lexeme.unescape? c = none := unescape?_eq_none_iff.2 ⟨hn, ht, hbackslash⟩
        have hinside := (boundary_add h (List.prefix_append u _)).le
        have hsize := hs.size_le
        rw [stringEnd?_badEscape hc (by omega)] at hread
        rw [string_of_fault hs h hread, Lexeme.string_badEscape hu hc]
        rfl

theorem colour_eq (hs : Sound s) : colour s = s.colour := by
  have hfirst := add?_pos_one hs
  cases h : s.tail? with
  | none =>
      have htail : dropBytes? (s.pos + 1) s.source = none := h
      simp [colour, Scanner.colour, h, hfirst, htail]
  | some tail =>
      have htail : dropBytes? (s.pos + 1) s.source = some tail := h
      rw [Scanner.colour, h, Option.bind_some]
      simp only [colour, hfirst, htail, Option.bind_eq_bind, Option.bind_some, Lexeme.colour]
      split
      · exact (Option.map_eq_bind ..).symm
      · split
        · have htake := List.take_prefix Lexeme.colourDigits tail
          have hdigits := (boundary_add htail htake).le
          have hmark : '#'.utf8Size = 1 := rfl
          apply accept?_verbatim .colourLiteral hs
          rwa [byteLength_cons, hmark, ← Nat.add_assoc]
        · rfl

theorem accept?_char {ch : Char} {l : Lexeme} (hs : Sound s) (h : s.peek? = some (some ch))
    (hl : l.spelling = [ch]) : accept? s ch.utf8Size l.token = some (s.accepted l) := by
  have hwidth : l.width = ch.utf8Size := by rw [Lexeme.width, hl]; rfl
  rw [← hwidth]
  exact accept?_eq hs (Scanner.boundary_of_peek? h hl).le

theorem expect?_eq (s : Scanner) (c : Char) :
    expect? s c = if s.peek? = some (some c) then some () else none := by
  rw [expect?]
  cases s.peek? with
  | none => rfl
  | some found => simp [assert?]

theorem delimiter_eq (hs : Sound s) (c : Char) : delimiter s c = s.delimiter c := by
  rw [delimiter, Scanner.delimiter, expect?_eq]
  split
  · next hpeek => exact accept?_char (l := Lexeme.delimiter c) hs hpeek rfl
  · rfl

theorem operator_eq (hs : Sound s) (c : Char) : operator s c = s.operator c := by
  rw [operator, Scanner.operator, expect?_eq]
  split
  · next hpeek =>
      by_cases hassign : c = '='
      · have hnoted : Sound (s.record (.assign s.pos)) := ⟨hs.pos_le, hs.size_le⟩
        simp only [if_pos hassign]
        exact accept?_char (l := Lexeme.operator c) hnoted hpeek rfl
      · simp only [if_neg hassign]
        exact accept?_char (l := Lexeme.operator c) hs hpeek rfl
  · rfl

theorem extract_eq (hs : Sound s) : extract s = s.extract := by
  rw [extract, Scanner.extract]
  cases s.state with
  | start => rfl
  | inIdentifier => exact word_eq hs
  | inNumber => exact number_eq hs
  | inColour => exact colour_eq hs
  | inBoolean => exact boolean_eq hs
  | inAssignOrOperator =>
      simp only [operator_eq hs]
      cases s.peek? with
      | none => rfl
      | some found => cases found <;> rfl
  | inString => exact string_eq hs

theorem Sound.enter (hs : Sound s) (st : ScanState) : Sound (s.enter st) :=
  ⟨hs.pos_le, hs.size_le⟩

theorem advance?_char (hs : Sound s) (h : s.remainder? = some (c :: tail)) :
    s.advance? c.utf8Size = some (s.skip c) :=
  advance?_eq hs (inside_add h (List.prefix_append [c] tail))

theorem extract_enter_operator (hs : Sound s) (h : s.peek? = some (some c)) :
    operator (s.enter .inAssignOrOperator) c = (s.enter .inAssignOrOperator).extract := by
  have hpeek : (s.enter .inAssignOrOperator).peek? = some (some c) := h
  rw [operator_eq (hs.enter _), Scanner.extract, Scanner.state_enter]
  simp only [hpeek, Option.bind_some]

theorem step_eq (hs : Sound s) : step s = s.step := by
  rw [step, Scanner.step]
  by_cases hstart : s.state = .start
  · rw [if_pos hstart, assert?_true hstart, Option.bind_eq_bind, Option.bind_some]
    cases h : s.remainder? with
    | none => simp [Scanner.peek?, h]
    | some rest =>
        cases rest with
        | nil => simp [Scanner.peek?, h]
        | cons c tail =>
            have hpeek : s.peek? = some (some c) := by rw [Scanner.peek?, h]; rfl
            simp only [hpeek, Option.bind_some, Option.bind_eq_bind]
            cases hk : classify c with
            | whitespace => simp [hstart, ScanState.next, advance?_char hs h]
            | delimiter => simp [hstart, ScanState.next, delimiter_eq hs]
            | operator => simp [hstart, ScanState.next, extract_enter_operator hs hpeek]
            | alpha | digit | hash | quote =>
                simp [hstart, ScanState.next, extract_eq (hs.enter _)]
            | invalid => simp [hstart, ScanState.next]
  · rw [if_neg hstart, assert?, if_neg hstart]
    rfl

/-- In the arithmetic of the machine no request comes to anything else. -/
theorem perform_eq (hs : Sound s) (command : Command) : perform s command = s.perform command := by
  cases command with
  | step => exact step_eq hs
  | extract => exact extract_eq hs
  | enter state => rfl
  | advance n => exact (Option.map_eq_bind ..).symm
  | push token => rfl
  | word => exact word_eq hs
  | boolean => exact boolean_eq hs
  | number => exact number_eq hs
  | colour => exact colour_eq hs
  | string => exact string_eq hs
  | operator c => exact operator_eq hs c
  | delimiter c => exact delimiter_eq hs c

end PixelScan.Checked
