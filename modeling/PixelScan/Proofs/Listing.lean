import PixelScan.Proofs.Delivery
import PixelScan.Proofs.Printing

namespace PixelScan

open Alphabet Grammar CommandLine

def TokenKind.heading (k : TokenKind) : List Char :=
  "Type: ".toList ++ (k.displayName.toList ++ " | Value: ".toList)

def Headed (line : List Char) : Prop := ∃ k : TokenKind, k.heading <+: line

namespace Token

def lines (t : Token) : List (List Char) := pieces '\n' t.display.toList

/-- No line of a token but its first looks like the first line of a token. -/
def Legible (t : Token) : Prop := ∀ line ∈ t.lines.tail, ¬ Headed line

def join (s t : Token) : Token := ⟨.stringLiteral, s.value ++ "\n" ++ t.display⟩

end Token

/-- There is another way to read the lines that these tokens are printed on: a string could have
taken in the line of the token behind it, or have left its last lines to a token of their own. -/
inductive Blends : List Token → Prop
  | joins {xs ys : List Token} {s t : Token} : s.kind = .stringLiteral → Blends (xs ++ s :: t :: ys)
  | parts {xs ys : List Token} {s t : Token} : s.kind = .stringLiteral → t.WellFormed →
      Blends (xs ++ s.join t :: ys)

section Heads

variable {α : Type} {p : α → Prop} {x y a b : List α}

theorem append_inj_of_heads (hx : ∀ c ∈ x, ¬ p c) (hy : ∀ c ∈ y, ¬ p c)
    (ha : ∀ c, a.head? = some c → p c) (hb : ∀ c, b.head? = some c → p c)
    (h : x ++ a = y ++ b) : x = y ∧ a = b := by
  induction x generalizing y with
  | nil =>
      cases y with
      | nil => exact ⟨rfl, h⟩
      | cons d y =>
          obtain rfl : a = d :: (y ++ b) := h
          exact absurd (ha d rfl) (hy d (by simp))
  | cons c x ih =>
      cases y with
      | nil =>
          obtain rfl : c :: (x ++ a) = b := h
          exact absurd (hb c rfl) (hx c (by simp))
      | cons d y =>
          rw [List.cons_append, List.cons_append, List.cons.injEq] at h
          obtain ⟨rfl, h⟩ := h
          obtain ⟨rfl, hrest⟩ := ih (List.forall_mem_cons.1 hx).2 (List.forall_mem_cons.1 hy).2 h
          exact ⟨rfl, hrest⟩

end Heads

theorem TokenKind.displayName_injective {k k' : TokenKind} (h : k.displayName = k'.displayName) :
    k = k' := by
  cases k <;> cases k' <;> first | rfl | exact absurd h (by decide)

theorem TokenKind.newline_notMem_heading (k : TokenKind) : '\n' ∉ k.heading := by
  cases k <;> decide

theorem TokenKind.heading_append_inj {k k' : TokenKind} {x x' : List Char}
    (h : k.heading ++ x = k'.heading ++ x') : k = k' ∧ x = x' := by
  have hblank : ∀ k : TokenKind, ' ' ∉ k.displayName.toList := by
    intro k
    cases k <;> decide
  unfold heading at h
  simp only [List.append_assoc, List.append_cancel_left_eq] at h
  obtain ⟨hname, hrest⟩ := append_inj_of_first (hblank k) (hblank k') h
  exact ⟨displayName_injective (String.toList_inj.1 hname), by simpa using hrest⟩

namespace Token

variable {t u : Token}

theorem toList_display (t : Token) : t.display.toList = t.kind.heading ++ t.value.toList := by
  unfold TokenKind.heading
  simp [display]

theorem eq_of_fields (hkind : t.kind = u.kind) (hvalue : t.value = u.value) : t = u := by
  cases t
  cases u
  simp_all

theorem eq_of_lines_eq (h : t.lines = u.lines) : t = u := by
  have hdisplay : t.display.toList = u.display.toList := pieces_inj h
  rw [toList_display, toList_display] at hdisplay
  obtain ⟨hkind, hvalue⟩ := TokenKind.heading_append_inj hdisplay
  exact eq_of_fields hkind (String.toList_inj.1 hvalue)

theorem exists_lines (t : Token) :
    ∃ first rest, pieces '\n' t.value.toList = first :: rest ∧
      t.lines = (t.kind.heading ++ first) :: rest := by
  rw [lines, toList_display]
  exact pieces_append_of_notMem t.kind.newline_notMem_heading t.value.toList

theorem lines_ne_nil (t : Token) : t.lines ≠ [] := pieces_ne_nil '\n' _

theorem headed_of_lines {ts : List Token} {line : List Char}
    (h : (ts.flatMap lines).head? = some line) : Headed line := by
  cases ts with
  | nil => cases h
  | cons t ts =>
      obtain ⟨first, rest, -, hlines⟩ := t.exists_lines
      rw [List.flatMap_cons, hlines, List.cons_append, List.head?_cons, Option.some.injEq] at h
      exact ⟨t.kind, first, h⟩

/-- Legible tokens are told apart by the lines that they are printed on, one behind the other. -/
theorem eq_of_flatMap_lines_eq {ts us : List Token} (hts : ∀ t ∈ ts, t.Legible)
    (hus : ∀ u ∈ us, u.Legible) (h : ts.flatMap lines = us.flatMap lines) : ts = us := by
  induction ts generalizing us with
  | nil =>
      cases us with
      | nil => rfl
      | cons u us => simp [u.lines_ne_nil] at h
  | cons t ts ih =>
      cases us with
      | nil => simp [t.lines_ne_nil] at h
      | cons u us =>
          obtain ⟨ht, hts⟩ := List.forall_mem_cons.1 hts
          obtain ⟨hu, hus⟩ := List.forall_mem_cons.1 hus
          obtain ⟨line, rest, htlines⟩ := List.exists_cons_of_ne_nil t.lines_ne_nil
          obtain ⟨line', rest', hulines⟩ := List.exists_cons_of_ne_nil u.lines_ne_nil
          rw [Legible, htlines, List.tail_cons] at ht
          rw [Legible, hulines, List.tail_cons] at hu
          rw [List.flatMap_cons, List.flatMap_cons, htlines, hulines, List.cons_append,
            List.cons_append, List.cons.injEq] at h
          obtain ⟨rfl, h⟩ := h
          obtain ⟨rfl, hmore⟩ := append_inj_of_heads ht hu (fun _ => headed_of_lines)
            (fun _ => headed_of_lines) h
          rw [eq_of_lines_eq (htlines.trans hulines.symm), ih hts hus hmore]

end Token

theorem pieces_listing (ts : List Token) :
    pieces '\n' (listing ts).toList = ts.flatMap Token.lines ++ [[]] := by
  induction ts with
  | nil => rfl
  | cons t ts ih =>
      have hcons :
          (listing (t :: ts)).toList = t.display.toList ++ '\n' :: (listing ts).toList := by
        simp [listing, unlines]
      rw [hcons, pieces_append_separator, ih, List.flatMap_cons, List.append_assoc]
      rfl

theorem listing_injective {ts us : List Token} (hts : ∀ t ∈ ts, t.Legible)
    (hus : ∀ u ∈ us, u.Legible) (h : listing ts = listing us) : ts = us := by
  apply Token.eq_of_flatMap_lines_eq hts hus
  rw [← List.append_left_inj [[]], ← pieces_listing, ← pieces_listing, h]

theorem pieces_listing_iff (ts : List Token) :
    pieces '\n' (listing ts).toList = ts.map (·.display.toList) ++ [[]] ↔
      ∀ t ∈ ts, '\n' ∉ t.value.toList := by
  constructor
  · intro h t ht
    have hline : t.display.toList ∈ pieces '\n' (listing ts).toList := by
      rw [h]
      exact List.mem_append_left _ (List.mem_map_of_mem ht)
    have hnot := separator_notMem_pieces hline
    rw [t.toList_display, List.mem_append, not_or] at hnot
    exact hnot.2
  · intro h
    have hlines : ∀ t ∈ ts, t.lines = [t.display.toList] := by
      intro t ht
      apply pieces_of_notMem
      rw [t.toList_display, List.mem_append, not_or]
      exact ⟨t.kind.newline_notMem_heading, h t ht⟩
    rw [pieces_listing, List.map_eq_flatMap, List.flatMap_congr hlines]

theorem Token.WellFormed.lexical {t : Token} (h : t.WellFormed) (hkind : t.kind ≠ .stringLiteral)
    {c : Char} (hc : c ∈ t.value.toList) :
    WordChar c ∨ NumberChar c ∨ HexDigit c ∨ c ∈ '#' :: (operatorChars ++ delimiterChars) := by
  obtain ⟨kind, value⟩ := t
  cases kind with
  | identifier => exact .inl (h.1.all_wordChar c hc)
  | keyword | booleanLiteral =>
      have hword : Word value.toList := word_of_mem_reservedWords _ (mem_of_reservedKind? h)
      exact .inl (hword.all_wordChar c hc)
  | integerLiteral => exact .inr (.inl (.inl (h.2 c hc)))
  | floatLiteral =>
      obtain ⟨ds, es, hvalue, hds, hes⟩ := h
      rw [hvalue, List.mem_append, List.mem_cons] at hc
      rcases hc with hd | rfl | he
      · exact .inr (.inl (.inl (hds.2 c hd)))
      · exact .inr (.inl (.inr rfl))
      · exact .inr (.inl (.inl (hes c he)))
  | colourLiteral =>
      obtain ⟨ds, hvalue, -, hds⟩ := h
      rw [hvalue, List.mem_cons] at hc
      rcases hc with rfl | hd
      · exact .inr (.inr (.inr (by simp)))
      · exact .inr (.inr (.inl (hds c hd)))
  | operator | delimiter =>
      obtain ⟨d, hd, rfl⟩ := h
      obtain rfl : c = d := by simpa using hc
      exact .inr (.inr (.inr (by simp [hd])))
  | stringLiteral => exact absurd rfl hkind

theorem Token.WellFormed.newline_notMem {t : Token} (h : t.WellFormed)
    (hkind : t.kind ≠ .stringLiteral) : '\n' ∉ t.value.toList := by
  intro hmem
  exact absurd (h.lexical hkind hmem) (by decide)

section Blends

variable {ts us xs ys : List Token} {s t u : Token} {v : List Char}

theorem Blends.cons (h : Blends ts) : Blends (t :: ts) := by
  cases h with
  | joins hs =>
      rw [← List.cons_append]
      exact .joins hs
  | parts hs hu =>
      rw [← List.cons_append]
      exact .parts hs hu

theorem listing_cons (t : Token) (ts : List Token) :
    listing (t :: ts) = t.display ++ "\n" ++ listing ts := by
  simp [listing, unlines]

theorem toList_listing_nil : (listing []).toList = [] := rfl

theorem listing_append (xs ys : List Token) : listing (xs ++ ys) = listing xs ++ listing ys := by
  simp [listing, unlines]

theorem listing_join (hs : s.kind = .stringLiteral) :
    listing (xs ++ s.join t :: ys) = listing (xs ++ s :: t :: ys) := by
  simp [listing_append, listing_cons, Token.join, Token.display, hs, String.append_assoc]

theorem Token.WellFormed.quote_notMem (h : t.WellFormed) : '"' ∉ t.value.toList := by
  intro hmem
  by_cases hkind : t.kind = .stringLiteral
  · rw [Token.WellFormed, hkind] at h
    exact h hmem
  · exact absurd (h.lexical hkind hmem) (by decide)

theorem wellFormed_string_iff (hs : s.kind = .stringLiteral) :
    s.WellFormed ↔ '"' ∉ s.value.toList := by
  rw [Token.WellFormed, hs]

theorem TokenKind.quote_notMem_heading (k : TokenKind) : '"' ∉ k.heading := by
  cases k <;> decide

theorem wellFormed_join_iff (hs : s.kind = .stringLiteral) (ht : t.WellFormed) :
    (s.join t).WellFormed ↔ s.WellFormed := by
  rw [wellFormed_string_iff hs, wellFormed_string_iff (s := s.join t) rfl, Token.join]
  simp [t.toList_display, t.kind.quote_notMem_heading, ht.quote_notMem]

theorem exists_other_of_blends (h : Blends ts) (hts : ∀ t ∈ ts, t.WellFormed) :
    ∃ us, (∀ u ∈ us, u.WellFormed) ∧ listing us = listing ts ∧ us ≠ ts := by
  cases h with
  | @joins xs ys s t hs =>
      simp only [List.forall_mem_append, List.forall_mem_cons] at hts
      obtain ⟨hxs, hswell, ht, hys⟩ := hts
      refine ⟨xs ++ s.join t :: ys, ?_, listing_join hs, ?_⟩
      · simp only [List.forall_mem_append, List.forall_mem_cons]
        exact ⟨hxs, (wellFormed_join_iff hs ht).2 hswell, hys⟩
      · simp
  | @parts xs ys s t hs ht =>
      simp only [List.forall_mem_append, List.forall_mem_cons] at hts
      obtain ⟨hxs, hjoin, hys⟩ := hts
      refine ⟨xs ++ s :: t :: ys, ?_, (listing_join hs).symm, ?_⟩
      · simp only [List.forall_mem_append, List.forall_mem_cons]
        exact ⟨hxs, (wellFormed_join_iff hs ht).1 hjoin, ht, hys⟩
      · simp

theorem toList_listing_cons (t : Token) (ts : List Token) :
    (listing (t :: ts)).toList =
      t.kind.heading ++ (t.value.toList ++ '\n' :: (listing ts).toList) := by
  simp [listing_cons, t.toList_display]

theorem exists_ended (v : List Char) (ts : List Token) :
    ∃ x, v ++ '\n' :: (listing ts).toList = x ++ ['\n'] := by
  induction ts generalizing v with
  | nil => exact ⟨v, rfl⟩
  | cons t ts ih =>
      obtain ⟨x, hx⟩ := ih (v ++ '\n' :: t.display.toList)
      exact ⟨x, by rw [← hx]; simp [listing_cons]⟩

/-- A string with further lines behind its first ends with the line of a token if those lines are
the lines of tokens. -/
theorem blends_of_lines (ht : t.kind = .stringLiteral) (hu : u.WellFormed)
    (h : t.value.toList ++ ['\n'] = v ++ '\n' :: (listing (us ++ [u])).toList) : Blends [t] := by
  obtain ⟨x, hx⟩ := exists_ended v us
  have hvalue : t.value = String.ofList x ++ "\n" ++ u.display := by
    rw [← String.toList_inj, ← List.append_left_inj ['\n'], h]
    have hlast :
        (listing (us ++ [u])).toList = (listing us).toList ++ (u.display.toList ++ ['\n']) := by
      simp [listing, unlines]
    rw [hlast, ← List.cons_append, ← List.append_assoc, hx]
    simp
  have hjoin : t = (⟨.stringLiteral, String.ofList x⟩ : Token).join u := by
    rw [Token.join, ← hvalue, ← ht]
  rw [hjoin]
  exact @Blends.parts [] [] _ _ rfl hu

theorem eq_or_blends (hts : ∀ t ∈ ts, t.WellFormed) (hus : ∀ u ∈ us, u.WellFormed)
    (h : listing ts = listing us) : ts = us ∨ Blends ts := by
  induction ts generalizing us with
  | nil =>
      cases us with
      | nil => exact .inl rfl
      | cons u us => simp [listing, unlines] at h
  | cons t ts ih =>
      cases us with
      | nil => simp [listing, unlines] at h
      | cons u us =>
          have htext := congrArg String.toList h
          rw [toList_listing_cons, toList_listing_cons] at htext
          obtain ⟨hkind, htext⟩ := TokenKind.heading_append_inj htext
          obtain ⟨ht, hts⟩ := List.forall_mem_cons.1 hts
          obtain ⟨hu, hus⟩ := List.forall_mem_cons.1 hus
          by_cases hstring : t.kind = .stringLiteral
          · -- A string in front of another token blends with that, so this is the last one.
            cases ts with
            | cons t' ts => exact .inr (@Blends.joins [] ts t t' hstring)
            | nil =>
                rw [toList_listing_nil] at htext
                rcases List.eq_nil_or_concat' us with rfl | ⟨us', w, rfl⟩
                · rw [toList_listing_nil, List.append_left_inj, String.toList_inj] at htext
                  exact .inl (by rw [Token.eq_of_fields hkind htext])
                · exact .inr (blends_of_lines hstring (hus w (by simp)) htext)
          · -- The value of any other token is over at the first line feed.
            have hend : ∀ w : Token, w.WellFormed → w.kind = t.kind → '\n' ∉ w.value.toList := by
              intro w hw hwkind
              exact hw.newline_notMem (hwkind ▸ hstring)
            obtain ⟨hvalue, hrest⟩ :=
              append_inj_of_first (hend t ht rfl) (hend u hu hkind.symm) htext
            rw [Token.eq_of_fields hkind (String.toList_inj.1 hvalue)]
            rcases ih hts hus (String.toList_inj.1 hrest) with rfl | hblends
            · exact .inl rfl
            · exact .inr hblends.cons

end Blends

theorem exists_other_listing_iff {tokens : Array Token}
    (htokens : ∀ t ∈ tokens.toList, t.WellFormed) :
    (∃ (source : String) (others : Array Token), tokenize source none = some (.ok others) ∧
      listing others.toList = listing tokens.toList ∧ others ≠ tokens) ↔ Blends tokens.toList := by
  constructor
  · rintro ⟨source, others, hothers, hlisting, hne⟩
    have hwell := wellFormed_of_splits (splits_of_tokenize hothers)
    rcases eq_or_blends htokens hwell hlisting.symm with heq | hblends
    · exact absurd (Array.toList_inj.1 heq).symm hne
    · exact hblends
  · intro hblends
    obtain ⟨us, hus, hlisting, hne⟩ := exists_other_of_blends hblends htokens
    obtain ⟨source, hsource⟩ := exists_source hus
    refine ⟨source, us.toArray, hsource, hlisting, ?_⟩
    rintro rfl
    exact hne rfl

variable {read : String → Except ReadFault ByteArray} {args : List String} {input : Input}
  {source name : String} {file : Option String} {quiet : Bool} {tokens : Array Token}

/-- What the program prints of a text without an error is the lines of its tokens and nothing else.
There is one line for each token unless a string holds a line feed. The tokens can be told from
their lines among lists in which no line of a string passes for the line of a token; among all lists
they can be told if and only if no string has a token behind it or ends with the line of one. -/
theorem run_lists_tokens (hargs : parse args = .ok (.scan input quiet))
    (hinput : Delivers read input source name) (h : tokenize source file = some (.ok tokens))
    (filter : Option LogFilter) :
    (∃ log, run read filter args = some ⟨0, !quiet, listing tokens.toList, log⟩) ∧
    (pieces '\n' (listing tokens.toList).toList = tokens.toList.map (·.display.toList) ++ [[]] ↔
      ∀ t ∈ tokens, '\n' ∉ t.value.toList) ∧
    (∀ t ∈ tokens, '\n' ∈ t.value.toList → t.kind = .stringLiteral) ∧
    (∀ others : Array Token, (∀ t ∈ tokens, t.Legible) → (∀ t ∈ others, t.Legible) →
      listing others.toList = listing tokens.toList → others = tokens) ∧
    ((∃ (source' : String) (others : Array Token), tokenize source' none = some (.ok others) ∧
      listing others.toList = listing tokens.toList ∧ others ≠ tokens) ↔ Blends tokens.toList) := by
  have hwell := wellFormed_of_splits (splits_of_tokenize h)
  refine ⟨?_, ?_, ?_, ?_, exists_other_listing_iff hwell⟩
  · obtain ⟨log, hrun, -⟩ := exists_run_of_ok filter hargs hinput h
    exact ⟨log, hrun⟩
  · simpa using pieces_listing_iff tokens.toList
  · intro t ht hnewline
    by_contra hkind
    exact (hwell t (by simpa using ht)).newline_notMem hkind hnewline
  · intro others hlegible hothers hlisting
    rw [← Array.toList_inj]
    exact listing_injective (by simpa using hothers) (by simpa using hlegible) hlisting

theorem run_lists_tokens_tab_in_string :
    (∃ log, run (fun _ => .error .notFound) none ["--quiet", "--source=x=\"\\t\""] = some
      ⟨0, false, listing [⟨.identifier, "x"⟩, ⟨.operator, "="⟩, ⟨.stringLiteral, "\t"⟩], log⟩) ∧
    pieces '\n' (listing [⟨.identifier, "x"⟩, ⟨.operator, "="⟩, ⟨.stringLiteral, "\t"⟩]).toList =
      ["Type: IDENTIFIER | Value: x".toList, "Type: OPERATOR | Value: =".toList,
        "Type: STRING_LITERAL | Value: \t".toList, []] := by
  have h : tokenize "x=\"\\t\"" none =
      some (.ok #[⟨.identifier, "x"⟩, ⟨.operator, "="⟩, ⟨.stringLiteral, "\t"⟩]) := by cbv
  have hinput : Delivers (fun _ => .error .notFound) (.inline "x=\"\\t\"") "x=\"\\t\"" "shell" :=
    .inline
  obtain ⟨hrun, hlines, -⟩ :=
    run_lists_tokens (parse_source true "x=\"\\t\"") hinput h none
  refine ⟨hrun, ?_⟩
  have hvalues : ∀ t ∈ #[(⟨.identifier, "x"⟩ : Token), ⟨.operator, "="⟩, ⟨.stringLiteral, "\t"⟩],
      '\n' ∉ t.value.toList := by simp
  exact hlines.2 hvalues

theorem listing_confuses_line_feed :
    ∃ tokens others : Array Token, tokens ≠ others ∧ tokens.size = 1 ∧
      tokenize "\"a\nType: IDENTIFIER | Value: b\"" none = some (.ok tokens) ∧
      tokenize "\"a\" b" none = some (.ok others) ∧
      run (fun _ => .error .notFound) none
          ["--quiet", "--source=\"a\nType: IDENTIFIER | Value: b\""] =
        some ⟨0, false, "Type: STRING_LITERAL | Value: a\nType: IDENTIFIER | Value: b\n", ""⟩ ∧
      run (fun _ => .error .notFound) none ["--quiet", "--source=\"a\" b"] =
        some ⟨0, false, "Type: STRING_LITERAL | Value: a\nType: IDENTIFIER | Value: b\n", ""⟩ := by
  have htokens : tokenize "\"a\nType: IDENTIFIER | Value: b\"" none =
      some (.ok #[⟨.stringLiteral, "a\nType: IDENTIFIER | Value: b"⟩]) := by cbv
  have hothers : tokenize "\"a\" b" none =
      some (.ok #[⟨.stringLiteral, "a"⟩, ⟨.identifier, "b"⟩]) := by cbv
  refine ⟨_, _, by simp, rfl, htokens, hothers, ?_, ?_⟩
  · obtain ⟨log, hrun, hlog⟩ := exists_run_of_ok none
      (parse_source true "\"a\nType: IDENTIFIER | Value: b\"") .inline htokens
    rw [hlog rfl] at hrun
    exact hrun
  · obtain ⟨log, hrun, hlog⟩ :=
      exists_run_of_ok none (parse_source true "\"a\" b") .inline hothers
    rw [hlog rfl] at hrun
    exact hrun

end PixelScan
