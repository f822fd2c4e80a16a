import PixelScan.Proofs.Juxtaposition

namespace PixelScan

open Alphabet Grammar

namespace Token

/-- The tokens that a text can have. No string holds a quote, since no escape stands for it. -/
def WellFormed (t : Token) : Prop :=
  match t.kind with
  | .identifier => Word t.value.toList ∧ reservedKind? t.value = none
  | .keyword => reservedKind? t.value = some .keyword
  | .booleanLiteral => reservedKind? t.value = some .booleanLiteral
  | .integerLiteral => Integer t.value.toList
  | .floatLiteral => Decimal t.value.toList
  | .colourLiteral => Colour t.value.toList
  | .operator => ∃ c ∈ operatorChars, t.value = String.ofList [c]
  | .delimiter => ∃ c ∈ delimiterChars, t.value = String.ofList [c]
  | .stringLiteral => '"' ∉ t.value.toList

end Token

def writings : Char → List (List Char)
  | '\\' => [['\\', '\\']]
  | '\n' => [['\n'], ['\\', 'n']]
  | '\t' => [['\t'], ['\\', 't']]
  | c => [[c]]

inductive Writes : List Char → List Char → Prop
  | nil : Writes [] []
  | cons {c v p u} : p ∈ writings c → Writes v u → Writes (c :: v) (p ++ u)

def Token.Written (t : Token) (l : List Char) : Prop :=
  match t.kind with
  | .stringLiteral => ∃ u, Writes t.value.toList u ∧ l = '"' :: (u ++ ['"'])
  | _ => l = t.value.toList

/-- Tokens written one after the other, each with the blanks behind it. Only behind the last there
need not be any. -/
inductive PrintsFrom : List Token → List Char → Prop
  | nil : PrintsFrom [] []
  | cons {t l w ts s} : t.Written l → Blanks w → (ts ≠ [] → w ≠ []) → PrintsFrom ts s →
      PrintsFrom (t :: ts) (l ++ (w ++ s))

def Prints (ts : List Token) (text : List Char) : Prop :=
  ∃ w s, Blanks w ∧ PrintsFrom ts s ∧ text = w ++ s

variable {u v l p s rest : List Char} {t : Token} {ts : List Token}

theorem spells_of_writing {c : Char} (hp : p ∈ writings c) (hc : c ≠ '"') (h : Spells u v) :
    Spells (p ++ u) (c :: v) := by
  rw [writings.eq_def] at hp
  split at hp
  · obtain rfl : p = ['\\', '\\'] := by simpa using hp
    exact .escape (by decide) h
  · obtain rfl | rfl : p = ['\n'] ∨ p = ['\\', 'n'] := by simpa using hp
    · exact .plain (by decide) (by decide) h
    · exact .escape (by decide) h
  · obtain rfl | rfl : p = ['\t'] ∨ p = ['\\', 't'] := by simpa using hp
    · exact .plain (by decide) (by decide) h
    · exact .escape (by decide) h
  · next hbackslash _ _ =>
      obtain rfl : p = [c] := by simpa using hp
      exact .plain hc hbackslash h

theorem spells_of_writes (h : Writes v u) (hv : '"' ∉ v) : Spells u v := by
  induction h with
  | nil => exact .nil
  | cons hp h ih =>
      rw [List.mem_cons, not_or] at hv
      exact spells_of_writing hp (Ne.symm hv.1) (ih hv.2)

theorem quote_notMem_of_spells (h : Spells u v) : '"' ∉ v := by
  induction h with
  | nil => simp
  | plain hquote _ _ ih => simpa using ⟨Ne.symm hquote, ih⟩
  | escape hd _ ih =>
      have hquote : ∀ e ∈ escapes, '"' ≠ e.2 := by decide
      simpa using ⟨hquote _ hd, ih⟩

theorem wellFormed_of_reads (h : Reads l rest t) : t.WellFormed := by
  cases h with
  | word hword =>
      cases hk : reservedKind? (String.ofList l) with
      | none => exact ⟨by simpa using hword, hk⟩
      | some kind =>
          rcases kind_of_mem_reservedWords _ (mem_of_reservedKind? hk) with rfl | rfl
          · exact hk
          · exact hk
  | integer h | decimal h | colour h => simpa [Token.WellFormed] using h
  | string h => simpa [Token.WellFormed] using quote_notMem_of_spells h
  | operator hc | delimiter hc => exact ⟨_, hc, rfl⟩

theorem wellFormed_of_splits (h : Splits s rest ts) : ∀ t ∈ ts, t.WellFormed := by
  induction h with
  | done => simp
  | cons _ hl _ ih => simpa using ⟨wellFormed_of_reads hl, ih⟩

theorem reads_of_word {word : String} {kind : TokenKind} (hword : Word word.toList)
    (hkind : (reservedKind? word).getD .identifier = kind) (hrest : Stops WordChar rest) :
    Reads word.toList rest ⟨kind, word⟩ := by
  have h := Reads.word hword hrest
  rwa [String.ofList_toList, hkind] at h

theorem reads_of_reserved {word : String} {kind : TokenKind}
    (hkind : reservedKind? word = some kind) (hrest : Stops WordChar rest) :
    Reads word.toList rest ⟨kind, word⟩ := by
  have hword : Word word.toList := word_of_mem_reservedWords _ (mem_of_reservedKind? hkind)
  exact reads_of_word hword (by rw [hkind]; rfl) hrest

theorem reads_of_written (ht : t.WellFormed) (hl : t.Written l) (hrest : Severs t.kind rest) :
    Reads l rest t := by
  obtain ⟨kind, value⟩ := t
  cases kind with
  | identifier =>
      obtain ⟨hword, hkind⟩ := ht
      cases hl
      exact reads_of_word hword (by rw [hkind]; rfl) hrest
  | keyword | booleanLiteral =>
      cases hl
      exact reads_of_reserved ht hrest
  | integerLiteral =>
      cases hl
      simpa using Reads.integer ht hrest
  | floatLiteral =>
      cases hl
      simpa using Reads.decimal ht hrest
  | colourLiteral =>
      cases hl
      have h : Reads value.toList rest _ := .colour ht
      simpa using h
  | operator =>
      obtain ⟨c, hc, rfl⟩ := ht
      cases hl
      simpa using Reads.operator hc
  | delimiter =>
      obtain ⟨c, hc, rfl⟩ := ht
      cases hl
      simpa using Reads.delimiter hc
  | stringLiteral =>
      obtain ⟨u, hu, rfl⟩ := hl
      simpa using Reads.string (spells_of_writes hu ht)

theorem splits_of_printsFrom (h : PrintsFrom ts s) (hts : ∀ t ∈ ts, t.WellFormed) :
    Splits s [] ts := by
  induction h with
  | nil => exact .done blanks_nil
  | @cons t l w ts s hl hw hgap hs ih =>
      -- Behind the token stands a blank, or nothing at all if it is the last one.
      have hsevers : Severs t.kind (w ++ s ++ []) := by
        apply severs_of_blank
        intro c hc
        cases w with
        | nil =>
            obtain rfl : ts = [] := by simpa using hgap
            cases hs
            simp at hc
        | cons d w =>
            obtain rfl : d = c := by simpa using hc
            exact (blanks_cons_iff.1 hw).1
      have hrest : ∀ u ∈ ts, u.WellFormed := by
        intro u hu
        exact hts u (by simp [hu])
      apply Splits.lexeme
      · exact reads_of_written (hts t (by simp)) hl hsevers
      · exact (ih hrest).blanks hw

theorem exists_writes (v : List Char) : ∃ u, Writes v u := by
  induction v with
  | nil => exact ⟨[], .nil⟩
  | cons c v ih =>
      obtain ⟨u, hu⟩ := ih
      obtain ⟨p, hp⟩ : ∃ p, p ∈ writings c := by
        rw [writings.eq_def]
        split <;> exact ⟨_, List.mem_cons_self⟩
      exact ⟨p ++ u, .cons hp hu⟩

theorem exists_written (t : Token) : ∃ l, t.Written l := by
  obtain ⟨kind, value⟩ := t
  cases kind with
  | stringLiteral =>
      obtain ⟨u, hu⟩ := exists_writes value.toList
      exact ⟨_, u, hu, rfl⟩
  | _ => exact ⟨_, rfl⟩

theorem exists_printsFrom (ts : List Token) : ∃ s, PrintsFrom ts s := by
  induction ts with
  | nil => exact ⟨[], .nil⟩
  | cons t ts ih =>
      obtain ⟨s, hs⟩ := ih
      obtain ⟨l, hl⟩ := exists_written t
      exact ⟨l ++ ([' '] ++ s), .cons hl (by simp [Blanks, blanks]) (by simp) hs⟩

theorem exists_source (hts : ∀ t ∈ ts, t.WellFormed) :
    ∃ source, tokenize source none = some (.ok ts.toArray) := by
  obtain ⟨s, hs⟩ := exists_printsFrom ts
  refine ⟨String.ofList s, tokenize_of_splits ?_⟩
  rw [String.toList_ofList]
  exact splits_of_printsFrom hs hts

/-- Every token that is scanned can be printed, and whatever is printed is scanned as the tokens that
were printed. -/
theorem tokenize_prints :
    (∀ source file tokens, tokenize source file = some (.ok tokens) →
      ∀ t ∈ tokens, t.WellFormed) ∧
    ∀ (tokens : Array Token) text file, (∀ t ∈ tokens, t.WellFormed) →
      Prints tokens.toList text.toList → tokenize text file = some (.ok tokens) := by
  constructor
  · intro source file tokens h t ht
    exact wellFormed_of_splits (splits_of_tokenize h) t (by simpa using ht)
  · intro tokens text file hts h
    obtain ⟨w, s, hw, hs, htext⟩ := h
    have hsplits : Splits s [] tokens.toList := splits_of_printsFrom hs (by simpa using hts)
    rw [tokenize_of_splits (htext ▸ hsplits.blanks hw)]

theorem tokenize_prints_string :
    (∀ t ∈ #[⟨.keyword, "let"⟩, ⟨.stringLiteral, "\t\\"⟩], Token.WellFormed t) ∧
      Prints [⟨.keyword, "let"⟩, ⟨.stringLiteral, "\t\\"⟩] " let\n\"\\t\\\\\"".toList ∧
      tokenize " let\n\"\\t\\\\\"" none =
        some (.ok #[⟨.keyword, "let"⟩, ⟨.stringLiteral, "\t\\"⟩]) := by
  have hwell : ∀ t ∈ #[⟨.keyword, "let"⟩, ⟨.stringLiteral, "\t\\"⟩], Token.WellFormed t := by
    simpa [Token.WellFormed] using (by decide : reservedKind? "let" = some .keyword)
  have hstring : Writes ['\t', '\\'] ['\\', 't', '\\', '\\'] :=
    .cons (p := ['\\', 't']) (by decide) (.cons (p := ['\\', '\\']) (by decide) .nil)
  have hlet : Token.Written ⟨.keyword, "let"⟩ ['l', 'e', 't'] := rfl
  have hquoted : Token.Written ⟨.stringLiteral, "\t\\"⟩ ['"', '\\', 't', '\\', '\\', '"'] :=
    ⟨_, hstring, rfl⟩
  have hprints : Prints [⟨.keyword, "let"⟩, ⟨.stringLiteral, "\t\\"⟩]
      " let\n\"\\t\\\\\"".toList := by
    refine ⟨[' '], _, by simp [Blanks, blanks], ?_, rfl⟩
    apply PrintsFrom.cons (w := ['\n']) hlet (by simp [Blanks, blanks]) (by simp)
    exact .cons hquoted blanks_nil (by simp) .nil
  exact ⟨hwell, hprints, tokenize_prints.2 _ _ none hwell hprints⟩

end PixelScan
