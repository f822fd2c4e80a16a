import PixelScan.Proofs.Checked.Picture
import PixelScan.Proofs.Layout
import PixelScan.Proofs.Misuse

namespace PixelScan

variable {text above body ending below indent shown rest line a b x y : List Char}
  {p n k : Nat} {l : SourceLine} {c : Char}

/-- A line cut into the white space that it begins with, what is shown of it, and the white space at
its end. Of a blank line all is in front. -/
structure Trims (line indent shown rest : List Char) : Prop where
  line_eq : line = indent ++ (shown ++ rest)
  indent_white : White indent
  rest_white : White rest
  first : ∀ c, (shown ++ rest).head? = some c → isWhiteSpace c = false
  last : ∀ c, shown.getLast? = some c → isWhiteSpace c = false

theorem exists_trims (line : List Char) : ∃ indent shown rest, Trims line indent shown rest := by
  refine ⟨line.takeWhile isWhiteSpace, trimEnd (trimStart line),
    ((trimStart line).reverse.takeWhile isWhiteSpace).reverse, ?_⟩
  have hend : trimEnd (trimStart line) ++ ((trimStart line).reverse.takeWhile isWhiteSpace).reverse =
      trimStart line := by
    rw [trimEnd, ← List.reverse_append, List.takeWhile_append_dropWhile, List.reverse_reverse]
  exact {
    line_eq := by rw [hend]; exact List.takeWhile_append_dropWhile.symm
    indent_white := fun c hc => List.mem_takeWhile_imp hc
    rest_white := fun c hc => List.mem_takeWhile_imp (List.mem_reverse.1 hc)
    first := by
      intro c hc
      rw [hend] at hc
      have hnot := List.head?_dropWhile_not isWhiteSpace line
      rw [trimStart] at hc
      rwa [hc] at hnot
    last := by
      intro c hc
      rw [trimEnd, List.getLast?_reverse] at hc
      have hnot := List.head?_dropWhile_not isWhiteSpace (trimStart line).reverse
      rwa [hc] at hnot }

theorem span_white (hx : White x) (hy : ∀ c, y.head? = some c → isWhiteSpace c = false) :
    (x ++ y).takeWhile isWhiteSpace = x ∧ (x ++ y).dropWhile isWhiteSpace = y :=
  Lexeme.span_append (fun _ => Iff.rfl) hx fun c hc => by simp [hy c hc]

theorem Trims.trim_eq (h : Trims line indent shown rest) :
    line.takeWhile isWhiteSpace = indent ∧ line.dropWhile isWhiteSpace = shown ++ rest ∧
      trimEnd (trimStart line) = shown := by
  obtain ⟨hindent, hdrop⟩ := h.line_eq ▸ span_white h.indent_white h.first
  have hlast : ∀ c, shown.reverse.head? = some c → isWhiteSpace c = false := by
    rw [List.head?_reverse]
    exact h.last
  have hkept : shown.reverse.dropWhile isWhiteSpace = shown.reverse :=
    (span_white (x := []) (by simp [White]) hlast).2
  refine ⟨hindent, hdrop, ?_⟩
  rw [trimStart, hdrop, trimEnd_append_of_white h.rest_white, trimEnd, hkept, List.reverse_reverse]

/-- How far a caret stands behind the start of the printed text: as many characters as there are
between that and the place. For a place in front of it, or inside a character, it stands at the
start. -/
structure Marks (text : List Char) (start p k : Nat) : Prop where
  behind : start ≤ p → Boundary text p → ∃ before mid after, text = before ++ (mid ++ after) ∧
    byteLength before = start ∧ byteLength before + byteLength mid = p ∧ k = mid.length
  astray : p < start ∨ ¬ Boundary text p → k = 0

theorem eq_of_byteLength_eq (h : a ++ x = b ++ y) (heq : byteLength a = byteLength b) :
    a = b ∧ x = y := by
  have hx := dropBytes?_byteLength_append a x
  rw [h, heq, dropBytes?_byteLength_append] at hx
  obtain rfl := Option.some.inj hx
  exact ⟨List.append_cancel_right h, rfl⟩

theorem prefix_of_byteLength_le (h : a ++ x = b ++ y) (hle : byteLength a ≤ byteLength b) :
    a <+: b := by
  rcases List.prefix_or_prefix_of_prefix ⟨x, h⟩ (List.prefix_append b y) with hab | ⟨z, rfl⟩
  · exact hab
  · have hz : z = [] := by
      by_contra hne
      have := byteLength_pos hne
      rw [byteLength_append] at hle
      omega
    rw [hz, List.append_nil]

theorem Marks.eq_length (h : Marks text (byteLength a) p k) (htext : text = a ++ (b ++ x))
    (hplace : byteLength a + byteLength b = p) : k = b.length := by
  have hboundary : Boundary text p :=
    ⟨a ++ b, x, by rw [htext, List.append_assoc], by rw [byteLength_append, hplace]⟩
  obtain ⟨before, mid, after, hsplit, hbefore, hmid, rfl⟩ := h.behind (by omega) hboundary
  obtain ⟨rfl, hrest⟩ := eq_of_byteLength_eq (hsplit.symm.trans htext) hbefore
  obtain ⟨rfl, -⟩ := eq_of_byteLength_eq hrest (by omega)
  rfl

theorem Encloses.text_eq_of_trims (h : Encloses text p above body ending below)
    (ht : Trims (body ++ ending) indent shown rest) :
    text = above ++ indent ++ (shown ++ rest ++ below) := by
  rw [h.text_eq, ← List.append_assoc body, ht.line_eq]
  simp

theorem caretColumn_of_trims (ht : Trims line indent shown rest) (column : Nat) :
    (SourceLine.mk n line column).caretColumn =
      if byteLength indent ≤ column then
        match dropBytes? (column - byteLength indent) (shown ++ rest) with
        | some after => (shown ++ rest).length - after.length
        | none => 0
      else 0 := by
  obtain ⟨hindent, hdrop, -⟩ := ht.trim_eq
  rw [← hdrop, ← hindent]
  rfl

theorem Encloses.marks (h : Encloses text p above body ending below)
    (ht : Trims (body ++ ending) indent shown rest) (n : Nat) :
    Marks text (byteLength (above ++ indent)) p
      (SourceLine.mk n (body ++ ending) (p - byteLength above)).caretColumn := by
  have htext := h.text_eq_of_trims ht
  have hstart := h.start_le
  have hline := congrArg byteLength ht.line_eq
  rw [caretColumn_of_trims ht]
  constructor
  · rintro hle ⟨before, after, hsplit, hbefore⟩
    rw [← hbefore] at hle
    obtain ⟨mid, rfl⟩ := prefix_of_byteLength_le (htext.symm.trans hsplit) hle
    rw [byteLength_append, byteLength_append] at hbefore
    have hrest : mid ++ after = shown ++ rest ++ below := by
      rw [htext, List.append_assoc _ mid] at hsplit
      exact (List.append_cancel_left hsplit).symm
    -- The place is not behind the line, so what leads up to it is in the line too.
    have hinside : byteLength mid ≤ byteLength (shown ++ rest) := by
      have := h.le_stop
      simp only [byteLength_append] at hline ⊢
      omega
    obtain ⟨z, hz⟩ := prefix_of_byteLength_le hrest hinside
    have hcolumn : p - byteLength above = byteLength indent + byteLength mid := by omega
    refine ⟨above ++ indent, mid, after, by simpa using hsplit, rfl, by simpa using hbefore, ?_⟩
    rw [hcolumn, if_pos (Nat.le_add_right _ _), Nat.add_sub_cancel_left, ← hz,
      dropBytes?_byteLength_append]
    simp
  · intro hastray
    by_cases hindent : byteLength indent ≤ p - byteLength above
    · rw [if_pos hindent]
      cases hdrop : dropBytes? (p - byteLength above - byteLength indent) (shown ++ rest) with
      | none => rfl
      | some after =>
          obtain ⟨mid, hmid, hlength⟩ := dropBytes?_eq_some_iff.1 hdrop
          rcases hastray with hless | hoff
          · rw [byteLength_append] at hless
            omega
          · refine absurd ⟨above ++ indent ++ mid, after ++ below, ?_, ?_⟩ hoff
            · rw [htext, hmid]
              simp
            · simp only [byteLength_append]
              omega
    · rw [if_neg hindent]

theorem exists_shown (htext : text = a ++ (shown ++ rest)) (hc : CharAt text p c)
    (hstart : byteLength a ≤ p) (hstop : p < byteLength (a ++ shown)) :
    ∃ mid after, shown = mid ++ c :: after ∧ byteLength a + byteLength mid = p := by
  obtain ⟨before, tail, hsplit, rfl⟩ := hc
  obtain ⟨mid, rfl⟩ := prefix_of_byteLength_le (htext.symm.trans hsplit) hstart
  have hrest : mid ++ c :: tail = shown ++ rest := by
    rw [htext, List.append_assoc] at hsplit
    exact (List.append_cancel_left hsplit).symm
  simp only [byteLength_append] at hstop
  obtain ⟨z, rfl⟩ := prefix_of_byteLength_le hrest (by omega)
  cases z with
  | nil =>
      rw [List.append_nil] at hstop
      omega
  | cons d z =>
      rw [List.append_assoc] at hrest
      obtain ⟨rfl, -⟩ := List.cons.inj (List.append_cancel_left hrest)
      exact ⟨mid, z, rfl, by simp⟩

def drawnLines (number : Nat) (shown : List Char) (k : Nat) : List (List Char) :=
  let margin := List.replicate ((toString number).length + 1) ' '
  [margin ++ ['|'],
    (toString number).toList ++ [' ', '|', ' '] ++ shown,
    margin ++ ['|', ' '] ++ List.replicate k '-' ++ ['^']]

theorem drawnLines_eq (l : SourceLine) :
    drawnLines l.number l.printed l.caretColumn =
      [l.excerpt.gutter.toList, l.excerpt.text.toList, l.excerpt.caret.toList] := by
  simp [drawnLines, SourceLine.excerpt, SourceLine.printed]

theorem newline_notMem_of_mem_drawnLines (hshown : '\n' ∉ shown)
    (h : line ∈ drawnLines n shown k) : '\n' ∉ line := by
  have hdigits : '\n' ∉ (toString n).toList := notMem_number (by simp) n
  simp only [drawnLines, List.mem_cons, List.not_mem_nil, or_false] at h
  rcases h with rfl | rfl | rfl
  · simp
  · simpa [hshown] using hdigits
  · simp

theorem idxOf_bar (hx : '|' ∉ x) (y : List Char) : (x ++ '|' :: y).idxOf '|' = x.length := by
  rw [List.idxOf_append_of_notMem hx, List.idxOf_cons_self, Nat.add_zero]

theorem idxOf_of_mem_drawnLines (h : line ∈ drawnLines n shown k) :
    line.idxOf '|' = (toString n).length + 1 := by
  have hmargin := idxOf_bar (x := List.replicate ((toString n).length + 1) ' ') (by simp)
  have hdigits : '|' ∉ (toString n).toList ++ [' '] := by
    simpa using notMem_number (c := '|') (by simp) n
  simp only [drawnLines, List.mem_cons, List.not_mem_nil, or_false] at h
  rcases h with rfl | rfl | rfl
  · rw [hmargin, List.length_replicate]
  · have hbar := idxOf_bar hdigits (' ' :: shown)
    rw [List.length_append, String.length_toList, List.append_assoc] at hbar
    rwa [List.append_assoc]
  · rw [List.append_assoc, List.append_assoc, List.cons_append, hmargin, List.length_replicate]

namespace LexError

def heading (e : LexError) : String := e.header ++ "\n-> " ++ e.position.file ++ "\n"

def place (e : LexError) : Nat := e.position.offset.toNat

theorem render_of_past {e : LexError} {source : String} (h : source.utf8ByteSize < e.place) :
    e.render source = e.heading := by
  have hnone := (SourceLine.at?_eq_none_iff source.toList e.place).2 (by rwa [byteLength_toList])
  rw [place] at hnone
  simp only [render, hnone, heading, String.append_assoc]
  rfl

theorem toList_render_of_line {e : LexError} {source : String}
    (hline : SourceLine.at? source.toList e.place = some l) :
    (e.render source).toList = e.heading.toList ++
      (drawnLines l.number l.printed l.caretColumn).flatMap (· ++ ['\n']) := by
  rw [toList_render hline, drawnLines_eq]
  simp [heading]

/-- An error is drawn wherever it points, if that is in the source at all. Above its caret are the
number and the trimmed text of the line it points into, with the bars in one column. The caret stands
as many characters behind the start of that text as there are between that start and the place, and
so under the place if that is printed. The slices and sums of the machine never fail on the way. -/
theorem render_draws (e : LexError) (source : String) :
    (source.utf8ByteSize < e.place → e.render source = e.heading) ∧
    (e.place ≤ source.utf8ByteSize → ∃ above body ending below indent shown rest,
      Encloses source.toList e.place above body ending below ∧
        Trims (body ++ ending) indent shown rest) ∧
    (∀ above body ending below indent shown rest,
      Encloses source.toList e.place above body ending below →
      Trims (body ++ ending) indent shown rest →
      ∃ k, (e.render source).toList = e.heading.toList ++
          (drawnLines (1 + lineFeeds source e.place) shown k).flatMap (· ++ ['\n']) ∧
        (∀ line ∈ drawnLines (1 + lineFeeds source e.place) shown k, '\n' ∉ line ∧
          line.idxOf '|' = (toString (1 + lineFeeds source e.place)).length + 1) ∧
        Marks source.toList (byteLength (above ++ indent)) e.place k ∧
        ∀ c, CharAt source.toList e.place c → byteLength (above ++ indent) ≤ e.place →
          e.place < byteLength (above ++ indent ++ shown) →
          pointedAt? (e.render source) = some c) ∧
    (source.utf8ByteSize ≤ maxBytes → Checked.render? e source = some (e.render source)) := by
  refine ⟨render_of_past, ?_, ?_, fun hsize => Checked.render?_eq hsize e⟩
  · intro hinside
    rw [← byteLength_toList] at hinside
    obtain ⟨above, body, ending, below, henc⟩ := exists_encloses hinside
    obtain ⟨indent, shown, rest, htrims⟩ := exists_trims (body ++ ending)
    exact ⟨above, body, ending, below, indent, shown, rest, henc, htrims⟩
  · intro above body ending below indent shown rest henc htrims
    have hline := SourceLine.at?_of_isAt ⟨above, body, ending, below, henc, rfl⟩
    have hprinted := SourceLine.newline_notMem_printed hline
    have hrender := toList_render_of_line hline
    have hpointed := pointedAt?_render hline hprinted
    have hmarks := henc.marks htrims (1 + lineFeeds source e.place)
    rw [SourceLine.printed, htrims.trim_eq.2.2] at hprinted hrender hpointed
    refine ⟨_, hrender, ?_, hmarks, ?_⟩
    · intro line hmem
      exact ⟨newline_notMem_of_mem_drawnLines hprinted hmem, idxOf_of_mem_drawnLines hmem⟩
    · intro c hc hstart hstop
      have htext := henc.text_eq_of_trims htrims
      rw [List.append_assoc shown] at htext
      obtain ⟨mid, after, hshown, hplace⟩ := exists_shown htext hc hstart hstop
      have hsplit : source.toList = above ++ indent ++ (mid ++ (c :: after ++ (rest ++ below))) := by
        rw [htext, hshown, List.append_assoc mid]
      rw [hpointed, hmarks.eq_length hsplit hplace, hshown]
      simp

theorem render_draws_wide_character :
    ∃ e : LexError, e.place = 4 ∧ pointedAt? (e.render "\n\té日@\n") = some '日' ∧
      (e.render "\n\té日@\n").toList = e.heading.toList ++
        (drawnLines 2 ['é', '日', '@'] 1).flatMap (· ++ ['\n']) ∧
      Checked.render? e "\n\té日@\n" = some (e.render "\n\té日@\n") := by
  have henc : Encloses "\n\té日@\n".toList 4 ['\n'] ['\t', 'é', '日', '@'] ['\n'] [] :=
    ⟨rfl, .line (l := []) (by simp) .nil, by decide, .inl rfl, by decide, by decide⟩
  have htrims : Trims (['\t', 'é', '日', '@'] ++ ['\n']) ['\t'] ['é', '日', '@'] ['\n'] :=
    ⟨rfl, by simp [White]; decide, by simp [White]; decide, by simp; decide, by simp; decide⟩
  have hchar : CharAt "\n\té日@\n".toList 4 '日' := ⟨['\n', '\t', 'é'], ['@', '\n'], rfl, rfl⟩
  let e : LexError := ⟨.malformedBoolean "maybe", 4, "a b"⟩
  obtain ⟨-, -, hdraws, hchecked⟩ := render_draws e "\n\té日@\n"
  obtain ⟨k, hrender, -, hmarks, hpoints⟩ := hdraws _ _ _ _ _ _ _ henc htrims
  obtain rfl : k = 1 := hmarks.eq_length (b := ['é']) rfl rfl
  have hplace : e.place = 4 := rfl
  rw [hplace, henc.lineFeeds_eq] at hrender
  exact ⟨e, rfl, hpoints '日' hchar (by decide) (by decide), hrender, hchecked (by decide)⟩

end LexError

end PixelScan
