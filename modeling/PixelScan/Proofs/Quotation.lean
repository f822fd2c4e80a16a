import Mathlib.Data.List.Nodup
import PixelScan.Text.Digits
import PixelScan.Text.Pieces
import PixelScan.Text.Quoted

namespace PixelScan.Quotation

def delimiters : List Char := ['\'', '"']

def marks (delimiter : Char) : List (Char × Char) :=
  [('\x00', '0'), ('\t', 't'), ('\r', 'r'), ('\n', 'n'), ('\\', '\\'), (delimiter, delimiter)]

def Unmarked (delimiter c : Char) : Prop := ∀ m, (c, m) ∉ marks delimiter

/-- One character as it stands between two delimiters. It is left open which of the unmarked ones
are written by their code points. -/
inductive Escapes (delimiter : Char) : Char → List Char → Prop
  | mark {c m} : (c, m) ∈ marks delimiter → Escapes delimiter c ['\\', m]
  | plain {c} : Unmarked delimiter c → Escapes delimiter c [c]
  | code {c} : Unmarked delimiter c →
      Escapes delimiter c ('\\' :: 'u' :: '{' :: (Nat.toDigits 16 c.toNat ++ ['}']))

inductive EscapesAll (delimiter : Char) : List Char → List Char → Prop
  | nil : EscapesAll delimiter [] []
  | cons {c cs v w} : Escapes delimiter c v → EscapesAll delimiter cs w →
      EscapesAll delimiter (c :: cs) (v ++ w)

def Quotes (delimiter : Char) (cs text : List Char) : Prop :=
  ∃ body, EscapesAll delimiter cs body ∧ text = delimiter :: (body ++ [delimiter])

variable {d c c' : Char} {cs cs' v w x y : List Char}

theorem Unmarked.ne_delimiter (h : Unmarked d c) : c ≠ d := by
  rintro rfl
  exact h c (by simp [marks])

theorem Unmarked.ne_backslash (h : Unmarked d c) : c ≠ '\\' := by
  rintro rfl
  exact h '\\' (by simp [marks])

theorem escapes_escape (d c : Char) : Escapes d c (escape d c) := by
  fun_cases escape d c with
  | case1 | case2 | case3 | case4 | case5 | case6 => exact .mark (by simp [marks])
  | case7 =>
      refine .plain ?_
      simp_all [Unmarked, marks]
  | case8 =>
      refine .code ?_
      simp_all [Unmarked, marks]

theorem escapesAll_flatMap (d : Char) (cs : List Char) :
    EscapesAll d cs (cs.flatMap (escape d)) := by
  induction cs with
  | nil => exact .nil
  | cons c cs ih => exact .cons (escapes_escape d c) ih

theorem quotes_quote (d : Char) (cs : List Char) : Quotes d cs (quote d cs) :=
  ⟨_, escapesAll_flatMap d cs, rfl⟩

theorem nodup_marks (hd : d ∈ delimiters) : ('u' :: (marks d).map Prod.snd).Nodup := by
  rw [delimiters, List.mem_pair] at hd
  rcases hd with rfl | rfl <;> decide

theorem Escapes.append_inj (hd : d ∈ delimiters) (h : Escapes d c v) (h' : Escapes d c' w)
    (heq : v ++ x = w ++ y) : c = c' ∧ x = y := by
  obtain ⟨hu, hmarks⟩ := List.nodup_cons.1 (nodup_marks hd)
  cases h with
  | @mark m hm =>
      cases h' with
      | @mark m' hm' =>
          obtain ⟨rfl, hrest⟩ : m = m' ∧ x = y := by simpa using heq
          have hsame := List.inj_on_of_nodup_map hmarks hm hm' rfl
          exact ⟨congrArg Prod.fst hsame, hrest⟩
      | plain hc' => exact absurd (List.cons.inj heq).1.symm hc'.ne_backslash
      | code =>
          obtain rfl : m = 'u' := (List.cons.inj (List.cons.inj heq).2).1
          exact absurd (List.mem_map_of_mem hm) hu
  | plain hc =>
      cases h' with
      | mark | code => exact absurd (List.cons.inj heq).1 hc.ne_backslash
      | plain => exact List.cons.inj heq
  | code =>
      cases h' with
      | @mark m' hm' =>
          obtain rfl : 'u' = m' := (List.cons.inj (List.cons.inj heq).2).1
          exact absurd (List.mem_map_of_mem hm') hu
      | plain hc' => exact absurd (List.cons.inj heq).1.symm hc'.ne_backslash
      | code =>
          -- The digits of a code point are over at the first closing brace.
          have hbrace : ∀ e : Char, '}' ∉ Nat.toDigits 16 e.toNat := by
            intro e
            exact notMem_toDigits (by decide) (by simp)
          obtain ⟨hdigits, hrest⟩ := append_inj_of_first (hbrace c) (hbrace c') (by simpa using heq)
          exact ⟨Char.toNat_inj.1 (toDigits_inj (by decide) (by decide) hdigits), hrest⟩

theorem Escapes.head?_ne (hd : d ∈ delimiters) (h : Escapes d c v) : (v ++ x).head? ≠ some d := by
  have hbackslash : '\\' ≠ d := by
    rintro rfl
    exact absurd hd (by decide)
  cases h with
  | mark | code => simpa using hbackslash
  | plain hc => simpa using hc.ne_delimiter

theorem EscapesAll.append_inj (hd : d ∈ delimiters) (h : EscapesAll d cs v)
    (h' : EscapesAll d cs' w) (heq : v ++ d :: x = w ++ d :: y) : cs = cs' ∧ x = y := by
  induction h generalizing cs' w with
  | nil =>
      cases h' with
      | nil => exact ⟨rfl, (List.cons.inj heq).2⟩
      | cons hc hcs =>
          rw [List.append_assoc] at heq
          exact absurd (congrArg List.head? heq.symm) (hc.head?_ne hd)
  | cons hc hcs ih =>
      cases h' with
      | nil =>
          rw [List.append_assoc] at heq
          exact absurd (congrArg List.head? heq) (hc.head?_ne hd)
      | cons hc' hcs' =>
          rw [List.append_assoc, List.append_assoc] at heq
          obtain ⟨rfl, hrest⟩ := hc.append_inj hd hc' heq
          obtain ⟨rfl, htail⟩ := ih hcs' hrest
          exact ⟨rfl, htail⟩

/-- A quoted text is told by its quotation, wherever that stands. -/
theorem Quotes.append_inj (hd : d ∈ delimiters) (h : Quotes d cs v) (h' : Quotes d cs' w)
    (heq : v ++ x = w ++ y) : cs = cs' ∧ x = y := by
  obtain ⟨body, hbody, rfl⟩ := h
  obtain ⟨body', hbody', rfl⟩ := h'
  exact hbody.append_inj hd hbody' (by simpa using heq)

end PixelScan.Quotation
