import PixelScan.Proofs.Acceptance

namespace PixelScan

open Alphabet Grammar

structure Occurrence where
  start : Nat
  lexeme : Lexeme

def Occurrence.stop (o : Occurrence) : Nat := o.start + o.lexeme.width

namespace Grammar

/-- `Splits` with the lexemes and their places. The text begins at the byte that is given. -/
inductive Locates : Nat → List Char → List Char → List Occurrence → Prop
  | done {n w rest} : Blanks w → Locates n w rest []
  | cons {n w l s rest t os} : Blanks w → Reads l (s ++ rest) t →
      Locates (n + byteLength w + byteLength l) s rest os →
      Locates n (w ++ (l ++ s)) rest (⟨n + byteLength w, t, l⟩ :: os)

variable {n : Nat} {a b l rest : List Char} {t : Token} {ts : List Token} {os : List Occurrence}

theorem exists_locates (h : Splits a rest ts) (n : Nat) :
    ∃ os, Locates n a rest os ∧ os.map (·.lexeme.token) = ts := by
  induction h generalizing n with
  | done hw => exact ⟨[], .done hw, rfl⟩
  | @cons w l s rest t ts hw hl _ ih =>
      obtain ⟨os, hos, rfl⟩ := ih (n + byteLength w + byteLength l)
      exact ⟨_, .cons hw hl hos, rfl⟩

theorem lt_stop_of_locates (h : Locates n a rest os) : ∀ o ∈ os, n < o.stop := by
  induction h with
  | done => simp
  | @cons n w l s rest t os hw hl _ ih =>
      have hpos := byteLength_pos hl.ne_nil
      intro o ho
      rcases List.mem_cons.1 ho with rfl | ho
      · simp only [Occurrence.stop, Lexeme.width]
        omega
      · have := ih o ho
        omega

theorem stops_increase (h : Locates n a rest os) :
    (os.map Occurrence.stop).Pairwise (· < ·) := by
  induction h with
  | done => simp
  | @cons n w l s rest t os hw hl hs ih =>
      rw [List.map_cons, List.pairwise_cons]
      refine ⟨?_, ih⟩
      simpa [Occurrence.stop, Lexeme.width] using lt_stop_of_locates hs

end Grammar

def leadState (text : List Char) : ScanState :=
  ((text.head?.map classify).bind ScanState.start.next).getD .start

/-- What is reported of a lexeme: that it was turned to, unless it is a delimiter, whether it assigns,
and its token with the place behind it. -/
def Occurrence.reports (o : Occurrence) : List Event :=
  let token := o.lexeme.token
  let turned := if token.kind = .delimiter then []
    else [.transition .start (leadState o.lexeme.spelling) o.start]
  let assigned := if token = ⟨.operator, "="⟩ then [.assign o.start] else []
  turned ++ assigned ++ [.emit token o.stop]

/-- What is reported of a text that spoils a scan. An unexpected character is not turned to. -/
def refusalReports (n : Nat) (text : List Char) : Fault → List Event
  | .unexpectedCharacter _ => []
  | _ => [.transition .start (leadState text) n]

def account (source : List Char) (file : String) (os : List Occurrence) : List Event :=
  .started file (byteLength source) :: os.flatMap Occurrence.reports

/-- A faithful account of the scan of a source, to its end or to its first error. -/
inductive Narrates (source : List Char) (file : String) : Transcript → Prop
  | finishes {os} : Locates 0 source [] os →
      Narrates source file
        ⟨(account source file os ++ [Event.finished os.length]).toArray,
          .ok (os.map (·.lexeme.token)).toArray⟩
  | breaksOff {a b os fault} : source = a ++ b → Locates 0 a b os → Spoils b fault →
      Narrates source file
        ⟨(account source file os ++ refusalReports (byteLength a) b fault).toArray,
          .error ⟨fault, (byteLength a).toUInt32, file⟩⟩

def TokenKind.leadClass : TokenKind → CharClass
  | .identifier | .keyword | .booleanLiteral => .alpha
  | .integerLiteral | .floatLiteral => .digit
  | .colourLiteral => .hash
  | .operator => .operator
  | .delimiter => .delimiter
  | .stringLiteral => .quote

theorem leadClass_word (word : String) :
    ((reservedKind? word).getD .identifier).leadClass = .alpha := by
  cases h : reservedKind? word with
  | none => rfl
  | some kind =>
      rcases kind_of_mem_reservedWords _ (mem_of_reservedKind? h) with rfl | rfl <;> rfl

theorem classify_of_reads {c : Char} {l rest : List Char} {t : Token}
    (h : Reads (c :: l) rest t) : classify c = t.kind.leadClass := by
  cases h with
  | word hword =>
      rw [leadClass_word]
      exact classify_of_ofClass (k := .alpha) (word_cons_iff.1 hword).1
  | integer hinteger => exact classify_of_ofClass (k := .digit) (hinteger.2 c (by simp))
  | decimal hdecimal =>
      obtain ⟨d, ds, es, heq, hd, -⟩ := exists_cons_of_decimal hdecimal
      obtain ⟨rfl, -⟩ := List.cons.inj heq
      exact classify_of_ofClass (k := .digit) hd
  | colour hcolour =>
      obtain ⟨ds, heq, -⟩ := hcolour
      obtain ⟨rfl, -⟩ := List.cons.inj heq
      rfl
  | string => rfl
  | operator hc => exact classify_of_mem_operatorChars c hc
  | delimiter hc => exact classify_of_mem_delimiterChars c hc

theorem eq_of_reads_operator {c : Char} {l rest : List Char} {t : Token}
    (h : Reads (c :: l) rest t) (ht : t.kind = .operator) : t = ⟨.operator, String.ofList [c]⟩ := by
  cases h with
  | word =>
      have hclass := leadClass_word (String.ofList (c :: l))
      rw [show (reservedKind? (String.ofList (c :: l))).getD .identifier = .operator from ht] at hclass
      cases hclass
  | operator => rfl
  | integer | decimal | colour | string | delimiter => cases ht

theorem assigns_iff {c : Char} {l rest : List Char} {t : Token} (h : Reads (c :: l) rest t) :
    t = ⟨.operator, "="⟩ ↔ c = '=' := by
  constructor
  · rintro rfl
    have hvalue := congrArg Token.value (eq_of_reads_operator h rfl)
    simpa using (congrArg String.toList hvalue).symm
  · rintro rfl
    have hclass : TokenKind.leadClass t.kind = .operator := (classify_of_reads h).symm
    apply eq_of_reads_operator h
    cases hkind : t.kind with
    | operator => rfl
    | _ => simp [hkind, TokenKind.leadClass] at hclass

def turnReports (n : Nat) (c : Char) : List Event :=
  match classify c with
  | .whitespace | .delimiter | .invalid => []
  | _ => .transition .start (leadState [c]) n :: if c = '=' then [.assign n] else []

theorem leadState_cons (c : Char) (tail : List Char) :
    leadState (c :: tail) = (ScanState.start.next (classify c)).getD .start := rfl

theorem reports_of_reads {n : Nat} {c : Char} {l rest : List Char} {t : Token}
    (h : Reads (c :: l) rest t) :
    Occurrence.reports ⟨n, t, c :: l⟩ =
      turnReports n c ++ [.emit t (n + byteLength (c :: l))] := by
  have hclass := classify_of_reads h
  have hassigns : t.kind = .delimiter → c ≠ '=' := by
    rintro hkind rfl
    rw [hkind] at hclass
    cases hclass
  simp only [Occurrence.reports, assigns_iff h, turnReports, leadState_cons, hclass]
  cases hkind : t.kind with
  | delimiter => simp [hassigns hkind, Occurrence.stop, Lexeme.width, TokenKind.leadClass]
  | _ => by_cases hc : c = '=' <;> simp [hc, Occurrence.stop, Lexeme.width, TokenKind.leadClass]

theorem reports_of_spoils {n : Nat} {c : Char} {tail : List Char} {fault : Fault}
    (h : Spoils (c :: tail) fault) : refusalReports n (c :: tail) fault = turnReports n c := by
  rcases classify_of_spoils h with ⟨hk, rfl⟩ | ⟨hk, hother⟩
  · rw [turnReports, hk]
    rfl
  · have hassigns : c ≠ '=' := by
      rintro rfl
      simp [classify_of_mem_operatorChars '=' (by decide)] at hk
    have hturns : turnReports n c = [.transition .start (leadState (c :: tail)) n] := by
      rw [turnReports, if_neg hassigns, leadState_cons, leadState_cons]
      cases hclass : classify c with
      | digit | hash | quote => rfl
      | _ => simp [hclass] at hk
    rw [hturns]
    cases fault with
    | unexpectedCharacter d => exact absurd rfl (hother d)
    | _ => rfl

namespace Scanner

variable {s : Scanner} {c : Char} {a l rest : List Char} {t : Token} {os : List Occurrence}

theorem log_announce (hstart : s.state = .start) (c : Char) :
    (s.announce c).log.toList = s.log.toList ++ turnReports s.pos c := by
  have hassigns : c = '=' → classify c = .operator := by
    rintro rfl
    rfl
  rw [announce, turnReports, leadState_cons]
  cases hk : classify c with
  | whitespace | delimiter | invalid => simp
  | alpha | digit | hash | quote =>
      have hc : c ≠ '=' := by
        intro hc
        cases hk.symm.trans (hassigns hc)
      simp [enter, record, hstart, hc, ScanState.next]
  | operator =>
      by_cases hc : c = '=' <;> simp [enter, record, hstart, hc, ScanState.next]

theorem log_accept (s : Scanner) (l : Lexeme) :
    (s.accept l).log.toList = s.log.toList ++ [.emit l.token (s.pos + l.width)] := by
  simp [accept, push, record]

theorem run_of_locates {n : Nat} (ha : Locates n a rest os) (hn : s.pos = n)
    (h : s.Facing (a ++ rest)) :
    ∃ u, s.run = u.run ∧ Moves s u a (os.map (·.lexeme.token)) ∧
      u.log.toList = s.log.toList ++ os.flatMap Occurrence.reports := by
  induction ha generalizing s with
  | done hw =>
      obtain ⟨u, hrun, hu, hlog⟩ := run_of_blanks hw h
      exact ⟨u, hrun, hu, by simp [hlog]⟩
  | @cons n w l a rest t os hw hl ha ih =>
      rw [List.append_assoc, List.append_assoc] at h
      obtain ⟨u, hblanks, hu, hquiet⟩ := run_of_blanks hw h
      have hfacing := hu.facing h
      obtain ⟨c, l, rfl⟩ := List.exists_cons_of_ne_nil hl.ne_nil
      have hstep := step_accepts hfacing hl
      have hmoves := moves_accept (l := c :: l) u c t
      have hpos : u.pos = n + byteLength w := by rw [hu.pos, hn]
      obtain ⟨v, hrest, hv, hlog⟩ := ih (by rw [hmoves.pos, hpos]) (hmoves.facing hfacing)
      refine ⟨v, ?_, hu.trans (hmoves.trans hv), ?_⟩
      · rw [hblanks, run_of_step_ok (atEnd_eq_false_of_facing hfacing (by simp)) hstep, hrest]
      · obtain ⟨-, -, hsame, -⟩ := u.announce_fields c
        rw [hlog, log_accept, log_announce hu.state, hquiet, List.flatMap_cons, reports_of_reads hl,
          hsame, hpos]
        simp [Lexeme.width]

end Scanner

theorem transcribe_eq_map_run (source : String) (file : Option String) :
    transcribe source file = (opening source file).run.map Transcript.ofReply := rfl

theorem log_opening (source : String) (file : Option String) :
    (opening source file).log.toList =
      [.started (file.getD "shell") (byteLength source.toList)] := rfl

theorem transcribe_of_locates {source : String} {file : Option String} {os : List Occurrence}
    (h : Locates 0 source.toList [] os) :
    transcribe source file =
      some ⟨(account source.toList (file.getD "shell") os ++ [Event.finished os.length]).toArray,
        .ok (os.map (·.lexeme.token)).toArray⟩ := by
  have hfacing := facing_opening source file
  rw [← List.append_nil source.toList] at hfacing
  obtain ⟨t, hrun, ht, hlog⟩ := Scanner.run_of_locates h rfl hfacing
  have hend := Scanner.atEnd_of_facing_nil (ht.facing hfacing)
  have htokens : t.tokens = (os.map (·.lexeme.token)).toArray := by
    rw [← Array.toList_inj, ht.tokens]
    rfl
  have hevents : t.log.push (.finished os.length) =
      (account source.toList (file.getD "shell") os ++ [Event.finished os.length]).toArray := by
    rw [← Array.toList_inj, Array.toList_push, hlog, log_opening]
    rfl
  have hsize : t.tokens.size = os.length := by simp [htokens]
  rw [transcribe_eq_map_run, hrun, Scanner.run_of_atEnd hend, Option.map_some, Transcript.ofReply,
    hsize, hevents, htokens]

theorem transcribe_of_spoils {source : String} {file : Option String} {a b : List Char}
    {os : List Occurrence} {fault : Fault} (hsource : source.toList = a ++ b)
    (ha : Locates 0 a b os) (hb : Spoils b fault) :
    transcribe source file =
      some ⟨(account source.toList (file.getD "shell") os ++
            refusalReports (byteLength a) b fault).toArray,
        .error ⟨fault, (byteLength a).toUInt32, file.getD "shell"⟩⟩ := by
  have hfacing : (opening source file).Facing (a ++ b) := hsource ▸ facing_opening source file
  obtain ⟨c, tail, rfl, -⟩ := hb.exists_cons
  obtain ⟨t, hrun, ht, hlog⟩ := Scanner.run_of_locates ha rfl hfacing
  have hthere := ht.facing hfacing
  have hend := Scanner.atEnd_eq_false_of_facing hthere (by simp)
  have hpos : t.pos = byteLength a := by rw [ht.pos]; exact Nat.zero_add _
  have hevents : (t.announce c).log =
      (account source.toList (file.getD "shell") os ++
        refusalReports (byteLength a) (c :: tail) fault).toArray := by
    rw [← Array.toList_inj, Scanner.log_announce ht.state, hlog, log_opening,
      reports_of_spoils hb, hpos]
    rfl
  rw [transcribe_eq_map_run, hrun, Scanner.run_of_step_error hend (Scanner.step_refuses hthere hb),
    ← position_of_moves ht, ← Scanner.position_announce t c, ← hevents]
  rfl

def Event.emission? : Event → Option (Token × Nat)
  | .emit token pos => some (token, pos)
  | _ => none

def Transcript.emissions (t : Transcript) : List (Token × Nat) :=
  t.events.toList.filterMap Event.emission?

def Transcript.headlines (t : Transcript) : List (LogLevel × String) :=
  (t.events.toList.filter fun e => e.level ≠ .trace).map fun e => (e.level, e.name)

theorem emissions_reports (o : Occurrence) :
    o.reports.filterMap Event.emission? = [(o.lexeme.token, o.stop)] := by
  simp only [Occurrence.reports]
  split <;> split <;> rfl

theorem emissions_account (source : List Char) (file : String) (os : List Occurrence) :
    (account source file os).filterMap Event.emission? =
      os.map fun o => (o.lexeme.token, o.stop) := by
  rw [account, List.filterMap_cons_none rfl, List.filterMap_flatMap]
  simp only [emissions_reports]
  exact (List.map_eq_flatMap).symm

theorem trace_of_mem_reports (o : Occurrence) : ∀ e ∈ o.reports, e.level = .trace := by
  simp only [Occurrence.reports]
  split <;> split <;> simp [Event.level]

theorem headlines_account (source : List Char) (file : String) (os : List Occurrence) :
    ((account source file os).filter fun e => e.level ≠ .trace) =
      [.started file (byteLength source)] := by
  have hdetails : (os.flatMap Occurrence.reports).filter (fun e => e.level ≠ .trace) = [] := by
    rw [List.filter_eq_nil_iff]
    intro e he
    obtain ⟨o, -, heo⟩ := List.mem_flatMap.1 he
    simp [trace_of_mem_reports o e heo]
  rw [account, List.filter_cons_of_pos (by simp [Event.level]), hdetails]

theorem details_refusalReports (n : Nat) (text : List Char) (fault : Fault) :
    (refusalReports n text fault).filterMap Event.emission? = [] ∧
      (refusalReports n text fault).filter (fun e => e.level ≠ .trace) = [] := by
  cases fault <;> exact ⟨rfl, rfl⟩

theorem Narrates.emissions_eq {source : List Char} {file : String} {t : Transcript}
    (h : Narrates source file t) :
    ∃ a b os, source = a ++ b ∧ Locates 0 a b os ∧
      t.emissions = os.map (fun o => (o.lexeme.token, o.stop)) ∧
      (∀ tokens, t.result = .ok tokens → tokens.toList = os.map (·.lexeme.token)) := by
  cases h with
  | @finishes os hos =>
      refine ⟨source, [], os, by simp, hos, ?_, ?_⟩
      · rw [Transcript.emissions, List.filterMap_append, emissions_account]
        simp [Event.emission?]
      · intro tokens htokens
        cases htokens
        rfl
  | @breaksOff a b os fault hsource hos hfault =>
      refine ⟨a, b, os, hsource, hos, ?_, nofun⟩
      rw [Transcript.emissions, List.filterMap_append, emissions_account,
        (details_refusalReports _ _ _).1, List.append_nil]

theorem Narrates.headlines_eq {source : List Char} {file : String} {t : Transcript}
    (h : Narrates source file t) :
    t.headlines =
      (.debug, "tokenize") :: if t.result.isOk then [(.debug, "tokenized")] else [] := by
  cases h with
  | finishes hos =>
      rw [Transcript.headlines, List.filter_append, headlines_account]
      rfl
  | breaksOff hsource hos hfault =>
      rw [Transcript.headlines, List.filter_append, headlines_account,
        (details_refusalReports _ _ _).2]
      rfl

/-- A scan leaves a faithful account of itself. The tokens that it tells of are those that it returns,
one behind the other, and above the details it tells of its beginning, and of its end if it comes to
it. -/
theorem transcribe_narrates (source : String) (file : Option String) :
    ∃ t, transcribe source file = some t ∧ Narrates source.toList (file.getD "shell") t ∧
      (∀ tokens, t.result = .ok tokens → t.emissions.map Prod.fst = tokens.toList) ∧
      (t.emissions.map Prod.snd).Pairwise (· < ·) ∧
      t.headlines =
      (.debug, "tokenize") :: if t.result.isOk then [(.debug, "tokenized")] else [] := by
  obtain ⟨t, ht, hnarrates⟩ : ∃ t, transcribe source file = some t ∧
      Narrates source.toList (file.getD "shell") t := by
    rcases splits_or_spoils source.toList with ⟨ts, hsplits⟩ | ⟨a, b, ts, fault, hsource, ha, hb⟩
    · obtain ⟨os, hos, -⟩ := exists_locates hsplits 0
      exact ⟨_, transcribe_of_locates hos, .finishes hos⟩
    · obtain ⟨os, hos, -⟩ := exists_locates ha 0
      exact ⟨_, transcribe_of_spoils hsource hos hb, .breaksOff hsource hos hb⟩
  obtain ⟨a, b, os, -, hos, hemissions, hresult⟩ := hnarrates.emissions_eq
  refine ⟨t, ht, hnarrates, ?_, ?_, hnarrates.headlines_eq⟩
  · intro tokens htokens
    rw [hresult tokens htokens, hemissions, List.map_map]
    rfl
  · rw [hemissions, List.map_map]
    exact stops_increase hos

end PixelScan
