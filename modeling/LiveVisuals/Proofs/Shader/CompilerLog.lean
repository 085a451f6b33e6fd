import LiveVisuals.Proofs.Shader.Addressed
import LiveVisuals.Proofs.Shader.Declared
import LiveVisuals.Shader.Diagnostic

/-!
# Compiler logs are read back

Compilers agree on what a line of their logs says, but hardly on how it is laid out: letter case,
blanks around the colons, indentation, blank lines and line breaks differ. A log is read back
whatever its layout. Nothing is assumed of the messages but that each fits on its line; they may
look like the start of a line themselves.

Main definitions:

- {lit}`LogEntry.Report`: what a compiler reports on a line of the compiled text.
- {lit}`LogEntry.Layout`: how a report is written on a line.
- {lit}`LogEntry.Page`: a log of reports and blank lines.
- {lit}`LogEntry.contents`: the lines of a log that are not blank, trimmed.

Main results:

- Theorem {lit}`LogEntry.located?_core`: a line is taken apart as it was put together.
- Theorem {lit}`LogEntry.contents_text`: a page has the lines of its reports.
- Theorem {lit}`LogEntry.contents_eq`: a log has an entry for each line that is not blank.
- Theorem {lit}`LogEntry.log_reads_back`: logs are read back, and no line of any log is lost.
-/

namespace LiveVisuals

/-! ## Blanks at the ends of texts -/

namespace Text

/-- Blanks at the start of a text are skipped. -/
theorem skipBlanks_append {bs : List Char} (h : ∀ c ∈ bs, isBlank c = true) (cs : List Char) :
    skipBlanks (bs ++ cs) = skipBlanks cs :=
  List.dropWhile_append_of_pos h

/-- A text that does not start with a blank stays as it is. -/
theorem skipBlanks_eq_self {cs : List Char} (h : ∀ c ∈ cs.head?, isBlank c = false) :
    skipBlanks cs = cs := by
  cases cs with
  | nil => rfl
  | cons c cs => simp [skipBlanks, h c rfl]

theorem trim_eq_trimEnd (cs : List Char) : trim cs = trimEnd (skipBlanks cs) := rfl

/-- Blanks are skipped up to a character that is none. -/
theorem isBlank_of_skipBlanks {c : Char} {cs ds : List Char} (h : skipBlanks cs = c :: ds) :
    isBlank c = false := by
  have hhead := List.head?_dropWhile_not isBlank cs
  rw [← skipBlanks.eq_1, h] at hhead
  simpa using hhead

/-- A text that does not start with a blank is not trimmed at its start. -/
theorem trimEnd_cons {c : Char} (h : isBlank c = false) (cs : List Char) :
    trimEnd (c :: cs) = c :: trimEnd cs :=
  trimEnd_append_cons [] h cs

/-- A trimmed text does not start with a blank. -/
theorem isBlank_head?_trim (cs : List Char) : ∀ c ∈ (trim cs).head?, isBlank c = false := by
  rw [trim_eq_trimEnd]
  cases hskip : skipBlanks cs with
  | nil => simp [trimEnd]
  | cons d ds =>
      have hd : isBlank d = false := isBlank_of_skipBlanks hskip
      rw [trimEnd_cons hd]
      simpa using hd

/-- Nothing is left of a text if and only if it is blank. -/
theorem trim_eq_nil_iff {cs : List Char} : trim cs = [] ↔ ∀ c ∈ cs, isBlank c = true := by
  have hnil : skipBlanks cs = [] ↔ ∀ c ∈ cs, isBlank c = true := List.dropWhile_eq_nil_iff
  rw [← hnil, trim_eq_trimEnd]
  cases hskip : skipBlanks cs with
  | nil => simp [trimEnd]
  | cons d ds => simp [trimEnd_cons (isBlank_of_skipBlanks hskip)]

/-- Blanks around a text that neither starts nor ends with one are trimmed off. -/
theorem trim_around {bs cs ds : List Char} (hbs : ∀ c ∈ bs, isBlank c = true)
    (hds : ∀ c ∈ ds, isBlank c = true) (hne : cs ≠ []) (hhead : ∀ c ∈ cs.head?, isBlank c = false)
    (hlast : ∀ c ∈ cs.getLast?, isBlank c = false) : trim (bs ++ cs ++ ds) = cs := by
  have hstart : ∀ c ∈ (cs ++ ds).head?, isBlank c = false := by
    cases cs with
    | nil => exact absurd rfl hne
    | cons c cs => simpa using hhead
  have hend : (cs ++ ds).reverse = ds.reverse ++ cs.reverse := List.reverse_append
  rw [List.append_assoc, trim_eq_trimEnd, skipBlanks_append hbs, skipBlanks_eq_self hstart, trimEnd,
    hend, skipBlanks_append fun c hc => hds c (List.mem_reverse.mp hc), ← trimEnd,
    trimEnd_eq_self hlast]

end Text

/-! ## Reports and their layout -/

/-- How a severity is written in capitals. Lines that are informative name none. -/
def Severity.capitals : Severity → List Char
  | .error => "ERROR".toList
  | .warning => "WARNING".toList
  | .info => []

theorem Severity.capitals_ne_nil {s : Severity} (hs : s ≠ .info) : s.capitals ≠ [] := by
  cases s with
  | info => exact absurd rfl hs
  | error | warning => decide

namespace LogEntry

open Text

/-- What a compiler reports on a line of the compiled text. -/
structure Report where
  severity : Severity
  severity_ne : severity ≠ .info
  line : Nat
  /-- Line numbers of this size are exact. -/
  line_lt : line < 2 ^ 53
  message : List Char
  message_ne : message ≠ []
  isLineEnd_eq : ∀ c ∈ message, isLineEnd c = false
  trim_eq : trim message = message

namespace Report

theorem isBlank_head? (r : Report) : ∀ c ∈ r.message.head?, isBlank c = false :=
  r.trim_eq ▸ isBlank_head?_trim r.message

theorem isBlank_getLast? (r : Report) : ∀ c ∈ r.message.getLast?, isBlank c = false := by
  rw [← r.trim_eq, trim_eq_trimEnd]
  exact isBlank_getLast?_trimEnd

end Report

/-- Blanks within a line. -/
structure Gap where
  chars : List Char
  isBlank_eq : ∀ c ∈ chars, isBlank c = true
  isUnbroken : IsUnbroken chars

/-- Parts of a line may follow each other without a blank. -/
theorem isBlank_of_mem_nil : ∀ c ∈ ([] : List Char), isBlank c = true := List.forall_mem_nil _

/-- A colon with the blanks around it. -/
structure Colon where
  before : Gap
  after : Gap

def Colon.text (k : Colon) : List Char := k.before.chars ++ ':' :: k.after.chars

/-- A number as it is written; zeros may stand ahead of it. -/
structure Figure where
  digits : List Char
  digits_ne : digits ≠ []
  isDigit_eq : ∀ c ∈ digits, c.isDigit = true

/-- How a report is written on a line. -/
structure Layout (r : Report) where
  indent : Gap
  /-- The severity, in any letter case. -/
  word : List Char
  map_toUpper_word : word.map Char.toUpper = r.severity.capitals
  first : Colon
  source : Figure
  second : Colon
  number : Figure
  natOfDigits_number : Decimal.natOfDigits number.digits = r.line
  third : Colon
  trailing : Gap

namespace Layout

variable {r : Report}

/-- The line without the blanks around it. -/
def core (l : Layout r) : List Char :=
  l.word ++ (l.first.text ++ (l.source.digits ++ (l.second.text ++ (l.number.digits ++
    (l.third.text ++ r.message)))))

/-- The line. -/
def text (l : Layout r) : List Char := l.indent.chars ++ l.core ++ l.trailing.chars

end Layout

/-! ## Taking a line apart -/

/-- What follows a colon is read from its first character on that is no blank. -/
theorem afterColon?_text (k : Colon) {cs : List Char} (h : ∀ c ∈ cs.head?, isBlank c = false) :
    afterColon? (k.text ++ cs) = some cs := by
  have hcolon : skipBlanks (k.text ++ cs) = ':' :: (k.after.chars ++ cs) := by
    have hmark : isBlank ':' = false := by decide
    rw [Colon.text, List.append_assoc, skipBlanks_append k.before.isBlank_eq]
    exact skipBlanks_eq_self (by simpa using hmark)
  rw [afterColon?, hcolon]
  show some (skipBlanks (k.after.chars ++ cs)) = some cs
  rw [skipBlanks_append k.after.isBlank_eq, skipBlanks_eq_self h]

theorem isDigit_of_mem_head?_text (k : Colon) (cs : List Char) :
    ∀ c ∈ (k.text ++ cs).head?, c.isDigit = false := by
  intro c hc
  by_contra hdigit
  rw [Bool.not_eq_false] at hdigit
  have hblank : isBlank c = false := Shader.isBlank_of_isWordChar (by simp [isWordChar, hdigit])
  cases hbefore : k.before.chars with
  | nil =>
      rw [Colon.text, hbefore] at hc
      obtain rfl : ':' = c := by simpa using hc
      cases hdigit
  | cons d ds =>
      rw [Colon.text, hbefore] at hc
      obtain rfl : d = c := by simpa using hc
      have hd := k.before.isBlank_eq d (by simp [hbefore])
      rw [hblank] at hd
      cases hd

/-- A number is read up to the colon that follows it. -/
theorem digits?_figure (f : Figure) (k : Colon) (cs : List Char) :
    digits? (f.digits ++ (k.text ++ cs)) = some (f.digits, k.text ++ cs) := by
  have hstop {p : Char → Bool} {ds : List Char} (h : ∀ c ∈ ds.head?, p c = false) :
      ds.takeWhile p = [] ∧ ds.dropWhile p = ds := by
    cases ds with
    | nil => exact ⟨rfl, rfl⟩
    | cons d ds => simp [h d rfl]
  obtain ⟨htake, hdrop⟩ := hstop (isDigit_of_mem_head?_text k cs)
  have hrun : Decimal.digitRun (f.digits ++ (k.text ++ cs)) = (f.digits, k.text ++ cs) := by
    rw [Decimal.digitRun, List.takeWhile_append_of_pos f.isDigit_eq,
      List.dropWhile_append_of_pos f.isDigit_eq, htake, hdrop, List.append_nil]
  rw [digits?, hrun]
  cases hdigits : f.digits with
  | nil => exact absurd hdigits f.digits_ne
  | cons d ds => rfl

theorem isBlank_of_mem_head?_figure (f : Figure) (cs : List Char) :
    ∀ c ∈ (f.digits ++ cs).head?, isBlank c = false := by
  cases hdigits : f.digits with
  | nil => exact absurd hdigits f.digits_ne
  | cons d ds =>
      have hd : d.isDigit = true := f.isDigit_eq d (by simp [hdigits])
      intro c hc
      obtain rfl : d = c := by simpa using hc
      exact Shader.isBlank_of_isWordChar (by simp [isWordChar, hd])

/-- The severity is read in any letter case. -/
theorem severityWord?_append {s : Severity} (hs : s ≠ .info) {word : List Char}
    (hword : word.map Char.toUpper = s.capitals) (cs : List Char) :
    severityWord? (word ++ cs) = some (s, cs) := by
  have hlength : word.length = (s.capitals).length := by rw [← hword, List.length_map]
  cases s with
  | info => exact absurd rfl hs
  | error =>
      have hfive : word.length = 5 := hlength
      have htake : (word ++ cs).take 5 = word := List.take_left' hfive
      have hdrop : (word ++ cs).drop 5 = cs := List.drop_left' hfive
      simp only [severityWord?, htake, hdrop, hword]
      rfl
  | warning =>
      have hseven : word.length = 7 := hlength
      have htake : (word ++ cs).take 7 = word := List.take_left' hseven
      have hdrop : (word ++ cs).drop 7 = cs := List.drop_left' hseven
      have hother : ((word ++ cs).take 5).map Char.toUpper = "WARNI".toList := by
        rw [List.take_append_of_le_length (by omega), List.map_take, hword]
        rfl
      simp only [severityWord?, htake, hdrop, hword, hother]
      rfl

/-- A line is taken apart as it was put together. -/
theorem located?_core {r : Report} (l : Layout r) :
    located? l.core =
      some ⟨r.severity, some r.line, String.ofList r.message, String.ofList l.core⟩ := by
  have hmessage : r.message.any isLineEnd = false := by simpa using r.isLineEnd_eq
  have hword := severityWord?_append r.severity_ne l.map_toUpper_word
  have hfirst := afterColon?_text l.first (isBlank_of_mem_head?_figure l.source
    (l.second.text ++ (l.number.digits ++ (l.third.text ++ r.message))))
  have hsecond := afterColon?_text l.second (isBlank_of_mem_head?_figure l.number
    (l.third.text ++ r.message))
  have hthird := afterColon?_text l.third r.isBlank_head?
  rw [located?]
  simp only [Layout.core, hword, hfirst, hsecond, hthird, digits?_figure, hmessage,
    l.natOfDigits_number, r.trim_eq, Option.bind_eq_bind, Option.bind_some, Bool.false_eq_true,
    if_false]

/-- No letter case of a severity makes a blank of one of its letters. -/
theorem isBlank_of_mem_word {s : Severity} {word : List Char}
    (hword : word.map Char.toUpper = s.capitals) : ∀ c ∈ word, isBlank c = false := by
  intro c hc
  have hupper : c.toUpper ∈ s.capitals := hword ▸ List.mem_map_of_mem hc
  delta Char.toUpper at hupper
  split at hupper
  · next hlower =>
      have hletter : isLetter c = true := by
        simp only [isLetter, Char.le_def, Bool.or_eq_true, Bool.and_eq_true, decide_eq_true_eq]
        exact .inl hlower
      exact Shader.isBlank_of_isWordChar (by simp [isWordChar, hletter])
  · have hplain : s.capitals.all (fun d => !isBlank d) = true := by cases s <;> decide
    simpa using List.all_eq_true.mp hplain c hupper

/-- Indentation and blanks at the end of a line are trimmed off. -/
theorem trim_text {r : Report} (l : Layout r) : trim l.text = l.core := by
  have hword : l.word ≠ [] := by
    intro hnil
    apply Severity.capitals_ne_nil r.severity_ne
    rw [← l.map_toUpper_word, hnil, List.map_nil]
  have hhead : ∀ c ∈ l.core.head?, isBlank c = false := by
    intro c hc
    refine isBlank_of_mem_word l.map_toUpper_word c (List.mem_of_mem_head? ?_)
    rwa [Layout.core, List.head?_append_of_ne_nil _ hword] at hc
  have hlast : l.core.getLast? = r.message.getLast? := by
    simp only [Layout.core, ← List.append_assoc]
    exact List.getLast?_append_of_ne_nil _ r.message_ne
  refine trim_around l.indent.isBlank_eq l.trailing.isBlank_eq ?_ hhead ?_
  · exact List.append_ne_nil_of_left_ne_nil hword _
  · rw [hlast]
    exact r.isBlank_getLast?

/-! ## Pages -/

/-- A line of a log. -/
inductive Row where
  | blank (gap : Gap)
  | report (r : Report) (l : Layout r)

namespace Row

def text : Row → List Char
  | blank gap => gap.chars
  | report _ l => l.text

def report? : Row → Option Report
  | blank _ => none
  | report r _ => some r

end Row

/-- What ends a line. -/
inductive LineBreak where
  | crlf
  | cr
  | lf

def LineBreak.text : LineBreak → List Char
  | crlf => ['\r', '\n']
  | cr => ['\r']
  | lf => ['\n']

/-- A log of lines that are ended in one way or another, and a last line that is not ended. -/
structure Page where
  rows : List (Row × LineBreak)
  last : Row

namespace Page

def text (p : Page) : List Char := p.rows.flatMap (fun x => x.1.text ++ x.2.text) ++ p.last.text

/-- What is reported, line by line. -/
def reports (p : Page) : List Report := (p.rows.map (·.1) ++ [p.last]).filterMap Row.report?

end Page

/-! ## The lines of a log -/

/-- Of some lines those that are not blank, trimmed. -/
def sift (ls : List (List Char)) : List (List Char) :=
  (ls.map trim).filter fun l => !l.isEmpty

/-- The lines of a log that are not blank, trimmed. -/
def contents (log : List Char) : List (List Char) := sift (lines log)

theorem ofLog_eq (log : String) : ofLog log = (contents log.toList).map ofLine := rfl

theorem sift_append (ls ms : List (List Char)) : sift (ls ++ ms) = sift ls ++ sift ms := by
  simp [sift]

theorem sift_eq (ls : List (List Char)) :
    sift ls = (ls.filter fun l => l.any fun c => !isBlank c).map trim := by
  rw [sift, List.filter_map]
  congr 1
  refine List.filter_congr fun l _ => ?_
  rw [Bool.eq_iff_iff, Function.comp_apply, Bool.not_eq_true', List.isEmpty_eq_false_iff, Ne,
    trim_eq_nil_iff]
  simp

/-- A line break ends the line before it. A carriage return may take a line feed with it that ends
a line of its own otherwise, but that line is blank. -/
theorem exists_lines_break (b : LineBreak) (cs : List Char) :
    ∃ ls, lines (b.text ++ cs) = [] :: ls ∧ sift ls = contents cs := by
  cases b with
  | crlf => exact ⟨lines cs, by simp [LineBreak.text, lines], rfl⟩
  | lf => exact ⟨lines cs, by simp [LineBreak.text, lines], rfl⟩
  | cr =>
      by_cases hfeed : ∃ ds, cs = '\n' :: ds
      · obtain ⟨ds, rfl⟩ := hfeed
        have hblank : contents ('\n' :: ds) = contents ds := by
          rw [contents, show lines ('\n' :: ds) = [[]] ++ lines ds by simp [lines], sift_append]
          rfl
        exact ⟨lines ds, by simp [LineBreak.text, lines], hblank.symm⟩
      · rw [not_exists] at hfeed
        refine ⟨lines cs, ?_, rfl⟩
        rw [LineBreak.text, List.singleton_append, lines]
        exact hfeed

/-- The contents of a text whose first line ends where it says. -/
theorem contents_append {l : List Char} (hl : IsUnbroken l) (b : LineBreak) (cs : List Char) :
    contents (l ++ (b.text ++ cs)) = sift [l] ++ contents cs := by
  obtain ⟨ls, hlines, hcontents⟩ := exists_lines_break b cs
  have hend : l.getLast? ≠ some '\r' := fun h => (hl '\r' (List.mem_of_getLast? h)).1 rfl
  have hfirst : lines l = [] ++ [l] := lines_of_isUnbroken hl
  rw [contents, lines_append hend hfirst hlines, List.append_nil, List.nil_append, ← hcontents]
  exact sift_append [l] ls

/-! ## Reading pages -/

theorem isUnbroken_of_isBlank {cs : List Char} (h : ∀ c ∈ cs, isBlank c = false) :
    IsUnbroken cs := by
  intro c hc
  constructor
  · rintro rfl
    cases h '\r' hc
  · rintro rfl
    cases h '\n' hc

theorem Figure.isUnbroken (f : Figure) : IsUnbroken f.digits :=
  isUnbroken_of_isBlank fun c hc =>
    Shader.isBlank_of_isWordChar (by simp [isWordChar, f.isDigit_eq c hc])

theorem Colon.isUnbroken (k : Colon) : IsUnbroken k.text := by
  simp [Colon.text, k.before.isUnbroken, k.after.isUnbroken]

theorem Report.isUnbroken (r : Report) : IsUnbroken r.message := by
  intro c hc
  constructor
  · rintro rfl
    cases r.isLineEnd_eq '\r' hc
  · rintro rfl
    cases r.isLineEnd_eq '\n' hc

/-- A row stays within its line. -/
theorem Row.isUnbroken (row : Row) : IsUnbroken row.text := by
  cases row with
  | blank gap => exact gap.isUnbroken
  | report r l =>
      have hword : IsUnbroken l.word :=
        isUnbroken_of_isBlank (isBlank_of_mem_word l.map_toUpper_word)
      simp [Row.text, Layout.text, Layout.core, l.indent.isUnbroken, l.trailing.isUnbroken, hword,
        Colon.isUnbroken, Figure.isUnbroken, r.isUnbroken]

/-- What an entry says: severity, line and message. -/
def finding (e : LogEntry) : Severity × Option Nat × String := (e.severity, e.line, e.message)

/-- What a report says. -/
def Report.finding (r : Report) : Severity × Option Nat × String :=
  (r.severity, some r.line, String.ofList r.message)

/-- A row holds what its report says, if it has one. -/
theorem finding_row (row : Row) :
    (sift [row.text]).map (fun l => finding (ofLine l)) =
      row.report?.toList.map Report.finding := by
  cases row with
  | blank gap =>
      have htrim : trim gap.chars = [] := trim_eq_nil_iff.mpr gap.isBlank_eq
      simp [sift, Row.text, Row.report?, htrim]
  | report r l =>
      have hcore : l.core ≠ [] := by
        simp [Layout.core, r.message_ne]
      have hsift : sift [l.text] = [l.core] := by
        simp [sift, trim_text, hcore]
      simp [Row.text, Row.report?, hsift, ofLine, located?_core, finding, Report.finding]

/-- A page says what its reports say, in order. -/
theorem finding_text (p : Page) :
    (contents p.text).map (fun l => finding (ofLine l)) = p.reports.map Report.finding := by
  obtain ⟨rows, last⟩ := p
  induction rows with
  | nil =>
      have hlast : contents last.text = sift [last.text] := by
        rw [contents, lines_of_isUnbroken last.isUnbroken]
      simp only [Page.text, Page.reports, List.flatMap_nil, List.nil_append, List.map_nil, hlast]
      rw [finding_row]
      cases hreport : last.report? <;> simp [hreport]
  | cons row rows ih =>
      have htext : Page.text ⟨row :: rows, last⟩ =
          row.1.text ++ (row.2.text ++ Page.text ⟨rows, last⟩) := by
        simp [Page.text]
      rw [htext, contents_append row.1.isUnbroken, List.map_append, finding_row, ih]
      cases hreport : row.1.report? <;> simp [Page.reports, hreport]

/-! ## All logs -/

/-- An entry keeps its line as it is, whatever is made of it. -/
theorem rawLine_ofLine (l : List Char) : (ofLine l).rawLine = String.ofList l := by
  cases hlocated : located? l with
  | none => simp [ofLine, hlocated]
  | some e =>
      have hraw : e.rawLine = String.ofList l := by
        simp only [located?, Option.bind_eq_bind, Option.bind_eq_some_iff] at hlocated
        obtain ⟨_, -, _, -, _, -, _, -, _, -, _, -, he⟩ := hlocated
        split at he
        · cases he
        · cases he
          rfl
      simp [ofLine, hlocated, hraw]

/-- The characters of a text are those of its lines, and line breaks. -/
theorem forall_lines_iff {P : Char → Prop} (hr : P '\r') (hn : P '\n') (cs : List Char) :
    (∀ l ∈ lines cs, ∀ c ∈ l, P c) ↔ ∀ c ∈ cs, P c := by
  fun_induction lines cs with
  | case1 => simp
  | case2 cs ih => simp [ih, hr, hn]
  | case3 cs _ ih => simp [ih, hr]
  | case4 cs ih => simp [ih, hn]
  | case5 c cs _ _ _ hlines => exact absurd hlines (lines_ne_nil cs)
  | case6 c cs _ _ _ l ls hlines ih =>
      rw [hlines] at ih
      simp only [List.forall_mem_cons] at ih ⊢
      rw [← ih, and_assoc]

/-- A log has no entries if and only if it is blank. -/
theorem ofLog_eq_nil_iff (log : String) :
    ofLog log = [] ↔ ∀ c ∈ log.toList, isBlank c = true := by
  rw [ofLog_eq, List.map_eq_nil_iff, contents, sift_eq, List.map_eq_nil_iff,
    List.filter_eq_nil_iff, ← forall_lines_iff (by decide) (by decide)]
  simp

/-- A report on messages is empty if and only if there are none, since each comes with a colon. -/
theorem format_eq_empty_iff (path : String) (ds : List Diagnostic) :
    Diagnostic.format path ds = "" ↔ ds = [] := by
  cases ds with
  | nil => simp [Diagnostic.format, joinLines]
  | cons d ds =>
      have hcolon : ':' ∈ (Diagnostic.format path (d :: ds)).toList := by
        have hmark : ':' ∈ (toString ": ").toList := by decide
        rw [Diagnostic.format, joinLines, String.toList_intercalate]
        cases ds with
        | nil => simp [hmark]
        | cons e ds => simp [List.intercalate_cons_cons, hmark]
      constructor
      · intro hempty
        simp [hempty] at hcolon
      · intro hnil
        cases hnil

/-- Logs are read back. Of reports, laid out in whatever way, severity, line and message come back
in order. Any log has one entry for each line that is not blank, in order, which keeps that line
trimmed; so a formatted log is empty only if the log is blank. -/
theorem log_reads_back :
    (∀ p : Page, (ofLog (String.ofList p.text)).map finding = p.reports.map Report.finding) ∧
      ∀ log : String,
        (ofLog log).map (·.rawLine) =
            ((lines log.toList).filter fun l => l.any fun c => !isBlank c).map
              (fun l => String.ofList (trim l)) ∧
          ∀ path lineMap, Diagnostic.format path (Diagnostic.ofLog log lineMap) = "" ↔
            ∀ c ∈ log.toList, isBlank c = true := by
  constructor
  · intro p
    rw [ofLog_eq, String.toList_ofList, List.map_map]
    exact finding_text p
  · intro log
    constructor
    · rw [ofLog_eq, contents, sift_eq]
      simp [Function.comp_def, rawLine_ofLine]
    · intro path lineMap
      have htrace : Diagnostic.ofLog log lineMap = [] ↔ ofLog log = [] := List.map_eq_nil_iff
      rw [format_eq_empty_iff, htrace, ofLog_eq_nil_iff]

/-- A warning whose message looks like the start of an error. -/
def nestedWarning : Report where
  severity := .warning
  severity_ne := by decide
  line := 7
  line_lt := by decide
  message := "ERROR: 0:3: x".toList
  message_ne := by decide
  isLineEnd_eq := by simp [isLineEnd]
  trim_eq := by decide

/-- An error with a short message. -/
def plainError : Report where
  severity := .error
  severity_ne := by decide
  line := 3
  line_lt := by decide
  message := ['y']
  message_ne := by decide
  isLineEnd_eq := by simp [isLineEnd]
  trim_eq := by decide

/-- A log of a blank line, a warning that is laid out loosely, and an error without any blanks,
each line ended in another way. -/
def mixedPage : Page :=
  let bare : Gap := ⟨[], isBlank_of_mem_nil, isUnbroken_nil⟩
  let space : Gap := ⟨[' '], List.all_eq_true.mp rfl, by simp [IsUnbroken]⟩
  let tab : Gap := ⟨['\t'], List.all_eq_true.mp rfl, by simp [IsUnbroken]⟩
  let loose : Layout nestedWarning :=
    { indent := tab, word := "warning".toList, map_toUpper_word := by decide
      first := ⟨space, bare⟩, source := ⟨['1'], by decide, List.all_eq_true.mp rfl⟩
      second := ⟨bare, space⟩, number := ⟨['0', '0', '7'], by decide, List.all_eq_true.mp rfl⟩
      natOfDigits_number := by decide
      third := ⟨tab, bare⟩, trailing := space }
  let tight : Layout plainError :=
    { indent := bare, word := "ERROR".toList, map_toUpper_word := by decide
      first := ⟨bare, bare⟩, source := ⟨['0'], by decide, List.all_eq_true.mp rfl⟩
      second := ⟨bare, bare⟩, number := ⟨['3'], by decide, List.all_eq_true.mp rfl⟩
      natOfDigits_number := by decide
      third := ⟨bare, bare⟩, trailing := bare }
  ⟨[(.blank bare, .crlf), (.report nestedWarning loose, .cr)], .report plainError tight⟩

/-- The log is read back, and its entries keep their lines. -/
theorem log_reads_back_mixedPage :
    (ofLog "\r\n\twarning :1: 007\t:ERROR: 0:3: x \rERROR:0:3:y").map finding =
        [(.warning, some 7, "ERROR: 0:3: x"), (.error, some 3, "y")] ∧
      (ofLog "\r\n\twarning :1: 007\t:ERROR: 0:3: x \rERROR:0:3:y").map (·.rawLine) =
        ["warning :1: 007\t:ERROR: 0:3: x", "ERROR:0:3:y"] := by
  have htext : mixedPage.text =
      "\r\n\twarning :1: 007\t:ERROR: 0:3: x \rERROR:0:3:y".toList := by decide
  have hpage := log_reads_back.1 mixedPage
  rw [htext, String.ofList_toList] at hpage
  refine ⟨hpage, (log_reads_back.2 _).1.trans ?_⟩
  decide

/-- A message that looks like a line of its own, after a blank line. -/
example : (ofLog "\r\n\twarning :1: 007\t:ERROR: 0:3: x \rdone").map finding =
    [(.warning, some 7, "ERROR: 0:3: x"), (.info, none, "done")] := by
  decide

end LogEntry

end LiveVisuals
