import Mathlib.Data.Bool.AllAny
import SemanticLayer.Proofs.Scanning
import SemanticLayer.Proofs.Truncation
import SemanticLayer.Proofs.View

/-!
# Views can be read back

The text of a view is put together from expressions, names and separators. `readColumns?` takes it
apart again with nothing but a scanner for quotes and brackets: it cuts the text at the first outer
FROM, what stands before it at the outer commas, and each column at its last outer AS, after which
stands a name in quotes.

* Names can have any characters, since nothing of a name in quotes is outer
  (`Scannable.hidden_name`), and a name is read up to the first quote that is not doubled.
* Expressions have to be self-contained. Then a column is (`Scannable.selfContained_column`), so
  that its only cuts are those that the view has put there.
* What a dialect writes for a granularity is an expression over the operand. By induction over such
  expressions it is self-contained if the operand is (`selfContained_textOver`).

So the columns that are read are those of the elements, in their order (`view_reads_back`).
-/

namespace SemanticLayer

open Sql (Grammar)
open Sql.Scan

/-! ## Names in quotes -/

/-- The text up to the first quote that is not doubled, and what follows the quote. -/
def Text.upToQuote? (q : Char) : List Char → Option (List Char × List Char)
  | [] => none
  | [c] => if c = q then some ([], []) else none
  | c :: d :: cs =>
    if c = q then
      if d = q then (upToQuote? q cs).map fun r => (q :: r.1, r.2) else some ([], d :: cs)
    else (upToQuote? q (d :: cs)).map fun r => (c :: r.1, r.2)

/-- The name in quotes at the beginning of a text, and what follows it. -/
def Dialect.quotedName? (d : Dialect) (cs : List Char) : Option (String × List Char) :=
  match d.quote, cs with
  | some q, c :: cs =>
    if c = q then (Text.upToQuote? q cs).map fun r => (String.ofList r.1, r.2) else none
  | _, _ => none

theorem Text.upToQuote?_of_ne {q c : Char} {cs : List Char} (h : c ≠ q) :
    upToQuote? q (c :: cs) = (upToQuote? q cs).map fun r => (c :: r.1, r.2) := by
  cases cs with
  | nil => simp [upToQuote?, h]
  | cons d cs => rw [upToQuote?, if_neg h]

/-- A text with its quotes doubled is read up to the quote after it. -/
theorem Text.upToQuote?_doubled {q : Char} {k : List Char} (hk : k.head? ≠ some q)
    (s : List Char) :
    upToQuote? q ((s.flatMap fun c => if c == q then [c, c] else [c]) ++ q :: k) =
      some (s, k) := by
  induction s with
  | nil =>
    cases k with
    | nil => simp [upToQuote?]
    | cons d k =>
      have hd : d ≠ q := by simpa using hk
      simp [upToQuote?, hd]
  | cons c s ih =>
    rw [List.flatMap_cons, List.append_assoc]
    by_cases hc : c = q
    · rw [if_pos (by simpa using hc), hc, List.cons_append, List.singleton_append, upToQuote?,
        if_pos rfl, if_pos rfl, ih, Option.map_some]
    · rw [if_neg (by simpa using hc), List.singleton_append, upToQuote?_of_ne hc, ih,
        Option.map_some]

theorem Dialect.quotedName?_quoteName {d : Dialect} {q : Char} {k : List Char}
    (hq : d.quote = some q) (hk : k.head? ≠ some q) (name : String) :
    d.quotedName? ((d.quoteName name).toList ++ k) = some (name, k) := by
  have hbody := Text.upToQuote?_doubled hk name.toList
  simp only [Dialect.quoteName, Dialect.quotedName?, hq, toList_quoted, List.cons_append,
    List.append_assoc, List.nil_append, if_pos, hbody, Option.map_some, String.ofList_toList]

namespace View

/-! ## Reading -/

/-- A text without the blank in front of it. -/
def afterBlank? : List Char → Option (List Char)
  | [] => none
  | c :: cs => if c = ' ' then some cs else none

/-- A text without the blank in front of it and the blank after it. -/
def unpadded? (cs : List Char) : Option (List Char) :=
  (afterBlank? cs).bind fun cs => (afterBlank? cs.reverse).map List.reverse

/-- The expression and the name of a column. -/
def readColumn? (d : Dialect) (ms : List Mark) : Option (String × String) := do
  let (expr, name) ← (wordCuts ['A', 'S'] false ms).getLast?
  let expr ← unpadded? (expr.map Mark.char)
  let (name, rest) ← (afterBlank? (name.map Mark.char)).bind d.quotedName?
  if rest.all (· == ' ') then some (String.ofList expr, name) else none

/-- The columns of a view, by its text. -/
def readColumns? (d : Dialect) (text : String) : Option (List (String × String)) := do
  let rest ← text.toList.dropPrefix? "SELECT".toList
  let (columns, _) ← (wordCuts ['F', 'R', 'O', 'M'] false (scan d.grammar (.outside 0) rest)).head?
  (columns.splitOnP Mark.isComma).mapM (readColumn? d)

/-! ## Columns -/

/-- What the scanner needs of a dialect. -/
structure Scannable (d : Dialect) (q : Char) : Prop where
  legible : Legible d.grammar
  quote : d.quote = some q
  isQuote : d.grammar.isQuote q = true
  noEscape : d.grammar.escapesIn q = false
  /-- The templates for granularities keep expressions together. -/
  cut : ∀ expr gran, SelfContained d.grammar expr.toList →
    SelfContained d.grammar (d.cut expr gran).toList

variable {d : Dialect} {q : Char} {c : String × String} {cols : List (String × String)}

def blank : Mark := ⟨' ', true⟩

def comma : Mark := ⟨',', true⟩

/-- A column with the blank in front of it. -/
def columnMarks (d : Dialect) (c : String × String) : List Mark :=
  scan d.grammar (.outside 0) (' ' :: (columnText d c).toList)

theorem Scannable.quote_ne_blank (h : Scannable d q) : q ≠ ' ' := by
  rintro rfl
  have hblank := h.isQuote
  rw [h.legible.isQuote_eq_false (by decide)] at hblank
  cases hblank

theorem Scannable.hidden_name (h : Scannable d q) (name : String) :
    Hidden d.grammar (.outside 0) (d.quoteName name).toList := by
  have hname : d.quoteName name = Text.quoted q name := by rw [Dialect.quoteName, h.quote]
  rw [hname]
  exact hidden_quoted h.isQuote fun _ => h.noEscape

theorem padded_columnText : ' ' :: (columnText d c).toList =
    ' ' :: (c.1.toList ++ ' ' :: (['A', 'S', ' '] ++ (d.quoteName c.2).toList)) := by
  have has : "AS".toList = ['A', 'S'] := by decide
  rw [toList_columnText, has]
  rfl

/-- A column of a self-contained expression is self-contained, whatever its name is. -/
theorem Scannable.selfContained_column (h : Scannable d q)
    (hc : SelfContained d.grammar c.1.toList) :
    SelfContained d.grammar (' ' :: (columnText d c).toList) := by
  have has : SelfContained d.grammar ['A', 'S', ' '] := .of_plain h.legible (by decide)
  rw [padded_columnText]
  exact (hc.blank h.legible (has.append_hidden (h.hidden_name c.2))).blank_cons h.legible

theorem Scannable.columnMarks_eq (h : Scannable d q) (hc : SelfContained d.grammar c.1.toList) :
    columnMarks d c = (blank :: scan d.grammar (.outside 0) c.1.toList) ++
      blank :: ⟨'A', true⟩ :: ⟨'S', true⟩ :: blank :: hidden (d.quoteName c.2).toList := by
  have has : ['A', 'S', ' '].all isPlain = true := by decide
  have hclosed : Closed d.grammar ['A', 'S', ' '] := h.legible.after_plain has
  rw [columnMarks, padded_columnText, h.legible.scan_blank, hc.closed.scan_append,
    h.legible.scan_blank, hclosed.scan_append, h.legible.scan_plain has, (h.hidden_name c.2).scan]
  rfl

/-- Before a text without words, AS is cut off. -/
theorem wordCuts_as {ms : List Mark} (h : ∀ m ∈ ms, m.isWord = false) :
    wordCuts ['A', 'S'] false (⟨'A', true⟩ :: ⟨'S', true⟩ :: ms) = [([], ms)] := by
  have hcuts (inside : Bool) : wordCuts ['A', 'S'] inside ms = [] := wordCuts_of_not_isWord h
  have hends : ms.head?.any Mark.isWord = false := by
    cases ms with
    | nil => rfl
    | cons m ms => exact h m List.mem_cons_self
  have hfirst : Mark.isWord ⟨'A', true⟩ = true := by decide
  have hsecond : Mark.isWord ⟨'S', true⟩ = true := by decide
  simp [wordCuts, afterWord?, hcuts, hends, hfirst, hsecond]

/-- The last AS of a column stands between its expression and its name. -/
theorem Scannable.lastCut_columnMarks (h : Scannable d q)
    (hc : SelfContained d.grammar c.1.toList) {rest : List Mark} (hrest : ∀ m ∈ rest, m = blank) :
    (wordCuts ['A', 'S'] false (columnMarks d c ++ rest)).getLast? =
      some (blank :: (scan d.grammar (.outside 0) c.1.toList ++ [blank]),
        blank :: (hidden (d.quoteName c.2).toList ++ rest)) := by
  have hname : ∀ m ∈ blank :: (hidden (d.quoteName c.2).toList ++ rest), m.isWord = false := by
    intro m hm
    rw [List.mem_cons, List.mem_append] at hm
    rcases hm with rfl | hm | hm
    · rfl
    · exact not_isWord_of_mem_hidden hm
    · rw [hrest m hm]
      rfl
  have hsplit : columnMarks d c ++ rest = (blank :: scan d.grammar (.outside 0) c.1.toList) ++
      blank :: ⟨'A', true⟩ :: ⟨'S', true⟩ ::
        blank :: (hidden (d.quoteName c.2).toList ++ rest) := by
    rw [h.columnMarks_eq hc]
    simp
  rw [hsplit, wordCuts_append rfl, wordCuts_as hname]
  simp

theorem unpadded?_padded (cs : List Char) : unpadded? (' ' :: (cs ++ [' '])) = some cs := by
  simp [unpadded?, afterBlank?]

/-- A column is read as its expression and its name, also with blanks after it. -/
theorem Scannable.readColumn?_columnMarks (h : Scannable d q)
    (hc : SelfContained d.grammar c.1.toList) (rest : List Mark) (hrest : ∀ m ∈ rest, m = blank) :
    readColumn? d (columnMarks d c ++ rest) = some c := by
  have hblank : ∀ c ∈ rest.map Mark.char, c = ' ' := by
    intro c hc
    obtain ⟨m, hm, rfl⟩ := List.mem_map.1 hc
    rw [hrest m hm]
    rfl
  have hhead : (rest.map Mark.char).head? ≠ some q := fun hq =>
    h.quote_ne_blank (hblank q (List.mem_of_mem_head? hq))
  have hquoted := d.quotedName?_quoteName h.quote hhead c.2
  have hall : (rest.map Mark.char).all (· == ' ') = true := by simpa using hblank
  rw [readColumn?, h.lastCut_columnMarks hc hrest]
  simp only [Option.bind_eq_bind, Option.bind_some, List.map_cons, List.map_append, map_char_scan,
    map_char_hidden, List.map_nil, blank, unpadded?_padded, afterBlank?, if_true, hquoted, hall,
    String.ofList_toList]

/-! ## Lists of columns -/

/-- The columns after the first. -/
def furtherMarks (d : Dialect) (cols : List (String × String)) : List Mark :=
  cols.flatMap fun c => comma :: columnMarks d c

theorem furtherMarks_cons_append (ms : List Mark) : furtherMarks d (c :: cols) ++ ms =
    comma :: (columnMarks d c ++ (furtherMarks d cols ++ ms)) := by
  simp [furtherMarks]

theorem Scannable.scan_comma (h : Scannable d q) (k : List Char) :
    scan d.grammar (.outside 0) (',' :: k) = comma :: scan d.grammar (.outside 0) k := by
  simp [scan, comma, h.legible.step_plain (c := ',') (by decide)]

theorem Scannable.scan_furtherText (h : Scannable d q)
    (hcols : ∀ c ∈ cols, SelfContained d.grammar c.1.toList) (k : List Char) :
    scan d.grammar (.outside 0) (furtherText d cols ++ k) =
      furtherMarks d cols ++ scan d.grammar (.outside 0) k := by
  induction cols with
  | nil => rfl
  | cons c cols ih =>
    have hc := h.selfContained_column (hcols c List.mem_cons_self)
    have hcons : furtherText d (c :: cols) ++ k =
        ',' :: (' ' :: (columnText d c).toList ++ (furtherText d cols ++ k)) := by
      simp [furtherText]
    rw [hcons, h.scan_comma, hc.closed.scan_append,
      ih fun c hc => hcols c (List.mem_cons_of_mem _ hc), furtherMarks_cons_append]
    rfl

theorem Scannable.noComma_columnMarks (h : Scannable d q)
    (hc : SelfContained d.grammar c.1.toList) : ∀ m ∈ columnMarks d c, m.isComma = false :=
  (h.selfContained_column hc).noComma

theorem Scannable.noFrom_columnMarks (h : Scannable d q)
    (hc : SelfContained d.grammar c.1.toList) :
    wordCuts ['F', 'R', 'O', 'M'] false (columnMarks d c) = [] :=
  (h.selfContained_column hc).noFrom

/-- The text is cut at a FROM after the columns only. -/
theorem Scannable.wordCuts_columns (h : Scannable d q) (hc : SelfContained d.grammar c.1.toList)
    (hcols : ∀ c ∈ cols, SelfContained d.grammar c.1.toList) (ms : List Mark) :
    wordCuts ['F', 'R', 'O', 'M'] false (columnMarks d c ++ (furtherMarks d cols ++ blank :: ms)) =
      (wordCuts ['F', 'R', 'O', 'M'] false ms).map fun r =>
        (columnMarks d c ++ (furtherMarks d cols ++ blank :: r.1), r.2) := by
  induction cols generalizing c with
  | nil =>
    change wordCuts _ false (columnMarks d c ++ blank :: ms) = _
    rw [wordCuts_append rfl, h.noFrom_columnMarks hc]
    rfl
  | cons c' cols ih =>
    have ih := ih (hcols c' List.mem_cons_self) fun c hc => hcols c (List.mem_cons_of_mem _ hc)
    rw [furtherMarks_cons_append, wordCuts_append rfl, h.noFrom_columnMarks hc, ih]
    simp [furtherMarks_cons_append, Function.comp_def]

/-- Cut at their commas, the columns are read one by one. -/
theorem Scannable.mapM_readColumn? (h : Scannable d q) (hc : SelfContained d.grammar c.1.toList)
    (hcols : ∀ c ∈ cols, SelfContained d.grammar c.1.toList) :
    ((columnMarks d c ++ (furtherMarks d cols ++ [blank])).splitOnP Mark.isComma).mapM
      (readColumn? d) = some (c :: cols) := by
  induction cols generalizing c with
  | nil =>
    have hnone : ∀ m ∈ columnMarks d c ++ [blank], m.isComma = false := by
      intro m hm
      rcases List.mem_append.1 hm with hm | hm
      · exact h.noComma_columnMarks hc m hm
      · rw [List.mem_singleton.1 hm]
        rfl
    change (List.splitOnP _ (columnMarks d c ++ [blank])).mapM _ = _
    rw [List.splitOnP_eq_singleton hnone]
    simp [h.readColumn?_columnMarks hc [blank] (by simp)]
  | cons c' cols ih =>
    have ih := ih (hcols c' List.mem_cons_self) fun c hc => hcols c (List.mem_cons_of_mem _ hc)
    have hread := h.readColumn?_columnMarks hc [] (by simp)
    rw [List.append_nil] at hread
    rw [furtherMarks_cons_append,
      List.splitOnP_append_cons_of_forall_mem (h.noComma_columnMarks hc) comma rfl,
      List.mapM_cons, hread, ih]
    rfl

/-! ## Whole views -/

/-- FROM before a blank is cut off. -/
theorem head?_wordCuts_from (ms : List Mark) :
    (wordCuts ['F', 'R', 'O', 'M'] false
      (['F', 'R', 'O', 'M'].map (⟨·, true⟩) ++ blank :: ms)).head? = some ([], blank :: ms) := by
  have hletters : ['F', 'R', 'O', 'M'].all (fun c => Mark.isWord ⟨c, true⟩) = true := by decide
  have hblank : blank.isWord = false := rfl
  simp only [List.all_cons, Bool.and_eq_true] at hletters
  simp [wordCuts, afterWord?, hletters, hblank]

/-- The columns of a view are read back from its text. -/
theorem Scannable.readColumns?_selectText (h : Scannable d q) (inner : String)
    (hcols : ∀ c ∈ cols, SelfContained d.grammar c.1.toList) (hne : cols ≠ []) :
    readColumns? d (selectText d cols inner) = some cols := by
  cases cols with
  | nil => exact absurd rfl hne
  | cons c cols =>
    have hc := hcols c List.mem_cons_self
    have hcols : ∀ c ∈ cols, SelfContained d.grammar c.1.toList :=
      fun c hc => hcols c (List.mem_cons_of_mem _ hc)
    -- After SELECT stand the columns and, after a blank, FROM.
    have hscan : scan d.grammar (.outside 0) (' ' :: ((columnText d c).toList ++
        (furtherText d cols ++ ' ' :: sourceText d inner))) =
          columnMarks d c ++ (furtherMarks d cols ++
            blank :: scan d.grammar (.outside 0) (sourceText d inner)) := by
      rw [← List.cons_append, (h.selfContained_column hc).closed.scan_append, ← columnMarks,
        h.scan_furtherText hcols, h.legible.scan_blank]
      rfl
    obtain ⟨ms, hms⟩ : ∃ ms, (wordCuts ['F', 'R', 'O', 'M'] false
        (scan d.grammar (.outside 0) (sourceText d inner))).head? = some ([], ms) := by
      have hfrom : "FROM".toList = ['F', 'R', 'O', 'M'] := by decide
      have hplain : ['F', 'R', 'O', 'M'].all isPlain = true := by decide
      have hclosed : Closed d.grammar ['F', 'R', 'O', 'M'] := h.legible.after_plain hplain
      rw [sourceText, hfrom, hclosed.scan_append, h.legible.scan_plain hplain, h.legible.scan_blank]
      exact ⟨_, head?_wordCuts_from _⟩
    rw [readColumns?, toList_selectText, List.dropPrefix?_append_of_beq _ (beq_self_eq_true _)]
    simp only [Option.bind_eq_bind, Option.bind_some, hscan, h.wordCuts_columns hc hcols,
      List.head?_map, hms, Option.map_some]
    exact h.mapM_readColumn? hc hcols

end View

/-! ## Granularities -/

namespace Calendar.TimeTerm

mutual

/-- The texts that stand in quotes in an expression. -/
def texts : TimeTerm → List String
  | literal s => [s]
  | dateTrunc unit => [unit]
  | trunc unit => [unit]
  | dateFormat format => [format]
  | whole a => a.texts
  | concat a b => a.texts ++ b.texts
  | sum a b => a.texts ++ b.texts
  | quotient a b => a.texts ++ b.texts
  | daysBefore days => days.texts
  | choose subject arms => subject.texts ++ textsOfArms arms
  | _ => []

/-- The texts in the arms of a choice. -/
def textsOfArms : List (Nat × TimeTerm) → List String
  | [] => []
  | (_, a) :: arms => a.texts ++ textsOfArms arms

end

/-- A text in which nothing is escaped if it is put in apostrophes. -/
def Unescaped (s : String) : Prop := '\x27' ∉ s.toList ∧ '\\' ∉ s.toList

instance : DecidablePred Unescaped := fun _ => inferInstanceAs (Decidable (_ ∧ _))

variable {g : Grammar} {operand args a b f s t : String} {cs : List Char}

theorem hidden_literal (hg : Legible g) (hs : Unescaped s) :
    Hidden g (.outside 0) ("'" ++ s ++ "'").toList := by
  have htext : ("'" ++ s ++ "'").toList = (Text.quoted '\x27' s).toList := by
    rw [toList_quoted, doubled_of_not_mem hs.1]
    simp
  rw [htext]
  exact hidden_quoted hg.apostrophe fun h => absurd h hs.2

theorem toUpper_of_isDigit {c : Char} (hc : c.isDigit = true) : c.toUpper = c := by
  have hlower : ¬ (97 ≤ c.val ∧ c.val ≤ 122) := by
    grind [Char.isDigit]
  exact dif_neg hlower

theorem selfContained_number (hg : Legible g) (n : Nat) :
    SelfContained g (toString n).toList := by
  have hdigit : ∀ c ∈ (toString n).toList, c.isDigit = true := by
    intro c hc
    rw [Nat.toString_eq_repr, Nat.toList_repr] at hc
    exact Nat.isDigit_of_mem_toDigits (by decide) (by decide) hc
  have hplain : (toString n).toList.all isPlain = true := by
    refine List.all_eq_true.2 fun c hc => ?_
    have hc := hdigit c hc
    have hspecial : specials.all (fun c => !c.isDigit) = true := by decide
    rw [isPlain, Bool.not_eq_true', List.contains_eq_mem, decide_eq_false_iff_not]
    intro hmem
    simpa [hc] using List.all_eq_true.1 hspecial c hmem
  have hcomma : (toString n).toList.contains ',' = false := by
    rw [List.contains_eq_mem, decide_eq_false_iff_not]
    exact fun hmem => absurd (hdigit ',' hmem) (by decide)
  have hfrom : wordCuts ['F', 'R', 'O', 'M'] false ((toString n).toList.map (⟨·, true⟩)) = [] := by
    refine wordCuts_eq_nil fun m hm => ?_
    obtain ⟨c, hc, rfl⟩ := List.mem_map.1 hm
    have hc := hdigit c hc
    have hne : c.toUpper ≠ 'F' := by
      rw [toUpper_of_isDigit hc]
      rintro rfl
      cases hc
    simp [hne]
  exact .of_plain hg (by rw [isPlainText, hplain, hcomma, hfrom]; rfl)

theorem closed_append (hs : Closed g s.toList) (ht : Closed g t.toList) :
    Closed g (s ++ t).toList := by
  rw [String.toList_append]
  exact hs.append ht

/-- A call of a function, whose arguments need only close what they open. -/
theorem selfContained_call (hg : Legible g) (hf : SelfContained g f.toList)
    (hargs : Closed g args.toList) : SelfContained g (f ++ "(" ++ args ++ ")").toList := by
  have htext : (f ++ "(" ++ args ++ ")").toList = f.toList ++ '(' :: (args.toList ++ [')']) := by
    simp
  rw [htext]
  exact hf.call hg hargs

/-- A call with the operand and a text in quotes. -/
theorem selfContained_formatCall (hg : Legible g) (hf : SelfContained g f.toList)
    (ho : Closed g operand.toList) (hs : Unescaped s) :
    SelfContained g (f ++ "(" ++ operand ++ ", '" ++ s ++ "')").toList := by
  have htext : f ++ "(" ++ operand ++ ", '" ++ s ++ "')" =
      f ++ "(" ++ (operand ++ (", " ++ ("'" ++ s ++ "'"))) ++ ")" :=
    String.toList_injective (by simp)
  have hcomma : Closed g ", ".toList := hg.after_plain (by decide)
  rw [htext]
  exact selfContained_call hg hf
    (closed_append ho (closed_append hcomma (hidden_literal hg hs).after))

theorem selfContained_dateTrunc (hg : Legible g) (ho : Closed g operand.toList) (hs : Unescaped s) :
    SelfContained g ("DATE_TRUNC('" ++ s ++ "', " ++ operand ++ ")").toList := by
  have htext : "DATE_TRUNC('" ++ s ++ "', " ++ operand ++ ")" =
      "DATE_TRUNC" ++ "(" ++ ("'" ++ s ++ "'" ++ (", " ++ operand)) ++ ")" :=
    String.toList_injective (by simp)
  have hcomma : Closed g ", ".toList := hg.after_plain (by decide)
  rw [htext]
  exact selfContained_call hg (.of_plain hg (by decide))
    (closed_append (hidden_literal hg hs).after (closed_append hcomma ho))

/-- The FROM of the seconds stands in brackets. -/
theorem selfContained_extract (hg : Legible g) (ho : Closed g operand.toList) :
    SelfContained g ("EXTRACT(SECOND FROM " ++ operand ++ ")").toList := by
  have htext : "EXTRACT(SECOND FROM " ++ operand ++ ")" =
      "EXTRACT" ++ "(" ++ ("SECOND FROM " ++ operand) ++ ")" :=
    String.toList_injective (by simp)
  have hfrom : Closed g "SECOND FROM ".toList := hg.after_plain (by decide)
  rw [htext]
  exact selfContained_call hg (.of_plain hg (by decide)) (closed_append hfrom ho)

theorem selfContained_concat (hg : Legible g) (ha : Closed g a.toList) (hb : Closed g b.toList) :
    SelfContained g ("CONCAT(" ++ a ++ ", " ++ b ++ ")").toList := by
  have htext : "CONCAT(" ++ a ++ ", " ++ b ++ ")" =
      "CONCAT" ++ "(" ++ (a ++ (", " ++ b)) ++ ")" :=
    String.toList_injective (by simp)
  have hcomma : Closed g ", ".toList := hg.after_plain (by decide)
  rw [htext]
  exact selfContained_call hg (.of_plain hg (by decide))
    (closed_append ha (closed_append hcomma hb))

theorem selfContained_dateSub (hg : Legible g) (ho : Closed g operand.toList)
    (ha : Closed g a.toList) :
    SelfContained g ("DATE_SUB(" ++ operand ++ ", INTERVAL " ++ a ++ " DAY)").toList := by
  have htext : "DATE_SUB(" ++ operand ++ ", INTERVAL " ++ a ++ " DAY)" =
      "DATE_SUB" ++ "(" ++ (operand ++ (", INTERVAL " ++ (a ++ " DAY"))) ++ ")" :=
    String.toList_injective (by simp)
  have hinterval : Closed g ", INTERVAL ".toList := hg.after_plain (by decide)
  have hday : Closed g " DAY".toList := hg.after_plain (by decide)
  rw [htext]
  exact selfContained_call hg (.of_plain hg (by decide))
    (closed_append ho (closed_append hinterval (closed_append ha hday)))

/-- Texts with a word or a mark between them. -/
theorem selfContained_between (hg : Legible g) (ha : SelfContained g a.toList)
    (hb : SelfContained g b.toList) (hf : SelfContained g f.toList) :
    SelfContained g (a ++ (" " ++ f ++ " ") ++ b).toList := by
  have htext : (a ++ (" " ++ f ++ " ") ++ b).toList =
      a.toList ++ ' ' :: (f.toList ++ ' ' :: b.toList) := by
    simp
  rw [htext]
  exact ha.blank hg (hf.blank hg hb)

/-- A choice, by its subject and its arms. -/
theorem selfContained_case (hg : Legible g) (ha : SelfContained g a.toList)
    (harms : SelfContained g (s ++ "END").toList) :
    SelfContained g ("CASE " ++ a ++ " " ++ s ++ "END").toList := by
  have htext : ("CASE " ++ a ++ " " ++ s ++ "END").toList =
      "CASE".toList ++ ' ' :: (a.toList ++ ' ' :: (s ++ "END").toList) := by
    simp
  have hcase : SelfContained g "CASE".toList := .of_plain hg (by decide)
  rw [htext]
  exact hcase.blank hg (ha.blank hg harms)

/-- An arm of a choice before the others. -/
theorem selfContained_arm (hg : Legible g) (n : Nat) (ha : SelfContained g a.toList)
    (hrest : SelfContained g (s ++ t).toList) :
    SelfContained g ("WHEN " ++ toString n ++ " THEN " ++ a ++ " " ++ s ++ t).toList := by
  have htext : ("WHEN " ++ toString n ++ " THEN " ++ a ++ " " ++ s ++ t).toList =
      "WHEN".toList ++ ' ' :: ((toString n).toList ++ ' ' :: ("THEN".toList ++
        ' ' :: (a.toList ++ ' ' :: (s ++ t).toList))) := by
    simp
  have hwhen : SelfContained g "WHEN".toList := .of_plain hg (by decide)
  have hthen : SelfContained g "THEN".toList := .of_plain hg (by decide)
  rw [htext]
  exact hwhen.blank hg ((selfContained_number hg n).blank hg (hthen.blank hg (ha.blank hg hrest)))

mutual

/-- An expression over a self-contained operand is self-contained. The operand stands in brackets
wherever it stands, and so does every comma. -/
theorem selfContained_textOver (hg : Legible g) (ho : SelfContained g operand.toList) :
    ∀ term : TimeTerm, (∀ s ∈ term.texts, Unescaped s) →
      SelfContained g (term.textOver operand).toList
  | literal s, h => .of_hidden (hidden_literal hg (h s List.mem_cons_self))
  | number n, _ => selfContained_number hg n
  | dateTrunc unit, h => selfContained_dateTrunc hg ho.closed (h unit List.mem_cons_self)
  | trunc unit, h =>
    selfContained_formatCall hg (f := "TRUNC") (.of_plain hg (by decide)) ho.closed
      (h unit List.mem_cons_self)
  | dateFormat format, h =>
    selfContained_formatCall hg (f := "DATE_FORMAT") (.of_plain hg (by decide))
      ho.closed (h format List.mem_cons_self)
  | yearOf, _ =>
    selfContained_call hg (f := "YEAR") (.of_plain hg (by decide)) ho.closed
  | quarterOf, _ =>
    selfContained_call hg (f := "QUARTER") (.of_plain hg (by decide)) ho.closed
  | weekdayOf, _ =>
    selfContained_call hg (f := "WEEKDAY") (.of_plain hg (by decide)) ho.closed
  | secondOf, _ => selfContained_extract hg ho.closed
  | whole a, h =>
    selfContained_call hg (f := "TRUNC") (.of_plain hg (by decide))
      (selfContained_textOver hg ho a h).closed
  | concat a b, h => by
    obtain ⟨ha, hb⟩ := List.forall_mem_append.1 h
    exact selfContained_concat hg (selfContained_textOver hg ho a ha).closed
      (selfContained_textOver hg ho b hb).closed
  | sum a b, h => by
    obtain ⟨ha, hb⟩ := List.forall_mem_append.1 h
    exact selfContained_between hg (f := "+") (selfContained_textOver hg ho a ha)
      (selfContained_textOver hg ho b hb) (.of_plain hg (by decide))
  | quotient a b, h => by
    obtain ⟨ha, hb⟩ := List.forall_mem_append.1 h
    exact selfContained_between hg (f := "/") (selfContained_textOver hg ho a ha)
      (selfContained_textOver hg ho b hb) (.of_plain hg (by decide))
  | daysBefore days, h =>
    selfContained_dateSub hg ho.closed (selfContained_textOver hg ho days h).closed
  | choose subject arms, h => by
    obtain ⟨hsubject, harms⟩ := List.forall_mem_append.1 h
    have hend : SelfContained g "END".toList := .of_plain hg (by decide)
    exact selfContained_case hg (selfContained_textOver hg ho subject hsubject)
      (selfContained_armsOver hg ho hend arms harms)

/-- The arms of a choice before a text. -/
theorem selfContained_armsOver (hg : Legible g) (ho : SelfContained g operand.toList)
    {rest : String} (hrest : SelfContained g rest.toList) :
    ∀ arms : List (Nat × TimeTerm), (∀ s ∈ textsOfArms arms, Unescaped s) →
      SelfContained g (armsOver operand arms ++ rest).toList
  | [], _ => by
    rw [armsOver, String.empty_append]
    exact hrest
  | (n, a) :: arms, h => by
    obtain ⟨ha, harms⟩ := List.forall_mem_append.1 h
    exact selfContained_arm hg n (selfContained_textOver hg ho a ha)
      (selfContained_armsOver hg ho hrest arms harms)

end

/-- No text in a cut has anything to escape. -/
theorem unescaped_of_mem_texts {d : Dialect} (hd : d ∈ Backends.standard.dialects.map Prod.snd)
    (gran : Granularity) : ∀ s ∈ (cutOf d gran).texts, Unescaped s := by
  obtain rfl | rfl | rfl | rfl := Backends.mem_standard_iff.1 hd <;> cases gran <;> decide

end Calendar.TimeTerm

namespace View

open Calendar.TimeTerm in
/-- What a dialect writes for a self-contained expression and a granularity is self-contained. -/
theorem selfContained_cut (hg : Legible d.grammar)
    (hd : d ∈ Backends.standard.dialects.map Prod.snd) (expr : String) (gran : Granularity)
    (h : SelfContained d.grammar expr.toList) :
    SelfContained d.grammar (d.cut expr gran).toList := by
  rw [← textOver_cutOf hd]
  exact selfContained_textOver hg h _ (unescaped_of_mem_texts hd gran)

/-! ## Models -/

/-- The expression of a dimension in a view. -/
def cutExpr (d : Dialect) (dim : Dimension) : String :=
  match dim.kind, dim.granularity with
  | .time, some gran => d.cut dim.sqlExpr gran
  | _, _ => dim.sqlExpr

/-- What the columns of a view stand for: the elements of the model, each with its expression. -/
def elementColumns (d : Dialect) (m : SemanticModel) : List (String × String) :=
  m.entities.map (fun e => (e.sqlExpr, e.name)) ++
    m.dimensions.map (fun dim => (cutExpr d dim, dim.name)) ++
      m.measures.map fun e => (e.sqlExpr, e.name)

/-- The expressions of the elements of a model, as they are declared. -/
def expressions (m : SemanticModel) : List String :=
  m.entities.map Entity.sqlExpr ++ m.dimensions.map Dimension.sqlExpr ++
    m.measures.map Measure.sqlExpr

variable {o : Sql.Overrides} {m : SemanticModel}

/-- A dimension that is not blank has an expression in a view. -/
theorem dimensionExpr_eq_ok {dim : Dimension} (h : (Text.strip dim.sqlExpr).isEmpty = false) :
    dimensionExpr d dim = .ok (cutExpr d dim) := by
  unfold dimensionExpr cutExpr
  cases dim.kind with
  | categorical => rfl
  | time =>
    cases dim.granularity with
    | none => rfl
    | some gran =>
      change d.truncate dim.sqlExpr gran = _
      rw [Dialect.truncate, h]
      rfl

theorem columns_eq_ok (h : ∀ expr ∈ expressions m, (Text.strip expr).isEmpty = false) :
    columns d m = .ok (elementColumns d m) := by
  have htimes : (m.dimensions.mapM fun dim => do return (← dimensionExpr d dim, dim.name)) =
      Except.ok (m.dimensions.map fun dim => (cutExpr d dim, dim.name)) := by
    rw [Outcome.mapM_eq_ok_iff, List.forall₂_map_right_iff, List.forall₂_same]
    intro dim hdim
    have hexpr : dim.sqlExpr ∈ expressions m := by
      simp only [expressions, List.mem_append, List.mem_map]
      exact .inl (.inr ⟨dim, hdim, rfl⟩)
    rw [dimensionExpr_eq_ok (h _ hexpr)]
    rfl
  exact Outcome.bind_eq_ok_iff.2 ⟨_, htimes, rfl⟩

theorem elementColumns_ne_nil (h : m.hasElements = true) : elementColumns d m ≠ [] := by
  intro hnil
  simp only [elementColumns, List.append_eq_nil_iff, List.map_eq_nil_iff] at hnil
  simp [SemanticModel.hasElements, hnil] at h

/-- The expressions of the columns are self-contained if those of the elements are. -/
theorem Scannable.selfContained_elementColumns (h : Scannable d q)
    (hexpr : ∀ expr ∈ expressions m, SelfContained d.grammar expr.toList) :
    ∀ c ∈ elementColumns d m, SelfContained d.grammar c.1.toList := by
  simp only [expressions, List.forall_mem_append, List.forall_mem_map] at hexpr
  obtain ⟨⟨hentities, hdimensions⟩, hmeasures⟩ := hexpr
  simp only [elementColumns, List.forall_mem_append, List.forall_mem_map]
  refine ⟨⟨hentities, fun dim hdim => ?_⟩, hmeasures⟩
  unfold cutExpr
  split
  · exact h.cut _ _ (hdimensions dim hdim)
  · exact hdimensions dim hdim

/-- The known dialects that quote names can be scanned. -/
theorem scannable_of_mem (hd : d ∈ [.postgresql, .mysql, .oracle]) : ∃ q, Scannable d q := by
  obtain rfl | rfl | rfl : d = .postgresql ∨ d = .mysql ∨ d = .oracle := by simpa using hd
  · have hg : Legible Grammar.postgres := ⟨List.all_iff_forall_prop.1 (by decide), by decide⟩
    have hcut := selfContained_cut hg (d := .postgresql) (by simp [Backends.standard])
    exact ⟨'\x22', hg, rfl, by decide, by decide, hcut⟩
  · have hg : Legible Grammar.mysql := ⟨List.all_iff_forall_prop.1 (by decide), by decide⟩
    have hcut := selfContained_cut hg (d := .mysql) (by simp [Backends.standard])
    exact ⟨'\x60', hg, rfl, by decide, by decide, hcut⟩
  · have hg : Legible Grammar.oracle := ⟨List.all_iff_forall_prop.1 (by decide), by decide⟩
    have hcut := selfContained_cut hg (d := .oracle) (by simp [Backends.standard])
    exact ⟨'\x22', hg, rfl, by decide, by decide, hcut⟩

/-- The text of the view of a model gives its columns back, whatever the names of its elements are,
if their expressions are not blank and self-contained. -/
theorem view_reads_back (hd : d ∈ [.postgresql, .mysql, .oracle]) (hm : m.hasElements = true)
    (hexpr : ∀ expr ∈ expressions m,
      (Text.strip expr).isEmpty = false ∧ SelfContained d.grammar expr.toList)
    {inner : String} (hinner : innerSelect d o m = .ok inner) :
    ∃ text, View.text d o m = .ok text ∧ readColumns? d text = some (elementColumns d m) := by
  obtain ⟨q, h⟩ := scannable_of_mem hd
  have hcolumns := columns_eq_ok (d := d) fun expr he => (hexpr expr he).1
  refine ⟨selectText d (elementColumns d m) inner, ?_, ?_⟩
  · rw [View.text, hinner, hcolumns]
    simp only [hm, if_true]
    rfl
  · exact h.readColumns?_selectText inner
      (h.selfContained_elementColumns fun expr he => (hexpr expr he).2) (elementColumns_ne_nil hm)

/-- A model with quotes, commas, brackets and keywords in the names and expressions of its
elements. -/
def ledger : SemanticModel where
  name := "ledger"
  select := "SELECT 1"
  entities := [{ name := "a`b, (c", kind := .primary, expr := some "f(a, 'it\\'s, (') " }]
  dimensions := [
    { name := "day\nFROM t", kind := .time, expr := some "`from`.ts",
      typeParams := some { granularity := some .quarter } }]
  measures := [{ name := "x` AS `y", expr := some "net AS n" }]

theorem view_reads_back_ledger : ledger.hasElements = true ∧
    (∀ expr ∈ expressions ledger,
      (Text.strip expr).isEmpty = false ∧ SelfContained Grammar.mysql expr.toList) ∧
    ∃ text, View.text .mysql .standard ledger = .ok text ∧
      readColumns? .mysql text =
        some [("f(a, 'it\\'s, (') ", "a`b, (c"),
          (Dialect.mysql.cut "`from`.ts" .quarter, "day\nFROM t"),
          ("net AS n", "x` AS `y")] := by
  have hm : ledger.hasElements = true := by decide
  have hexpr : ∀ expr ∈ expressions ledger,
      (Text.strip expr).isEmpty = false ∧ SelfContained Grammar.mysql expr.toList := by
    decide +kernel
  have hinner : (innerSelect .mysql .standard ledger).toOption.isSome = true := by decide +kernel
  obtain ⟨inner, hinner⟩ := Outcome.exists_eq_ok hinner
  exact ⟨hm, hexpr, view_reads_back (by simp) hm hexpr hinner⟩

end View

end SemanticLayer
