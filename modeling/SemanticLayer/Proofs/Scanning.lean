import Mathlib.Tactic.SplitIfs
import SemanticLayer.Sql.Grammar
import SemanticLayer.Text.Quoted
import SemanticLayer.Text.Word

/-!
# What stands outside quotes and brackets

A text is scanned from left to right with no more than a `Place` in hand: whether the scanner stands
in quotes, and how many round brackets are open. `scan` says of each character whether it is
*outer*, that is, in no quotes, in no brackets and none of them itself. `wordCuts` are the places
where an outer keyword stands.

Nothing is outer in brackets (`hidden_brackets`), and nothing of a text in quotes is, whatever its
characters are (`hidden_quoted`).

A text is self-contained if it closes what it opens and has neither an outer comma nor an outer
FROM. Such texts stay self-contained one after another, if no word runs over the seam
(`SelfContained.append`). A call of a function is self-contained whatever its arguments are, if they
close what they open (`SelfContained.call`).
-/

namespace SemanticLayer.Sql

/-- Whether a character opens a text in quotes. -/
def Grammar.isQuote (g : Grammar) (c : Char) : Bool := (g.stringQuotes ++ g.nameQuotes).contains c

/-- Whether a backslash escapes the next character in a text between `q`s. -/
def Grammar.escapesIn (g : Grammar) (q : Char) : Bool :=
  g.backslashEscapes && g.stringQuotes.contains q

namespace Scan

/-! ## Places -/

/-- Where a scanner stands in a text. -/
inductive Place where
  /-- Outside quotes, with so many brackets open. -/
  | outside (depth : Nat)
  /-- In a text that `close` ends. -/
  | quoted (depth : Nat) (close : Char)
  /-- In a text that `close` ends, after a backslash. -/
  | escaped (depth : Nat) (close : Char)
  /-- After a bracket that closes none. -/
  | lost
  deriving DecidableEq

namespace Place

/-- Where the scanner stands after a closing bracket. -/
def close : Nat → Place
  | 0 => lost
  | n + 1 => outside n

/-- Where the scanner stands after one more character. A doubled quote closes a text and opens the
next one, so it needs no rule of its own. -/
def step (g : Grammar) : Place → Char → Place
  | outside n, c =>
    if g.isQuote c then quoted n c
    else if c = '(' then outside (n + 1)
    else if c = ')' then close n
    else outside n
  | quoted n q, c =>
    if c = q then outside n
    else if c = '\\' ∧ g.escapesIn q = true then escaped n q
    else quoted n q
  | escaped n q, _ => quoted n q
  | lost, _ => lost

/-- Where the scanner stands after a text. -/
def after (g : Grammar) (p : Place) (cs : List Char) : Place := cs.foldl (step g) p

/-- The same place with one more bracket open. -/
def deeper : Place → Place
  | outside n => outside (n + 1)
  | quoted n q => quoted (n + 1) q
  | escaped n q => escaped (n + 1) q
  | lost => lost

variable {g : Grammar} {p : Place} {c : Char} {cs : List Char}

@[simp] theorem after_nil : p.after g [] = p := rfl

@[simp] theorem after_cons : p.after g (c :: cs) = (p.step g c).after g cs := rfl

@[simp] theorem after_append {ds : List Char} :
    p.after g (cs ++ ds) = (p.after g cs).after g ds := by
  simp [after]

theorem after_lost : lost.after g cs = lost := by
  induction cs with
  | nil => rfl
  | cons c cs ih => exact ih

theorem deeper_ne_outside : p.deeper ≠ outside 0 := by
  cases p <;> simp [deeper]

/-- One more bracket makes no difference to a step that closes a bracket only if one is open. -/
theorem step_deeper (h : p.step g c ≠ lost) : p.deeper.step g c = (p.step g c).deeper := by
  cases p with
  | outside n =>
    change step g (outside (n + 1)) c = _
    simp only [step] at h ⊢
    split_ifs at h ⊢ with hquote hopen hclose
    · rfl
    · rfl
    · -- No bracket is open in the only case that the hypothesis excludes.
      cases n with
      | zero => exact absurd rfl h
      | succ n => rfl
    · rfl
  | quoted n q =>
    change step g (quoted (n + 1) q) c = _
    simp only [step]
    split_ifs <;> rfl
  | escaped n q => rfl
  | lost => rfl

theorem step_ne_lost (h : p.after g (c :: cs) ≠ lost) : p.step g c ≠ lost := by
  intro hstep
  rw [after_cons, hstep, after_lost] at h
  exact h rfl

theorem after_deeper (h : p.after g cs ≠ lost) : p.deeper.after g cs = (p.after g cs).deeper := by
  induction cs generalizing p with
  | nil => rfl
  | cons c cs ih => rw [after_cons, step_deeper (step_ne_lost h), ih h, after_cons]

end Place

/-! ## Marks -/

/-- A character of a text, and whether it is outer. -/
structure Mark where
  char : Char
  outer : Bool
  deriving DecidableEq

namespace Mark

/-- Whether a character is part of an outer word. -/
def isWord (m : Mark) : Bool := m.outer && Text.isWordChar m.char

def isComma (m : Mark) : Bool := m.outer && m.char == ','

end Mark

/-- The characters of a text that is scanned from a place on. -/
def scan (g : Grammar) (p : Place) : List Char → List Mark
  | [] => []
  | c :: cs => ⟨c, decide (p = .outside 0 ∧ p.step g c = .outside 0)⟩ :: scan g (p.step g c) cs

/-- The characters of a text of which nothing is outer. -/
def hidden (cs : List Char) : List Mark := cs.map (⟨·, false⟩)

variable {g : Grammar} {p : Place} {b m : Mark} {c q x : Char} {cs ds w : List Char}
  {xs ys ms : List Mark} {inside : Bool}

theorem scan_append : scan g p (cs ++ ds) = scan g p cs ++ scan g (p.after g cs) ds := by
  induction cs generalizing p with
  | nil => rfl
  | cons c cs ih => simp [scan, ih]

@[simp] theorem map_char_scan : (scan g p cs).map Mark.char = cs := by
  induction cs generalizing p with
  | nil => rfl
  | cons c cs ih => simp [scan, ih]

@[simp] theorem map_char_hidden : (hidden cs).map Mark.char = cs := by
  rw [hidden, List.map_map]
  exact List.map_id cs

theorem hidden_append : hidden (cs ++ ds) = hidden cs ++ hidden ds := List.map_append

theorem not_isWord_of_mem_hidden (h : m ∈ hidden cs) : m.isWord = false := by
  obtain ⟨c, -, rfl⟩ := List.mem_map.1 h
  rfl

theorem not_isComma_of_mem_hidden (h : m ∈ hidden cs) : m.isComma = false := by
  obtain ⟨c, -, rfl⟩ := List.mem_map.1 h
  rfl

theorem scan_deeper (h : p.after g cs ≠ .lost) : scan g p.deeper cs = hidden cs := by
  induction cs generalizing p with
  | nil => rfl
  | cons c cs ih =>
    have hrest : scan g (p.deeper.step g c) cs = hidden cs := by
      rw [Place.step_deeper (Place.step_ne_lost h), ih h]
    simp [scan, hidden, hrest, Place.deeper_ne_outside]

/-- A text after which the scanner stands where it stood before, and of which nothing is outer. -/
structure Hidden (g : Grammar) (p : Place) (cs : List Char) : Prop where
  after : p.after g cs = p
  scan : Scan.scan g p cs = hidden cs

theorem Hidden.nil : Hidden g p [] := ⟨rfl, rfl⟩

theorem Hidden.append (hc : Hidden g p cs) (hd : Hidden g p ds) : Hidden g p (cs ++ ds) where
  after := by rw [Place.after_append, hc.after, hd.after]
  scan := by rw [scan_append, hc.after, hc.scan, hd.scan, hidden_append]

/-- Hidden texts one after another, one for each character. -/
theorem Hidden.flatMap {f : Char → List Char} (h : ∀ c ∈ cs, Hidden g p (f c)) :
    Hidden g p (cs.flatMap f) := by
  induction cs with
  | nil => exact .nil
  | cons c cs ih =>
    obtain ⟨hc, hcs⟩ := List.forall_mem_cons.1 h
    rw [List.flatMap_cons]
    exact hc.append (ih hcs)

/-! ## Plain characters -/

/-- The characters that quote in some grammar, and the brackets. -/
def specials : List Char := ['\x27', '\x22', '\x60', '(', ')']

/-- A character that neither quotes nor brackets. -/
def isPlain (c : Char) : Bool := !specials.contains c

/-- A grammar that quotes with no other characters, and with the apostrophe. -/
structure Legible (g : Grammar) : Prop where
  quotes : ∀ q ∈ g.stringQuotes ++ g.nameQuotes, q ∈ ['\x27', '\x22', '\x60']
  apostrophe : g.isQuote '\x27' = true

theorem Legible.isQuote_eq_false (hg : Legible g) (hc : c ∉ ['\x27', '\x22', '\x60']) :
    g.isQuote c = false := by
  rw [Grammar.isQuote, Bool.eq_false_iff]
  exact fun h => hc (hg.quotes c (List.contains_iff_mem.1 h))

theorem Legible.step_plain (hg : Legible g) (hc : isPlain c = true) :
    (Place.outside 0).step g c = .outside 0 := by
  simp only [isPlain, specials, Bool.not_eq_true', List.contains_eq_mem, decide_eq_false_iff_not,
    List.mem_cons, List.not_mem_nil, or_false, not_or] at hc
  obtain ⟨hapostrophe, hdouble, hback, hopen, hclose⟩ := hc
  have hquote : g.isQuote c = false := hg.isQuote_eq_false (by simp [hapostrophe, hdouble, hback])
  simp [Place.step, hquote, hopen, hclose]

theorem Legible.after_plain (hg : Legible g) (hcs : cs.all isPlain = true) :
    (Place.outside 0).after g cs = .outside 0 := by
  induction cs with
  | nil => rfl
  | cons c cs ih =>
    rw [List.all_cons, Bool.and_eq_true] at hcs
    rw [Place.after_cons, hg.step_plain hcs.1, ih hcs.2]

/-- Characters that neither quote nor bracket are outer. -/
theorem Legible.scan_plain (hg : Legible g) (hcs : cs.all isPlain = true) :
    scan g (.outside 0) cs = cs.map (⟨·, true⟩) := by
  induction cs with
  | nil => rfl
  | cons c cs ih =>
    rw [List.all_cons, Bool.and_eq_true] at hcs
    simp [scan, hg.step_plain hcs.1, ih hcs.2]

/-! ## Brackets and quotes -/

/-- A text closes the quotes and brackets that it opens. -/
def Closed (g : Grammar) (cs : List Char) : Prop := (Place.outside 0).after g cs = .outside 0

instance : Decidable (Closed g cs) := inferInstanceAs (Decidable (_ = _))

theorem Closed.append (hc : Closed g cs) (hd : Closed g ds) : Closed g (cs ++ ds) := by
  rw [Closed, Place.after_append, hc, hd]

theorem Closed.scan_append (h : Closed g cs) :
    scan g (.outside 0) (cs ++ ds) = scan g (.outside 0) cs ++ scan g (.outside 0) ds := by
  rw [Scan.scan_append, h]

theorem Closed.after_ne_lost (h : Closed g cs) : (Place.outside 0).after g cs ≠ .lost := by
  rw [h]
  exact Place.noConfusion

theorem Closed.after_deeper (h : Closed g cs) : (Place.outside 1).after g cs = .outside 1 := by
  have hdeeper : (Place.outside 0).deeper.after g cs = _ := Place.after_deeper h.after_ne_lost
  rwa [h] at hdeeper

/-- Nothing in brackets is outer. -/
theorem hidden_brackets (hg : Legible g) (h : Closed g cs) :
    Hidden g (.outside 0) ('(' :: (cs ++ [')'])) := by
  have hopen : (Place.outside 0).step g '(' = .outside 1 := by
    simp [Place.step, hg.isQuote_eq_false]
  have hclose : (Place.outside 1).step g ')' = .outside 0 := by
    simp [Place.step, Place.close, hg.isQuote_eq_false]
  have hbody : scan g (Place.outside 0).deeper cs = hidden cs := scan_deeper h.after_ne_lost
  change scan g (.outside 1) cs = _ at hbody
  constructor
  · simp [hopen, h.after_deeper, hclose]
  · simp [scan, hopen, scan_append, h.after_deeper, hbody, hidden]

theorem step_quote (hq : g.isQuote q = true) : (Place.outside 0).step g q = .quoted 0 q := by
  simp [Place.step, hq]

theorem step_quoted_self : (Place.quoted 0 q).step g q = .outside 0 := by
  simp [Place.step]

/-- A character as it is written in quotes. A doubled quote closes the text and opens it again. -/
theorem hidden_char (hq : g.isQuote q = true) (hc : c = '\\' → g.escapesIn q = false) :
    Hidden g (.quoted 0 q) (if c == q then [c, c] else [c]) := by
  by_cases heq : c = q
  · constructor <;> simp [heq, step_quoted_self, step_quote hq, scan, hidden]
  · have hstep : (Place.quoted 0 q).step g c = .quoted 0 q := by
      simpa [Place.step, heq] using hc
    constructor <;> simp [heq, hstep, scan, hidden]

theorem hidden_doubled (hq : g.isQuote q = true) (hcs : '\\' ∈ cs → g.escapesIn q = false) :
    Hidden g (.quoted 0 q) (cs.flatMap fun c => if c == q then [c, c] else [c]) :=
  .flatMap fun _ hc => hidden_char hq fun h => hcs (h ▸ hc)

/-- What is hidden in quotes is hidden with them. -/
theorem Hidden.inQuotes (hq : g.isQuote q = true) (h : Hidden g (.quoted 0 q) cs) :
    Hidden g (.outside 0) (q :: (cs ++ [q])) where
  after := by simp [step_quote hq, h.after, step_quoted_self]
  scan := by simp [Scan.scan, step_quote hq, scan_append, h.after, h.scan, hidden]

theorem toList_quoted (q : Char) (s : String) : (Text.quoted q s).toList =
    q :: ((s.toList.flatMap fun c => if c == q then [c, c] else [c]) ++ [q]) := by
  simp [Text.quoted, Text.doubled]

theorem doubled_of_not_mem (h : q ∉ cs) :
    (cs.flatMap fun c => if c == q then [c, c] else [c]) = cs := by
  induction cs with
  | nil => rfl
  | cons c cs ih =>
    rw [List.mem_cons, not_or] at h
    rw [List.flatMap_cons, ih h.2, if_neg (by simpa using Ne.symm h.1), List.singleton_append]

/-- Nothing of a text in quotes is outer, unless a backslash escapes something in it. -/
theorem hidden_quoted (hq : g.isQuote q = true) {s : String}
    (hs : '\\' ∈ s.toList → g.escapesIn q = false) :
    Hidden g (.outside 0) (Text.quoted q s).toList := by
  rw [toList_quoted]
  exact (hidden_doubled hq hs).inQuotes hq

/-! ## Words -/

/-- What follows a word in capital letters at the beginning of a text, if it is outer and ends
there. -/
def afterWord? : List Char → List Mark → Option (List Mark)
  | [], ms => if ms.head?.any Mark.isWord then none else some ms
  | _ :: _, [] => none
  | x :: w, m :: ms => if m.isWord && m.char.toUpper == x then afterWord? w ms else none

/-- The texts before and after each outer word that is `w` in any letter case. `inside` says whether
a word is still going on at the beginning. -/
def wordCuts (w : List Char) : Bool → List Mark → List (List Mark × List Mark)
  | _, [] => []
  | inside, m :: ms =>
    (if inside then none else afterWord? w (m :: ms)).toList.map (([], ·)) ++
      (wordCuts w m.isWord ms).map fun r => (m :: r.1, r.2)

theorem afterWord?_append (hb : b.isWord = false) :
    afterWord? w (xs ++ b :: ys) = (afterWord? w xs).map (· ++ b :: ys) := by
  induction w generalizing xs with
  | nil =>
    cases xs with
    | nil => simp [afterWord?, hb]
    | cons m xs =>
      cases hm : m.isWord with
      | true => simp [afterWord?, hm]
      | false => simp [afterWord?, hm]
  | cons x w ih =>
    cases xs with
    | nil => simp [afterWord?, hb]
    | cons m xs =>
      rw [List.cons_append, afterWord?, afterWord?, ih]
      split <;> rfl

theorem afterWord?_of_not_isWord (hb : b.isWord = false) :
    afterWord? (x :: w) (b :: ms) = none := by
  simp [afterWord?, hb]

theorem wordCuts_cons (hb : b.isWord = false) :
    wordCuts (x :: w) inside (b :: ys) =
      (wordCuts (x :: w) false ys).map fun r => (b :: r.1, r.2) := by
  simp [wordCuts, afterWord?_of_not_isWord hb, hb]

/-- No word runs over `b`: the cuts of a text are those before it and those after it. -/
theorem wordCuts_append (hb : b.isWord = false) :
    wordCuts (x :: w) inside (xs ++ b :: ys) =
      ((wordCuts (x :: w) inside xs).map fun r => (r.1, r.2 ++ b :: ys)) ++
        (wordCuts (x :: w) false ys).map fun r => (xs ++ b :: r.1, r.2) := by
  induction xs generalizing inside with
  | nil => exact wordCuts_cons hb
  | cons m xs ih =>
    rw [List.cons_append, wordCuts, wordCuts, ih, ← List.cons_append, afterWord?_append hb]
    cases inside with
    | true => simp [Function.comp_def]
    | false => cases afterWord? (x :: w) (m :: xs) <;> simp [Function.comp_def]

/-- A word does not stand where no character is its first one. -/
theorem wordCuts_eq_nil (h : ∀ m ∈ ms, (m.isWord && m.char.toUpper == x) = false) :
    wordCuts (x :: w) inside ms = [] := by
  induction ms generalizing inside with
  | nil => rfl
  | cons m ms ih =>
    rw [List.forall_mem_cons] at h
    simp [wordCuts, afterWord?, h.1, ih h.2]

theorem wordCuts_of_not_isWord (h : ∀ m ∈ ms, m.isWord = false) :
    wordCuts (x :: w) inside ms = [] :=
  wordCuts_eq_nil fun m hm => by simp [h m hm]

/-! ## Self-contained texts -/

/-- A text that closes what it opens and has neither an outer comma nor an outer FROM. -/
structure SelfContained (g : Grammar) (cs : List Char) : Prop where
  closed : Closed g cs
  noComma : ∀ m ∈ scan g (.outside 0) cs, m.isComma = false
  noFrom : wordCuts ['F', 'R', 'O', 'M'] false (scan g (.outside 0) cs) = []

instance : Decidable (SelfContained g cs) :=
  decidable_of_iff
    (Closed g cs ∧ (∀ m ∈ scan g (.outside 0) cs, m.isComma = false) ∧
      wordCuts ['F', 'R', 'O', 'M'] false (scan g (.outside 0) cs) = [])
    ⟨fun h => ⟨h.1, h.2.1, h.2.2⟩, fun h => ⟨h.closed, h.noComma, h.noFrom⟩⟩

theorem SelfContained.of_hidden (h : Hidden g (.outside 0) cs) : SelfContained g cs where
  closed := h.after
  noComma _ hm := not_isComma_of_mem_hidden (h.scan ▸ hm)
  noFrom := wordCuts_of_not_isWord fun _ hm => not_isWord_of_mem_hidden (h.scan ▸ hm)

/-- Whether a text has no quotes, brackets and commas, and no FROM. -/
def isPlainText (cs : List Char) : Bool :=
  cs.all isPlain && !cs.contains ',' &&
    (wordCuts ['F', 'R', 'O', 'M'] false (cs.map (⟨·, true⟩))).isEmpty

theorem SelfContained.of_plain (hg : Legible g) (h : isPlainText cs = true) :
    SelfContained g cs := by
  simp only [isPlainText, Bool.and_eq_true, List.isEmpty_iff] at h
  obtain ⟨⟨hplain, hcomma⟩, hfrom⟩ := h
  refine ⟨hg.after_plain hplain, ?_, ?_⟩
  · rw [hg.scan_plain hplain]
    intro m hm
    obtain ⟨c, hc, rfl⟩ := List.mem_map.1 hm
    have hne : c ≠ ',' := by
      rintro rfl
      simp [hc] at hcomma
    simpa [Mark.isComma] using hne
  · rw [hg.scan_plain hplain, hfrom]

/-- Self-contained texts stay so one after another if no word runs over the seam. -/
theorem SelfContained.append (hc : SelfContained g cs) (hd : SelfContained g ds)
    (hseam : ∀ m ∈ (scan g (.outside 0) ds).head?, m.isWord = false) :
    SelfContained g (cs ++ ds) where
  closed := hc.closed.append hd.closed
  noComma m hm := by
    rw [hc.closed.scan_append, List.mem_append] at hm
    exact hm.elim (hc.noComma m) (hd.noComma m)
  noFrom := by
    have hnone := hd.noFrom
    rw [hc.closed.scan_append]
    cases hmarks : scan g (.outside 0) ds with
    | nil => rw [List.append_nil, hc.noFrom]
    | cons b ys =>
      have hb : b.isWord = false := hseam b (by rw [hmarks]; rfl)
      -- What stands after the first character of the second text has no cut either.
      rw [hmarks, wordCuts_cons hb, List.map_eq_nil_iff] at hnone
      rw [wordCuts_append hb, hc.noFrom, hnone]
      rfl

theorem SelfContained.append_hidden (hc : SelfContained g cs) (hd : Hidden g (.outside 0) ds) :
    SelfContained g (cs ++ ds) := by
  refine hc.append (.of_hidden hd) fun m hm => ?_
  rw [hd.scan] at hm
  exact not_isWord_of_mem_hidden (List.mem_of_mem_head? hm)

/-- What stands in brackets after a self-contained text need only close what it opens. -/
theorem SelfContained.call (hg : Legible g) (hc : SelfContained g cs) (hd : Closed g ds) :
    SelfContained g (cs ++ '(' :: (ds ++ [')'])) :=
  hc.append_hidden (hidden_brackets hg hd)

theorem Legible.scan_blank (hg : Legible g) :
    scan g (.outside 0) (' ' :: cs) = ⟨' ', true⟩ :: scan g (.outside 0) cs := by
  simp [scan, hg.step_plain (c := ' ') (by decide)]

/-- A blank in front of a text. -/
theorem SelfContained.blank_cons (hg : Legible g) (h : SelfContained g cs) :
    SelfContained g (' ' :: cs) where
  closed := by rw [Closed, Place.after_cons, hg.step_plain (by decide), h.closed]
  noComma := by
    rw [hg.scan_blank, List.forall_mem_cons]
    exact ⟨rfl, h.noComma⟩
  noFrom := by
    rw [hg.scan_blank, wordCuts_cons rfl, h.noFrom, List.map_nil]

/-- Self-contained texts stay so with a blank between them. -/
theorem SelfContained.blank (hg : Legible g) (hc : SelfContained g cs) (hd : SelfContained g ds) :
    SelfContained g (cs ++ ' ' :: ds) := by
  refine hc.append (hd.blank_cons hg) fun m hm => ?_
  rw [hg.scan_blank] at hm
  obtain rfl : ⟨' ', true⟩ = m := Option.some.inj hm
  rfl

end Scan

end SemanticLayer.Sql
