import SemanticLayer.Proofs.Scanning

/-!
# Words outside CASE

A word may be outer in the sense of `Scan.scan` and still belong to something inside: what stands
between CASE and END. `outerCuts` are the places where a word stands outside quotes, brackets and
CASE … END.

A text is *balanced* if it has an END for each CASE, and before no AND more END than CASE. Balanced
texts stay so one after another (`Balanced.append`), and so does one between CASE and END, where no
AND is outside anymore (`Balanced.caseOf`, `NoAnd.caseOf`).
-/

namespace SemanticLayer.Sql.Scan

variable {g : Grammar} {b : Mark} {c x : Char} {cs ds w : List Char} {xs ys ms : List Mark}
  {inside : Bool}

/-! ## Words one after another -/

/-- No word runs over the seam: the cuts of a text are those on either side of it. -/
theorem wordCuts_seam (hw : w ≠ []) (hseam : ∀ m ∈ ys.head?, m.isWord = false) :
    wordCuts w inside (xs ++ ys) =
      ((wordCuts w inside xs).map fun r => (r.1, r.2 ++ ys)) ++
        (wordCuts w false ys).map fun r => (xs ++ r.1, r.2) := by
  obtain ⟨x, w, rfl⟩ := List.exists_cons_of_ne_nil hw
  cases ys with
  | nil => simp [wordCuts]
  | cons b ys =>
    have hb : b.isWord = false := hseam b rfl
    rw [wordCuts_append hb, wordCuts_cons hb, List.map_map]
    rfl

/-- What stands before a word is shorter than the whole text. -/
theorem length_lt_of_mem_wordCuts {r : List Mark × List Mark}
    (h : r ∈ wordCuts w inside ms) : r.1.length < ms.length := by
  induction ms generalizing inside r with
  | nil => simp [wordCuts] at h
  | cons m ms ih =>
    rw [wordCuts, List.mem_append] at h
    obtain h | h := h
    · obtain ⟨rest, -, rfl⟩ := List.mem_map.mp h
      simp
    · obtain ⟨r', hr', rfl⟩ := List.mem_map.mp h
      have hlt := ih hr'
      simp only [List.length_cons]
      omega

/-- How often an outer word stands in a text, in any letter case. -/
def count (w : List Char) (ms : List Mark) : Nat := (wordCuts w false ms).length

theorem count_seam (hw : w ≠ []) (hseam : ∀ m ∈ ys.head?, m.isWord = false) :
    count w (xs ++ ys) = count w xs + count w ys := by
  simp [count, wordCuts_seam hw hseam]

/-- What stands before a word begins as the text does. -/
theorem head_isWord_of_mem_wordCuts (hw : w ≠ []) (hseam : ∀ m ∈ ys.head?, m.isWord = false)
    {r : List Mark × List Mark} (h : r ∈ wordCuts w false ys) :
    ∀ m ∈ r.1.head?, m.isWord = false := by
  obtain ⟨x, w, rfl⟩ := List.exists_cons_of_ne_nil hw
  cases ys with
  | nil => simp [wordCuts] at h
  | cons b ys =>
    rw [wordCuts_cons (hseam b rfl)] at h
    obtain ⟨r', -, rfl⟩ := List.mem_map.mp h
    exact hseam

theorem count_cons (hw : w ≠ []) (hb : b.isWord = false) : count w (b :: ys) = count w ys := by
  obtain ⟨x, w, rfl⟩ := List.exists_cons_of_ne_nil hw
  rw [count, wordCuts_cons hb, List.length_map, count]

/-! ## Texts without keywords -/

abbrev caseWord : List Char := ['C', 'A', 'S', 'E']

abbrev endWord : List Char := ['E', 'N', 'D']

abbrev andWord : List Char := ['A', 'N', 'D']

abbrev betweenWord : List Char := ['B', 'E', 'T', 'W', 'E', 'E', 'N']

/-- The words that say where a bound of BETWEEN ends. -/
def keywords : List (List Char) := [caseWord, endWord, andWord, betweenWord]

/-- The characters of a text, scanned from its beginning. -/
abbrev marks (g : Grammar) (cs : List Char) : List Mark := scan g (.outside 0) cs

theorem Closed.marks_append (h : Closed g cs) : marks g (cs ++ ds) = marks g cs ++ marks g ds :=
  h.scan_append

theorem ne_nil_of_mem_keywords (hw : w ∈ keywords) : w ≠ [] :=
  (by decide : ∀ w ∈ keywords, w ≠ []) w hw

/-- A text that closes what it opens and in which no keyword is outer. -/
structure Wordless (g : Grammar) (cs : List Char) : Prop where
  closed : Closed g cs
  none : ∀ w ∈ keywords, wordCuts w false (marks g cs) = []

theorem head_isWord_of_hidden (h : Hidden g (.outside 0) cs) :
    ∀ m ∈ (marks g cs).head?, m.isWord = false := by
  intro m hm
  rw [marks, h.scan] at hm
  exact not_isWord_of_mem_hidden (List.mem_of_mem_head? hm)

theorem Wordless.of_hidden (h : Hidden g (.outside 0) cs) : Wordless g cs where
  closed := h.after
  none w hw := by
    have hnone : ∀ m ∈ marks g cs, m.isWord = false := by
      rw [marks, h.scan]
      exact fun m => not_isWord_of_mem_hidden
    simp only [keywords, List.mem_cons, List.not_mem_nil, or_false] at hw
    obtain rfl | rfl | rfl | rfl := hw <;> exact wordCuts_of_not_isWord hnone

/-- Whether a text has no quotes, brackets and keywords. -/
def isPlainPhrase (cs : List Char) : Bool :=
  cs.all isPlain && keywords.all fun w => (wordCuts w false (cs.map (⟨·, true⟩))).isEmpty

theorem Wordless.of_plain (hg : Legible g) (h : isPlainPhrase cs = true) : Wordless g cs := by
  simp only [isPlainPhrase, Bool.and_eq_true, List.all_eq_true, List.isEmpty_iff] at h
  have hplain : cs.all isPlain = true := List.all_eq_true.mpr h.1
  refine ⟨hg.after_plain hplain, fun w hw => ?_⟩
  rw [marks, hg.scan_plain hplain, h.2 w hw]

theorem Wordless.append (hc : Wordless g cs) (hd : Wordless g ds)
    (hseam : ∀ m ∈ (marks g ds).head?, m.isWord = false) : Wordless g (cs ++ ds) where
  closed := hc.closed.append hd.closed
  none w hw := by
    rw [hc.closed.marks_append, wordCuts_seam (ne_nil_of_mem_keywords hw) hseam, hc.none w hw,
      hd.none w hw]
    rfl

/-- The seam in front of a character that neither quotes nor brackets and is in no word. -/
theorem Legible.scan_cons (hg : Legible g) (hc : isPlain c = true) :
    marks g (c :: cs) = ⟨c, true⟩ :: marks g cs := by
  simp [marks, scan, hg.step_plain hc]

theorem Legible.seam (hg : Legible g) (hc : isPlain c = true) (hw : Text.isWordChar c = false) :
    ∀ m ∈ (marks g (c :: cs)).head?, m.isWord = false := by
  intro m hm
  rw [hg.scan_cons hc, List.head?_cons, Option.mem_some_iff] at hm
  simp [← hm, Mark.isWord, hw]

/-! ## Balanced texts -/

/-- The places where a word stands outside quotes, brackets and CASE … END. -/
def outerCuts (w : List Char) (ms : List Mark) : List (List Mark × List Mark) :=
  (wordCuts w false ms).filter fun r => count caseWord r.1 == count endWord r.1

theorem outerCuts_seam (hw : w ≠ []) (heven : count caseWord xs = count endWord xs)
    (hseam : ∀ m ∈ ys.head?, m.isWord = false) :
    outerCuts w (xs ++ ys) =
      ((outerCuts w xs).map fun r => (r.1, r.2 ++ ys)) ++
        (outerCuts w ys).map fun r => (xs ++ r.1, r.2) := by
  rw [outerCuts, wordCuts_seam hw hseam, List.filter_append, List.filter_map, List.filter_map]
  congr 2
  refine List.filter_congr fun r hr => ?_
  -- What stands before a word of the second text begins where that text does.
  have hhead := head_isWord_of_mem_wordCuts hw hseam hr
  rw [Function.comp_apply, count_seam (by decide) hhead, count_seam (by decide) hhead, heven,
    Bool.eq_iff_iff, beq_iff_eq, beq_iff_eq, Nat.add_left_cancel_iff]

/-- A text with an END for each CASE, and before no AND with more END than CASE. -/
structure Balanced (g : Grammar) (cs : List Char) : Prop where
  closed : Closed g cs
  even : count caseWord (marks g cs) = count endWord (marks g cs)
  nested : ∀ r ∈ wordCuts andWord false (marks g cs), count endWord r.1 ≤ count caseWord r.1

/-- A text in which no AND stands outside quotes, brackets and CASE … END. -/
def NoAnd (g : Grammar) (cs : List Char) : Prop := outerCuts andWord (marks g cs) = []

theorem Wordless.count_eq_zero (h : Wordless g cs) (hw : w ∈ keywords) :
    count w (marks g cs) = 0 := by
  rw [count, h.none w hw, List.length_nil]

theorem Wordless.balanced (h : Wordless g cs) : Balanced g cs where
  closed := h.closed
  even := by rw [h.count_eq_zero (by decide), h.count_eq_zero (by decide)]
  nested r hr := by
    rw [h.none andWord (by decide)] at hr
    cases hr

theorem Wordless.noAnd (h : Wordless g cs) : NoAnd g cs := by
  rw [NoAnd, outerCuts, h.none andWord (by decide), List.filter_nil]

theorem Balanced.append (hc : Balanced g cs) (hd : Balanced g ds)
    (hseam : ∀ m ∈ (marks g ds).head?, m.isWord = false) : Balanced g (cs ++ ds) where
  closed := hc.closed.append hd.closed
  even := by
    rw [hc.closed.marks_append, count_seam (by decide) hseam, count_seam (by decide) hseam,
      hc.even, hd.even]
  nested r hr := by
    rw [hc.closed.marks_append, wordCuts_seam (by decide) hseam, List.mem_append, List.mem_map,
      List.mem_map] at hr
    obtain ⟨r, hr, rfl⟩ | ⟨r, hr, rfl⟩ := hr
    · exact hc.nested r hr
    · have hhead := head_isWord_of_mem_wordCuts (by decide) hseam hr
      rw [count_seam (by decide) hhead, count_seam (by decide) hhead, hc.even]
      exact Nat.add_le_add_left (hd.nested r hr) _

theorem Balanced.noAnd_append (hc : Balanced g cs)
    (hseam : ∀ m ∈ (marks g ds).head?, m.isWord = false) :
    NoAnd g (cs ++ ds) ↔ NoAnd g cs ∧ NoAnd g ds := by
  rw [NoAnd, hc.closed.marks_append, outerCuts_seam (by decide) hc.even hseam,
    List.append_eq_nil_iff, List.map_eq_nil_iff, List.map_eq_nil_iff]
  rfl

/-! ## Blanks between balanced texts -/

section Blank

variable (hg : Legible g) (hplain : isPlain c = true) (hword : Text.isWordChar c = false)
include hg hplain hword

theorem Wordless.cons (h : Wordless g cs) : Wordless g (c :: cs) where
  closed := by rw [Closed, Place.after_cons, hg.step_plain hplain, h.closed]
  none w hw := by
    obtain ⟨x, w, rfl⟩ := List.exists_cons_of_ne_nil (ne_nil_of_mem_keywords hw)
    rw [hg.scan_cons hplain, wordCuts_cons (by simp [Mark.isWord, hword]), h.none _ hw]
    rfl

theorem Balanced.cons (h : Balanced g cs) : Balanced g (c :: cs) := by
  have hc : (⟨c, true⟩ : Mark).isWord = false := by simp [Mark.isWord, hword]
  refine ⟨?_, ?_, fun r hr => ?_⟩
  · rw [Closed, Place.after_cons, hg.step_plain hplain, h.closed]
  · rw [hg.scan_cons hplain, count_cons (by decide) hc, count_cons (by decide) hc, h.even]
  · rw [hg.scan_cons hplain, wordCuts_cons hc] at hr
    obtain ⟨r', hr', rfl⟩ := List.mem_map.mp hr
    rw [count_cons (by decide) hc, count_cons (by decide) hc]
    exact h.nested r' hr'

theorem outerCuts_cons {w : List Char} (hw : w ≠ []) :
    outerCuts w (marks g (c :: cs)) =
      (outerCuts w (marks g cs)).map fun r => (⟨c, true⟩ :: r.1, r.2) := by
  have hc : (⟨c, true⟩ : Mark).isWord = false := by simp [Mark.isWord, hword]
  obtain ⟨x, w, rfl⟩ := List.exists_cons_of_ne_nil hw
  rw [hg.scan_cons hplain, outerCuts, wordCuts_cons hc, List.filter_map]
  congr 1
  refine List.filter_congr fun r _ => ?_
  rw [Function.comp_apply, count_cons (by decide) hc, count_cons (by decide) hc]

theorem noAnd_cons : NoAnd g (c :: cs) ↔ NoAnd g cs := by
  rw [NoAnd, outerCuts_cons hg hplain hword (by decide), List.map_eq_nil_iff]
  rfl

/-- Texts with a character of no word between them. -/
theorem Wordless.join (hc : Wordless g cs) (hd : Wordless g ds) : Wordless g (cs ++ c :: ds) :=
  hc.append (hd.cons hg hplain hword) (hg.seam hplain hword)

theorem Balanced.join (hc : Balanced g cs) (hd : Balanced g ds) : Balanced g (cs ++ c :: ds) :=
  hc.append (hd.cons hg hplain hword) (hg.seam hplain hword)

theorem Balanced.noAnd_join (hc : Balanced g cs) :
    NoAnd g (cs ++ c :: ds) ↔ NoAnd g cs ∧ NoAnd g ds := by
  rw [hc.noAnd_append (hg.seam hplain hword), noAnd_cons hg hplain hword]

end Blank

/-! ## CASE and AND -/

theorem Legible.marks_word (hg : Legible g) (hw : w ∈ keywords) :
    marks g w = w.map (⟨·, true⟩) :=
  hg.scan_plain ((by decide : ∀ w ∈ keywords, w.all isPlain = true) w hw)

theorem closed_word (hg : Legible g) (hw : w ∈ keywords) : Closed g w :=
  hg.after_plain ((by decide : ∀ w ∈ keywords, w.all isPlain = true) w hw)

/-- How often a keyword stands in a keyword. -/
theorem count_word (hg : Legible g) {v : List Char} (hv : v ∈ keywords) (hw : w ∈ keywords) :
    count w (marks g v) = if w = v then 1 else 0 := by
  rw [hg.marks_word hv]
  exact (by decide : ∀ v ∈ keywords, ∀ w ∈ keywords,
    count w (v.map (⟨·, true⟩)) = if w = v then 1 else 0) v hv w hw

theorem outerCuts_and (hg : Legible g) : outerCuts andWord (marks g andWord) = [([], [])] := by
  rw [hg.marks_word (by decide)]
  decide

theorem not_noAnd_and (hg : Legible g) : ¬NoAnd g andWord := by
  rw [NoAnd, outerCuts_and hg]
  exact List.cons_ne_nil _ _

section CaseOf

variable (hg : Legible g) (hc : Balanced g cs)
  (hseam : ∀ m ∈ (marks g (cs ++ ' ' :: endWord)).head?, m.isWord = false)
include hg hc

theorem count_toEnd (hw : w ∈ keywords) : count w (marks g (cs ++ ' ' :: endWord)) =
    count w (marks g cs) + if w = endWord then 1 else 0 := by
  have hne : w ≠ [] := ne_nil_of_mem_keywords hw
  have hend : count w (marks g (' ' :: endWord)) = if w = endWord then 1 else 0 := by
    rw [hg.scan_cons (by decide), count_cons hne (by decide), count_word hg (by decide) hw]
  rw [hc.closed.marks_append, count_seam hne (hg.seam (by decide) (by decide)), hend]

theorem mem_wordCuts_toEnd {r : List Mark × List Mark}
    (hr : r ∈ wordCuts andWord false (marks g (cs ++ ' ' :: endWord))) :
    count endWord r.1 ≤ count caseWord r.1 := by
  have hend : wordCuts andWord false (marks g (' ' :: endWord)) = [] := by
    rw [hg.scan_cons (by decide), hg.marks_word (by decide)]
    decide
  rw [hc.closed.marks_append, wordCuts_seam (by decide) (hg.seam (by decide) (by decide)), hend,
    List.map_nil, List.append_nil] at hr
  obtain ⟨r', hr', rfl⟩ := List.mem_map.mp hr
  exact hc.nested r' hr'

include hseam

/-- Before each AND in CASE … END there is one CASE more than END. -/
theorem lt_of_mem_caseOf {r : List Mark × List Mark}
    (hr : r ∈ wordCuts andWord false (marks g (caseWord ++ (cs ++ ' ' :: endWord)))) :
    count endWord r.1 < count caseWord r.1 := by
  have hcase : wordCuts andWord false (marks g caseWord) = [] := by
    rw [hg.marks_word (by decide)]
    decide
  rw [(closed_word hg (by decide)).marks_append, wordCuts_seam (by decide) hseam, hcase,
    List.map_nil, List.nil_append] at hr
  obtain ⟨r', hr', rfl⟩ := List.mem_map.mp hr
  have hhead := head_isWord_of_mem_wordCuts (by decide) hseam hr'
  have hinner := mem_wordCuts_toEnd hg hc hr'
  calc count endWord (marks g caseWord ++ r'.1)
      = count endWord r'.1 := by
        rw [count_seam (by decide) hhead, count_word hg (by decide) (by decide)]
        exact Nat.zero_add _
    _ < 1 + count caseWord r'.1 := by omega
    _ = count caseWord (marks g caseWord ++ r'.1) := by
        rw [count_seam (by decide) hhead, count_word hg (by decide) (by decide)]
        rfl

/-- A balanced text between CASE and END is balanced. -/
theorem Balanced.caseOf : Balanced g (caseWord ++ (cs ++ ' ' :: endWord)) where
  closed := by
    refine (closed_word hg (by decide)).append (hc.closed.append ?_)
    rw [Closed, Place.after_cons, hg.step_plain (by decide), closed_word hg (by decide)]
  even := by
    have hcase : count caseWord (marks g caseWord) = 1 := count_word hg (by decide) (by decide)
    have hend : count endWord (marks g caseWord) = 0 := count_word hg (by decide) (by decide)
    have hcase' : count caseWord (marks g (cs ++ ' ' :: endWord)) = count caseWord (marks g cs) :=
      count_toEnd hg hc (by decide)
    have hend' : count endWord (marks g (cs ++ ' ' :: endWord)) = count endWord (marks g cs) + 1 :=
      count_toEnd hg hc (by decide)
    have heven := hc.even
    rw [(closed_word hg (by decide)).marks_append, count_seam (by decide) hseam,
      count_seam (by decide) hseam]
    omega
  nested r hr := Nat.le_of_lt (lt_of_mem_caseOf hg hc hseam hr)

/-- No AND between CASE and END is outside. -/
theorem noAnd_caseOf : NoAnd g (caseWord ++ (cs ++ ' ' :: endWord)) := by
  rw [NoAnd, outerCuts, List.filter_eq_nil_iff]
  intro r hr
  have hlt := lt_of_mem_caseOf hg hc hseam hr
  rw [beq_iff_eq]
  omega

end CaseOf

/-! ## Reading BETWEEN -/

/-- The text of scanned characters. -/
def textOf (ms : List Mark) : String := String.ofList (ms.map Mark.char)

/-- The texts before the first BETWEEN, between it and the first AND after it, and after that AND.
Both words stand outside quotes, brackets and CASE … END. -/
def readBetween (g : Grammar) (s : String) : Option (String × String × String) :=
  (outerCuts betweenWord (marks g s.toList)).head?.bind fun r =>
    (outerCuts andWord r.2).head?.map fun q => (textOf r.1, textOf q.1, textOf q.2)

def separators : List (List Char) := [betweenWord, andWord]

theorem mem_keywords_of_mem_separators (hw : w ∈ separators) : w ∈ keywords :=
  (by decide : ∀ w ∈ separators, w ∈ keywords) w hw

theorem Balanced.separator (hg : Legible g) (hw : w ∈ separators) : Balanced g w := by
  have hword : w ∈ keywords := mem_keywords_of_mem_separators hw
  refine ⟨closed_word hg hword, ?_, ?_⟩
  · rw [count_word hg hword (by decide), count_word hg hword (by decide)]
    exact (by decide : ∀ w ∈ separators,
      (if caseWord = w then 1 else 0) = if endWord = w then 1 else 0) w hw
  · rw [hg.marks_word hword]
    exact (by decide : ∀ w ∈ separators, ∀ r ∈ wordCuts andWord false (w.map (⟨·, true⟩)),
      count endWord r.1 ≤ count caseWord r.1) w hw

/-- The first place of a separator is the one in front, if a text begins with it. -/
theorem head?_outerCuts_word (hg : Legible g) (hw : w ∈ separators) :
    (outerCuts w (marks g (w ++ ' ' :: ds))).head? = some ([], marks g (' ' :: ds)) := by
  have hword : w ∈ keywords := mem_keywords_of_mem_separators hw
  have heven : count caseWord (marks g w) = count endWord (marks g w) :=
    (Balanced.separator hg hw).even
  have hself : outerCuts w (marks g w) = [([], [])] := by
    rw [hg.marks_word hword]
    exact (by decide : ∀ w ∈ separators, outerCuts w (w.map (⟨·, true⟩)) = [([], [])]) w hw
  rw [(closed_word hg hword).marks_append, outerCuts_seam (ne_nil_of_mem_keywords hword) heven
    (hg.seam (by decide) (by decide)), hself]
  rfl

/-- Where a separator stands first that follows a balanced text: in that text or after it. -/
theorem head?_outerCuts (hg : Legible g) (hw : w ∈ separators) (hc : Balanced g cs) :
    (outerCuts w (marks g (cs ++ ' ' :: (w ++ ' ' :: ds)))).head? =
      ((outerCuts w (marks g cs)).head?.map fun r =>
        (r.1, r.2 ++ marks g (' ' :: (w ++ ' ' :: ds)))).or
          (some (marks g cs ++ [⟨' ', true⟩], marks g (' ' :: ds))) := by
  have hne : w ≠ [] := ne_nil_of_mem_keywords (mem_keywords_of_mem_separators hw)
  rw [hc.closed.marks_append, outerCuts_seam hne hc.even (hg.seam (by decide) (by decide)),
    List.head?_append, List.head?_map, List.head?_map,
    outerCuts_cons hg (by decide) (by decide) hne, List.head?_map, head?_outerCuts_word hg hw]
  rfl

variable {this low high : String}

/-- The text after BETWEEN is read up to the first AND in the lower bound, or to the one after. -/
theorem readBetween_text (hg : Legible g) (hthis : Wordless g this.toList)
    (hlow : Balanced g low.toList) :
    readBetween g (this ++ " BETWEEN " ++ low ++ " AND " ++ high) =
      some (this ++ " ", ((outerCuts andWord (marks g low.toList)).head?.map fun r =>
        (" " ++ textOf r.1, textOf r.2 ++ " AND " ++ high)).getD
          (" " ++ low ++ " ", " " ++ high)) := by
  have hchars : (this ++ " BETWEEN " ++ low ++ " AND " ++ high).toList = this.toList ++
      ' ' :: (betweenWord ++ ' ' :: (low.toList ++ ' ' :: (andWord ++ ' ' :: high.toList))) := by
    simp
  have hnone : outerCuts betweenWord (marks g this.toList) = [] := by
    rw [outerCuts, hthis.none _ (by decide), List.filter_nil]
  rw [readBetween, hchars, head?_outerCuts hg (by decide) hthis.balanced, hnone]
  simp only [List.head?_nil, Option.map_none, Option.none_or, Option.bind_some]
  rw [outerCuts_cons hg (by decide) (by decide) (by decide), List.head?_map,
    head?_outerCuts hg (by decide) hlow]
  cases (outerCuts andWord (marks g low.toList)).head? with
  | none => simp [← String.toList_inj, textOf]
  | some r => simp [← String.toList_inj, textOf]

/-- A lower bound in which no AND is outside is read as it is. -/
theorem readBetween_of_noAnd (hg : Legible g) (hthis : Wordless g this.toList)
    (hlow : Balanced g low.toList) (hnone : NoAnd g low.toList) :
    readBetween g (this ++ " BETWEEN " ++ low ++ " AND " ++ high) =
      some (this ++ " ", " " ++ low ++ " ", " " ++ high) := by
  have hcuts : outerCuts andWord (marks g low.toList) = [] := hnone
  rw [readBetween_text hg hthis hlow, hcuts]
  rfl

/-- From a lower bound in which some AND is outside, less is read than all of it. -/
theorem noAnd_of_readBetween (hg : Legible g) (hthis : Wordless g this.toList)
    (hlow : Balanced g low.toList) {bound rest : String} (hle : low.length ≤ bound.length)
    (h : readBetween g (this ++ " BETWEEN " ++ low ++ " AND " ++ high) =
      some (this ++ " ", " " ++ bound ++ " ", rest)) : NoAnd g low.toList := by
  rw [readBetween_text hg hthis hlow] at h
  cases hcuts : outerCuts andWord (marks g low.toList) with
  | nil => exact hcuts
  | cons r rs =>
    rw [hcuts] at h
    simp only [List.head?_cons, Option.map_some, Option.getD_some, Option.some.injEq,
      Prod.mk.injEq, true_and] at h
    have hmem : r ∈ wordCuts andWord false (marks g low.toList) :=
      (List.mem_filter.mp (hcuts ▸ List.mem_cons_self)).1
    have hshort : r.1.length < low.length := by
      have hlength : (marks g low.toList).length = low.length := by
        rw [← List.length_map (f := Mark.char), map_char_scan, String.length_toList]
      rw [← hlength]
      exact length_lt_of_mem_wordCuts hmem
    have hlong : (" " ++ textOf r.1).length = (" " ++ bound ++ " ").length := by rw [h.1]
    simp [textOf] at hlong
    omega

end SemanticLayer.Sql.Scan
