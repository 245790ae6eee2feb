import SemanticLayer.Compiler
import SemanticLayer.Proofs.Fragment
import SemanticLayer.Proofs.SelectFrom

/-!
# Views expose the declared columns
-/

namespace SemanticLayer.Sql.Parser

variable {g : Grammar} {last : Option Token} {t : Token} {ts us k : List Token} {d : Nat}
  {names : List String} {label : String}

/-! ## Comments do not matter -/

@[simp] theorem bare_opens : t.bare.opens = t.opens := rfl
@[simp] theorem bare_closes : t.bare.closes = t.closes := rfl

theorem depthAfter_bare : depthAfter d (ts.map Token.bare) = depthAfter d ts := by
  induction ts generalizing d with
  | nil => rfl
  | cons t ts ih =>
    rw [List.map_cons, depthAfter, depthAfter, ih, ih, ih]
    rfl

theorem divides_bare : divides t.bare (ts.map Token.bare) = divides t ts := by
  cases ts <;> rfl

theorem any_key_bare {p : String → Bool} :
    (last.map Token.bare).any (fun u => p u.key) = last.any fun u => p u.key := by
  cases last <;> rfl

theorem completes_bare :
    completes d (last.map Token.bare) (ts.map Token.bare) = completes d last ts := by
  fun_induction completes d last ts with
  | case1 d last => rw [List.map_nil, completes, any_key_bare]
  | case2 d last t ts ho ih =>
    rw [List.map_cons, completes_opens (t := t.bare) ho]
    exact ih
  | case3 d last t ts ho hc ih =>
    rw [List.map_cons, completes.eq_def]
    simp only [bare_opens, ho, bare_closes, hc, if_true, Bool.false_eq_true, if_false]
    exact congrArg _ ih
  | case4 d last t ho hc hdistinct =>
    rw [List.map_cons, completes.eq_def]
    simp only [bare_opens, ho, bare_closes, hc, Token.bare_key, any_key_bare, hdistinct, if_true,
      Bool.false_eq_true, if_false]
    rfl
  | case5 d last t ho hc hdistinct u us ih =>
    rw [List.map_cons, completes.eq_def]
    simp only [bare_opens, ho, bare_closes, hc, Token.bare_key, any_key_bare, hdistinct, if_true,
      Bool.false_eq_true, if_false, List.map_cons]
    exact congrArg _ ih
  | case6 d last t ts ho hc hdistinct ih =>
    rw [List.map_cons, completes.eq_def]
    simp only [bare_opens, ho, bare_closes, hc, Token.bare_key, any_key_bare, hdistinct,
      Bool.false_eq_true, if_false, divides_bare]
    exact congrArg _ ih

/-- Tokens that are columns without their comments are columns. -/
theorem FurtherColumns.of_bare (h : FurtherColumns names us k) (hus : ts.map Token.bare = us) :
    ∃ k', k'.map Token.bare = k ∧ FurtherColumns names ts k' := by
  induction h generalizing ts with
  | done k => exact ⟨ts, hus, .done ts⟩
  | @more names u a t ts' rest k hu hc ha ht _ ih =>
    obtain ⟨u, ts, rfl, rfl, hus1⟩ := List.map_eq_cons_iff.mp hus
    obtain ⟨es, ts, rfl, rfl, hus2⟩ := List.map_eq_append_iff.mp hus1
    obtain ⟨a, ts, rfl, rfl, hus3⟩ := List.map_eq_cons_iff.mp hus2
    obtain ⟨t, ts, rfl, rfl, hus4⟩ := List.map_eq_cons_iff.mp hus3
    obtain ⟨k', hk', hfurther⟩ := ih hus4
    rw [← Option.map_some, completes_bare] at hc
    exact ⟨k', hk', .more (u := u) (a := a) (t := t) hu hc ha ht hfurther⟩

/-- Tokens that are a query in parentheses without their comments are one. -/
theorem SubqueryTokens.of_bare (h : SubqueryTokens label us) (hus : ts.map Token.bare = us) :
    SubqueryTokens label ts := by
  obtain @⟨t, r, a, q, is, ht, hr, ha, hq, hi, hfirst⟩ := h
  obtain ⟨t, ts, rfl, rfl, hus1⟩ := List.map_eq_cons_iff.mp hus
  obtain ⟨is, ts, rfl, rfl, hus2⟩ := List.map_eq_append_iff.mp hus1
  obtain ⟨r, ts, rfl, rfl, hus3⟩ := List.map_eq_cons_iff.mp hus2
  obtain ⟨a, ts, rfl, rfl, hus4⟩ := List.map_eq_cons_iff.mp hus3
  obtain ⟨q, ts, rfl, rfl, hus5⟩ := List.map_eq_cons_iff.mp hus4
  obtain rfl := List.map_eq_nil_iff.mp hus5
  rw [depthAfter_bare] at hi
  refine .mk (t := t) (r := r) (a := a) (q := q) ht hr ha hq hi ?_
  cases is with
  | nil => exact hfirst
  | cons u is => exact hfirst

theorem beginsWithOption_bare : beginsWithOption g (ts.map Token.bare) = beginsWithOption g ts := by
  match ts with
  | [] => rfl
  | [t] => rfl
  | t :: u :: ts => rfl

/-- Tokens that are a view without their comments are one. -/
theorem ViewTokens.of_bare (h : ViewTokens g (last.map Token.bare) names label us)
    (hus : ts.map Token.bare = us) : ViewTokens g last names label ts := by
  obtain @⟨names, label, t, u, a, f, es, rest, source, hoption, hc, ha, ht, h, hf, hs⟩ := h
  obtain ⟨u, ts, rfl, rfl, hus1⟩ := List.map_eq_cons_iff.mp hus
  obtain ⟨es, ts, rfl, rfl, hus2⟩ := List.map_eq_append_iff.mp hus1
  obtain ⟨a, ts, rfl, rfl, hus3⟩ := List.map_eq_cons_iff.mp hus2
  obtain ⟨t, ts, rfl, rfl, hus4⟩ := List.map_eq_cons_iff.mp hus3
  obtain ⟨k, hk, hfurther⟩ := h.of_bare hus4
  obtain ⟨f, source', rfl, rfl, hsource⟩ := List.map_eq_cons_iff.mp hk
  rw [← List.map_cons, beginsWithOption_bare] at hoption
  rw [← List.map_cons, completes_bare] at hc
  exact .mk (a := a) (t := t) (f := f) hoption hc ha ht hfurther hf
    (hs.of_bare hsource)

end SemanticLayer.Sql.Parser

namespace SemanticLayer

open Sql (Token Grammar)
open Sql.Lexer
open Text (isBlank)
open Sql.Parser (completes depthAfter isAlias beginsWithOption FurtherColumns SubqueryTokens
  ViewTokens SelectsFrom PlainSelect exposedNames)

/-- Whether a name is read back where a view gives it to a column. A name in quotes is, unless it
holds an escape. A name without quotes must be one token with its own text. -/
def Dialect.keepsName (d : Dialect) (name : String) : Bool :=
  match d.quote with
  | some _ => !d.grammar.backslashEscapes || !hasEscape name.toList
  | none => [' ', ','].all fun stop =>
    match fragment? d.grammar (some "AS") name.toList stop with
    | some [t] => isAlias t && t.text == name && t.key != ";"
    | _ => false

namespace View

variable {d : Dialect} {c : String × String} {cols : List (String × String)} {inner name : String}
  {ts : List Token} {k : List Char}

/-! ## What a view keeps -/

/-- A word of the text of a view. -/
def word (s : String) : Token := { kind := .word, text := s, key := s }

/-- A mark of the text of a view. -/
def mark (s : String) : Token := { kind := .symbol, text := s, key := s }

/-- The tokens of an expression after the token `last`, if they are one operand. -/
def operand? (d : Dialect) (last : Token) (expr : String) : Option (List Token) :=
  (fragment? d.grammar (some last.key) expr.toList ' ').filter fun ts =>
    completes 0 (some last) ts && ts.all fun t => t.key != ";"

/-- Whether the first column of a view stays one column with its name. Its expression is not empty
and begins with no word about the whole query. -/
def keepsFirst (d : Dialect) (c : String × String) : Bool :=
  ((operand? d (word "SELECT") c.1).any fun ts =>
    !ts.isEmpty && !beginsWithOption d.grammar ts) && d.keepsName c.2

/-- Whether a further column of a view stays one column with its name. -/
def keepsFurther (d : Dialect) (c : String × String) : Bool :=
  (operand? d (mark ",") c.1).isSome && d.keepsName c.2

/-- Whether the columns of a view stay the columns that they are. -/
def keepsColumns (d : Dialect) : List (String × String) → Bool
  | [] => true
  | c :: cs => keepsFirst d c && cs.all (keepsFurther d)

/-- Whether the statement behind a view is a query that closes its brackets. -/
def keepsInner (d : Dialect) (inner : String) : Bool :=
  match fragment? d.grammar (some "FROM") ('(' :: inner.toList) ')' with
  | some (t :: is) =>
    t.key == "(" && depthAfter 0 is == some 0 &&
      is.head?.any (fun u => u.kind == .word && ["SELECT", "WITH"].contains u.key) &&
      is.all fun u => u.key != ";"
  | _ => false

/-! ## Dialects -/

/-- What the texts of views need of a dialect: its reader knows their words and marks, and cuts
nothing over the characters that separate them. -/
structure Readable (d : Dialect) : Prop where
  plainSelect : PlainSelect d.grammar
  select : Stands d.grammar "SELECT".toList (word "SELECT")
  as : Stands d.grammar "AS".toList (word "AS")
  from' : Stands d.grammar "FROM".toList (word "FROM")
  comma : Stands d.grammar ",".toList (mark ",")
  close : Stands d.grammar ")".toList (mark ")")
  beforeAs : Separates d.grammar ' ' 'A'
  beforeFrom : Separates d.grammar ' ' 'F'
  beforeNext : Separates d.grammar ',' ' '
  beforeClose : Separates d.grammar ')' ' '
  quotes : ∀ q, d.quote = some q → QuotesNames d.grammar q ∧ q ≠ ' ' ∧ q ≠ ','
  label : ∃ t, isAlias t = true ∧ t.text = innerName ∧ t.key ≠ ";" ∧
    ∀ ts, Reads d.grammar ts (d.quoteName innerName).toList (ts ++ [t]) []

/-- The grammars of the dialects known at the start. -/
def grammars : List Grammar := [.duckdb, .mysql, .oracle, .postgres]

variable {g : Grammar}

/-- No piece reaches over the characters between the parts of a view. -/
theorem endsPiece {b : Char} (hg : g ∈ grammars) (hb : b ∈ [' ', ',', ')']) : EndsPiece g b := by
  simp only [List.mem_cons, List.not_mem_nil, or_false] at hb
  obtain rfl | rfl | rfl := hb
  all_goals
    refine ⟨by decide, by decide, by decide, ?_, ?_⟩
    · revert g
      decide
    · revert g
      decide

/-- Where the text of a view goes on after `b` with `x`, no keyword goes on over `b`. -/
theorem separates {b x : Char} (hg : g ∈ grammars)
    (hb : (b, x) ∈ [(' ', 'A'), (' ', 'F'), (',', ' '), (')', ' ')]) : Separates g b x := by
  simp only [List.mem_cons, Prod.mk.injEq, List.not_mem_nil, or_false] at hb
  obtain ⟨rfl, rfl⟩ | ⟨rfl, rfl⟩ | ⟨rfl, rfl⟩ | ⟨rfl, rfl⟩ := hb
  all_goals
    refine ⟨endsPiece hg (by simp), by decide, ?_, ?_⟩
    · revert g
      decide
    · revert g
      decide

/-- The words around the parts of a view. -/
def words : List String := ["SELECT", "AS", "FROM"]

/-- The marks around the parts of a view. -/
def marks : List String := [",", ")"]

/-- What stands around the parts of a view is no part of a keyword. -/
theorem stands_of_piece {s : String} {p : Piece} {t : Token} (hg : g ∈ grammars)
    (hs : s ∈ words ++ marks)
    (hp : s.toList.head?.map (fun a => piece? g a (s.toList.tail ++ [' '])) = some (some (p, [' '])))
    (ht : ∀ last, p.token? g last = some t) (hplain : Cut.plainStatements.contains t.key = false) :
    Stands g s.toList t := by
  have halone : ∀ g ∈ grammars, ∀ s ∈ words ++ marks, ∀ zs ∈ s.toList.tails, zs ≠ [] →
      ∀ ws ∈ g.phrases ++ Sql.Vocabulary.phrases,
        ∃ w ∈ ws.head?, EndsWord ' ' w.toList ∧ afterWord? w.toList (zs ++ [' ']) = none := by
    decide
  refine ⟨fun last => ?_, halone g hg s hs⟩
  obtain ⟨a, ha, hp⟩ := Option.map_eq_some_iff.mp hp
  rw [← List.cons_head?_tail ha]
  exact fragment?_piece hp (ht last) hplain

theorem stands_word {w : String} (hg : g ∈ grammars) (hw : w ∈ words) :
    Stands g w.toList (word w) := by
  have hpiece : ∀ g ∈ grammars, ∀ w ∈ words,
      w.toList.head?.map (fun a => piece? g a (w.toList.tail ++ [' '])) =
        some (some (.word w, [' '])) := by decide
  have hkey : ∀ g ∈ grammars, ∀ w ∈ words, g.keyword (Text.upper w) = w := by decide
  have hplain : ∀ w ∈ words, Cut.plainStatements.contains w = false := by decide
  refine stands_of_piece hg (List.mem_append_left _ hw) (hpiece g hg w hw) (fun last => ?_)
    (hplain w hw)
  rw [Piece.token?, hkey g hg w hw, word]

theorem stands_mark {m : String} (hg : g ∈ grammars) (hm : m ∈ marks) :
    Stands g m.toList (mark m) := by
  have hpiece : ∀ g ∈ grammars, ∀ m ∈ marks,
      m.toList.head?.map (fun a => piece? g a (m.toList.tail ++ [' '])) =
        some (some (.token .symbol m m, [' '])) := by decide
  have hplain : ∀ m ∈ marks, Cut.plainStatements.contains m = false := by decide
  exact stands_of_piece hg (List.mem_append_right _ hm) (hpiece g hg m hm) (fun _ => rfl)
    (hplain m hm)

/-- A name at the end of a text is read. -/
theorem reads_name_end {xs : List Char} {p : Piece} {t : Token}
    (hp : xs.head?.map (fun a => piece? g a xs.tail) = some (some (p, [])))
    (ht : ∀ last, p.token? g last = some t) (hplain : Cut.plainStatements.contains t.key = false) :
    Reads g ts xs (ts ++ [t]) [] := by
  obtain ⟨a, ha, hp⟩ := Option.map_eq_some_iff.mp hp
  rw [← List.cons_head?_tail ha]
  have hbegins : ∀ u ∈ p.token? g (lastKey ts), beginsPlain (lastKey ts) u = false := by
    intro u hu
    obtain rfl : t = u := by simpa [ht] using hu
    rw [beginsPlain, hplain, Bool.and_false]
  have h := reads_piece hp (Nat.zero_le _) hbegins
  rwa [ht, Option.toList_some] at h

theorem quotesNames {q : Char} (hd : d ∈ Backends.standard.dialects.map Prod.snd)
    (hq : d.quote = some q) : QuotesNames d.grammar q ∧ q ≠ ' ' ∧ q ≠ ',' := by
  obtain rfl | rfl | rfl | rfl := Backends.mem_standard_iff.1 hd
  · exact nomatch hq
  all_goals
    obtain rfl := Option.some.inj hq
    exact ⟨⟨by decide, by decide, by decide, by decide, by decide⟩, by decide, by decide⟩

theorem label_of_mem (hd : d ∈ Backends.standard.dialects.map Prod.snd) :
    ∃ t, isAlias t = true ∧ t.text = innerName ∧ t.key ≠ ";" ∧
      ∀ ts, Reads d.grammar ts (d.quoteName innerName).toList (ts ++ [t]) [] := by
  obtain rfl | rfl | rfl | rfl := Backends.mem_standard_iff.1 hd
  · refine ⟨{ kind := .word, text := innerName, key := "__SEMQL_MODEL" }, by decide, rfl,
      by decide, fun ts => reads_name_end (p := .word innerName) (by decide) ?_ (by decide)⟩
    have hkey : Grammar.duckdb.keyword (Text.upper innerName) = "__SEMQL_MODEL" := by decide
    exact fun last => by rw [Piece.token?, ← hkey]; rfl
  all_goals
    exact ⟨{ kind := .quotedName, text := innerName, key := "" }, by decide, rfl,
      by decide, fun ts => reads_name_end (p := .token .quotedName innerName "")
        (by decide) (fun _ => rfl) (by decide)⟩

theorem grammar_mem (hd : d ∈ Backends.standard.dialects.map Prod.snd) : d.grammar ∈ grammars := by
  obtain rfl | rfl | rfl | rfl := Backends.mem_standard_iff.1 hd
  · exact .head _
  · exact .tail _ (.head _)
  · exact .tail _ (.tail _ (.head _))
  · exact .tail _ (.tail _ (.tail _ (.head _)))

/-- The dialects known at the start can read the texts of views. -/
theorem readable_of_mem (hd : d ∈ Backends.standard.dialects.map Prod.snd) : Readable d := by
  have hg := grammar_mem hd
  have hplain : ∀ g ∈ grammars, g.isCallable "SELECT" = false ∧ g.typeName? "SELECT" = none := by
    decide
  have hword {w : String} (hw : w ∈ words) : Stands d.grammar w.toList (word w) := stands_word hg hw
  have hmark {m : String} (hm : m ∈ marks) : Stands d.grammar m.toList (mark m) := stands_mark hg hm
  have hgap {b x : Char} (hb : (b, x) ∈ [(' ', 'A'), (' ', 'F'), (',', ' '), (')', ' ')]) :
      Separates d.grammar b x := separates hg hb
  exact ⟨⟨(hplain _ hg).1, (hplain _ hg).2⟩, hword (by decide), hword (by decide),
    hword (by decide), hmark (by decide), hmark (by decide), hgap (by simp), hgap (by simp),
    hgap (by simp), hgap (by simp), fun _ => quotesNames hd, label_of_mem hd⟩

/-! ## Columns -/

theorem keepsName_fragment (h : Readable d) (hn : d.keepsName name = true) {stop : Char}
    (hstop : stop ∈ [' ', ',']) : ∃ t, isAlias t = true ∧ t.text = name ∧ t.key ≠ ";" ∧
      fragment? d.grammar (some "AS") (d.quoteName name).toList stop = some [t] := by
  cases hq : d.quote with
  | some q =>
    simp only [Dialect.keepsName, hq] at hn
    simp only [Dialect.quoteName, hq]
    obtain ⟨hquotes, hblank, hcomma⟩ := h.quotes q hq
    have hne : stop ≠ q := by
      simp only [List.mem_cons, List.not_mem_nil, or_false] at hstop
      obtain rfl | rfl := hstop
      · exact hblank.symm
      · exact hcomma.symm
    refine ⟨_, ?_, rfl, by simp, fragment?_quoted hquotes (fun hb => ?_) hne⟩
    · rfl
    · simpa [hb] using hn
  | none =>
    simp only [Dialect.keepsName, hq] at hn
    simp only [Dialect.quoteName, hq]
    have hn := List.all_eq_true.mp hn stop hstop
    split at hn
    · next t ht =>
      simp only [Bool.and_eq_true, beq_iff_eq, bne_iff_ne] at hn
      exact ⟨t, hn.1.1, hn.1.2, hn.2, ht⟩
    · exact nomatch hn

theorem toList_columnText : (columnText d c).toList =
    c.1.toList ++ ' ' :: ("AS".toList ++ ' ' :: (d.quoteName c.2).toList) := by
  have has : " AS ".toList = ' ' :: ("AS".toList ++ [' ']) := by decide
  rw [columnText, String.toList_append, String.toList_append, has]
  simp

/-- The text of the columns after the first. -/
def furtherText (d : Dialect) (cols : List (String × String)) : List Char :=
  cols.flatMap fun c => ',' :: ' ' :: (columnText d c).toList

/-- A column is an expression and a name before a separator. -/
theorem reads_column (h : Readable d) {b x : Char} (hb : b ∈ [' ', ','])
    (hsep : Separates d.grammar b x) {last : Option String} {es : List Token}
    (hexpr : fragment? d.grammar last c.1.toList ' ' = some es) (hn : d.keepsName c.2 = true) :
    ∃ t, isAlias t = true ∧ t.text = c.2 ∧ t.key ≠ ";" ∧ ∀ ts, lastKey ts = last →
      Reads d.grammar ts ((columnText d c).toList ++ b :: x :: k) (ts ++ (es ++ [word "AS", t]))
        (b :: x :: k) := by
  obtain ⟨t, halias, htext, hkey, hname⟩ := keepsName_fragment h hn hb
  refine ⟨t, halias, htext, hkey, fun ts hts => ?_⟩
  subst hts
  have hoperand (k : List Char) :
      Reads d.grammar ts (c.1.toList ++ ' ' :: ("AS".toList ++ k)) (ts ++ es)
        ("AS".toList ++ k) := by
    have has : "AS".toList = ['A', 'S'] := by decide
    rw [has]
    exact (h.beforeAs.reads hexpr).trans reads_blank
  have hkeyword (k : List Char) :
      Reads d.grammar (ts ++ es) ("AS".toList ++ ' ' :: k) (ts ++ es ++ [word "AS"]) k :=
    (h.as.reads h.beforeAs.ends).trans reads_blank
  have hlast : lastKey (ts ++ es ++ [word "AS"]) = some "AS" := by simp [lastKey, word]
  have hcolumn := (hoperand _).trans ((hkeyword _).trans (hsep.reads (k := k) (hlast ▸ hname)))
  rw [toList_columnText]
  simpa using hcolumn

/-- After a column stands a comma before a blank, or a blank before FROM. -/
theorem separates_further (h : Readable d) (cols : List (String × String)) (k : List Char) :
    ∃ b x k', furtherText d cols ++ ' ' :: 'F' :: k = b :: x :: k' ∧ b ∈ [' ', ','] ∧
      Separates d.grammar b x := by
  cases cols with
  | nil => exact ⟨' ', 'F', k, rfl, by simp, h.beforeFrom⟩
  | cons c cols => exact ⟨',', ' ', _, rfl, by simp, h.beforeNext⟩

theorem operand?_eq_some {last : Token} {expr : String} {es : List Token}
    (h : operand? d last expr = some es) :
    fragment? d.grammar (some last.key) expr.toList ' ' = some es ∧
      completes 0 (some last) es = true ∧ ∀ t ∈ es, t.key ≠ ";" := by
  obtain ⟨hes, hok⟩ := Option.filter_eq_some_iff.mp h
  simp only [Bool.and_eq_true, List.all_eq_true, bne_iff_ne] at hok
  exact ⟨hes, hok⟩

/-- The columns after the first are read one by one. -/
theorem reads_further (h : Readable d) (hcols : cols.all (keepsFurther d) = true) (k : List Char) :
    ∃ vs, (∀ ts, Reads d.grammar ts (furtherText d cols ++ ' ' :: 'F' :: k) (ts ++ vs)
        (' ' :: 'F' :: k)) ∧
      (∀ rest, FurtherColumns (cols.map Prod.snd) (vs ++ rest) rest) ∧ ∀ t ∈ vs, t.key ≠ ";" := by
  induction cols with
  | nil =>
    refine ⟨[], fun ts c hc => ?_, fun rest => .done rest, by simp⟩
    exact ⟨0, c, rfl, by simpa [furtherText] using hc, by simp [furtherText]⟩
  | cons c cols ih =>
    simp only [List.all_cons, Bool.and_eq_true, keepsFurther] at hcols
    obtain ⟨es, hes⟩ := Option.isSome_iff_exists.mp hcols.1.1
    obtain ⟨hexpr, hcompletes, hsemicolon⟩ := operand?_eq_some hes
    obtain ⟨vs, hreads, hfurther, hvs⟩ := ih hcols.2
    obtain ⟨b, x, k', hk, hb, hsep⟩ := separates_further h cols k
    obtain ⟨t, halias, htext, hkey, hcolumn⟩ :=
      reads_column (k := k') h hb hsep hexpr hcols.1.2
    refine ⟨mark "," :: (es ++ word "AS" :: t :: vs), fun ts => ?_, fun rest => ?_, ?_⟩
    · have hcomma (k : List Char) :
          Reads d.grammar ts (',' :: ' ' :: k) (ts ++ [mark ","]) k :=
        (h.comma.reads h.beforeAs.ends).trans reads_blank
      have hlast : lastKey (ts ++ [mark ","]) = some "," := by simp [lastKey, mark]
      have hread := (hcomma _).trans ((hk ▸ hcolumn _ hlast).trans (hreads _))
      simpa [furtherText] using hread
    · rw [List.map_cons, ← htext]
      simpa using .more (u := mark ",") (a := word "AS") rfl hcompletes rfl halias (hfurther rest)
    · simp only [List.mem_cons, List.mem_append]
      rintro u (rfl | hu | rfl | rfl | hu)
      · decide
      · exact hsemicolon u hu
      · decide
      · exact hkey
      · exact hvs u hu

/-! ## Whole views -/

/-- The text of a view after its columns and a blank. -/
def sourceText (d : Dialect) (inner : String) : List Char :=
  "FROM".toList ++ ' ' :: '(' :: (inner.toList ++ ')' :: ' ' ::
    ("AS".toList ++ ' ' :: (d.quoteName innerName).toList))

theorem intercalate_cons {s t : String} {ss : List String} :
    (s.intercalate (t :: ss)).toList = t.toList ++ ss.flatMap fun u => s.toList ++ u.toList := by
  induction ss generalizing t with
  | nil => simp
  | cons u ss ih => rw [String.intercalate_cons_cons]; simp [ih]

theorem toList_selectText : (selectText d (c :: cols) inner).toList =
    "SELECT".toList ++ ' ' ::
      ((columnText d c).toList ++ (furtherText d cols ++ ' ' :: sourceText d inner)) := by
  have hselect : "SELECT ".toList = "SELECT".toList ++ [' '] := by decide
  have hcomma : ", ".toList = [',', ' '] := by decide
  have hfrom : " FROM (".toList = ' ' :: ("FROM".toList ++ [' ', '(']) := by decide
  have has : ") AS ".toList = ')' :: ' ' :: ("AS".toList ++ [' ']) := by decide
  unfold selectText sourceText furtherText
  simp only [String.toList_append, hselect, hfrom, has, List.map_cons, intercalate_cons, hcomma]
  simp [List.flatMap_map]

/-- The statement behind a view is read as a query in parentheses with its name. -/
theorem reads_source (h : Readable d) (hinner : keepsInner d inner = true) :
    ∃ source, (∀ ts, Reads d.grammar ts (' ' :: sourceText d inner)
        (ts ++ word "FROM" :: source) []) ∧
      SubqueryTokens innerName source ∧ ∀ t ∈ source, t.key ≠ ";" := by
  obtain ⟨q, hq, hqtext, hqkey, hlabel⟩ := h.label
  unfold keepsInner at hinner
  split at hinner
  · next t is hfragment =>
    simp only [Bool.and_eq_true, beq_iff_eq, List.all_eq_true, bne_iff_ne] at hinner
    obtain ⟨⟨⟨ht, hdepth⟩, hfirst⟩, hsemicolon⟩ := hinner
    refine ⟨t :: (is ++ [mark ")", word "AS", q]), fun ts => ?_, ?_, ?_⟩
    · have hends := h.beforeAs.ends
      have hfrom (k : List Char) :
          Reads d.grammar ts (' ' :: ("FROM".toList ++ ' ' :: k)) (ts ++ [word "FROM"]) k :=
        reads_blank.trans ((h.from'.reads hends).trans reads_blank)
      have hlast : lastKey (ts ++ [word "FROM"]) = some "FROM" := by simp [lastKey, word]
      have hquery (k : List Char) : Reads d.grammar (ts ++ [word "FROM"])
          ('(' :: inner.toList ++ ')' :: ' ' :: k) (ts ++ [word "FROM"] ++ t :: is)
          (')' :: ' ' :: k) :=
        h.beforeClose.reads (hlast ▸ hfragment)
      have hclose (us : List Token) (k : List Char) :
          Reads d.grammar us (')' :: ' ' :: k) (us ++ [mark ")"]) k :=
        (h.close.reads hends).trans reads_blank
      have has (us : List Token) (k : List Char) :
          Reads d.grammar us ("AS".toList ++ ' ' :: k) (us ++ [word "AS"]) k :=
        (h.as.reads hends).trans reads_blank
      have hread := (hfrom _).trans ((hquery _).trans ((hclose _ _).trans
        ((has _ _).trans (hlabel _))))
      simpa [sourceText] using hread
    · exact hqtext ▸ .mk ht rfl rfl hq hdepth hfirst
    · simp only [List.mem_cons, List.mem_append, List.not_mem_nil, or_false]
      rintro u (rfl | hu | rfl | rfl | rfl)
      · simp [ht]
      · exact hsemicolon u hu
      · decide
      · decide
      · exact hqkey
  · cases hinner

/-- The text of a view is cut into the tokens of a view. -/
theorem reads_view (h : Readable d) (hcols : keepsColumns d (c :: cols) = true)
    (hinner : keepsInner d inner = true) :
    ∃ us, Reads d.grammar [] (selectText d (c :: cols) inner).toList (word "SELECT" :: us) [] ∧
      ViewTokens d.grammar (some (word "SELECT")) ((c :: cols).map Prod.snd) innerName us ∧
      ∀ t ∈ us, t.key ≠ ";" := by
  simp only [keepsColumns, keepsFirst, Bool.and_eq_true, Option.any_eq_true] at hcols
  obtain ⟨⟨⟨es, hes, hstart⟩, hname⟩, hfurther⟩ := hcols
  obtain ⟨hexpr, hcompletes, hes'⟩ := operand?_eq_some hes
  obtain ⟨source, hsource, hsubquery, hsource'⟩ := reads_source h hinner
  obtain ⟨rest, hrest⟩ : ∃ rest, sourceText d inner = 'F' :: rest := by
    have hfrom : "FROM".toList = ['F', 'R', 'O', 'M'] := by decide
    exact ⟨_, by rw [sourceText, hfrom]; rfl⟩
  rw [hrest] at hsource
  obtain ⟨vs, hvs, hcolumns, hvs'⟩ := reads_further h hfurther rest
  obtain ⟨b, x, k', hk, hb, hsep⟩ := separates_further h cols rest
  obtain ⟨t, halias, htext, hkey, hcolumn⟩ := reads_column (k := k') h hb hsep hexpr hname
  obtain ⟨e, es, rfl⟩ : ∃ e es', es = e :: es' := by
    cases es with
    | nil => simp at hstart
    | cons e es => exact ⟨e, es, rfl⟩
  refine ⟨e :: (es ++ word "AS" :: t :: (vs ++ word "FROM" :: source)), ?_, ?_, ?_⟩
  · have hselect (k : List Char) :
        Reads d.grammar [] ("SELECT".toList ++ ' ' :: k) [word "SELECT"] k :=
      (h.select.reads h.beforeAs.ends).trans reads_blank
    have hread := (hselect _).trans ((hk ▸ hcolumn [word "SELECT"] rfl).trans
      ((hvs _).trans (hsource _)))
    rw [toList_selectText, hrest]
    simpa using hread
  · rw [List.map_cons, ← htext]
    exact .mk (by simpa using hstart) hcompletes rfl halias (hcolumns _) rfl hsubquery
  · simp only [List.mem_cons, List.mem_append]
    rintro u (rfl | hu | rfl | rfl | hu | rfl | hu)
    · exact hes' u List.mem_cons_self
    · exact hes' u (List.mem_cons_of_mem _ hu)
    · decide
    · exact hkey
    · exact hvs' u hu
    · decide
    · exact hsource' u hu

theorem names_of_dimensions {dims : List Dimension} {times : List (String × String)}
    (h : List.Forall₂ (fun dim column =>
      (do return (← dimensionExpr d dim, dim.name)) = Except.ok column) dims times) :
    times.map Prod.snd = dims.map (·.name) := by
  induction h with
  | nil => rfl
  | cons hdim _ ih =>
    obtain ⟨expr, -, hcolumn⟩ := Outcome.bind_eq_ok_iff.mp hdim
    obtain rfl := Except.ok.inj hcolumn
    rw [List.map_cons, List.map_cons, ih]

/-- The names of the columns are those of the elements, in their order. -/
theorem names_of_columns {m : SemanticModel} (h : columns d m = .ok cols) :
    cols.map Prod.snd = m.elementNames.map Prod.snd := by
  obtain ⟨times, htimes, hcols⟩ := Outcome.bind_eq_ok_iff.mp h
  obtain rfl := Except.ok.inj hcols
  have hnames := names_of_dimensions (Outcome.mapM_eq_ok_iff.mp htimes)
  simp [SemanticModel.elementNames, hnames, Function.comp_def]

/-- Whether the parts of the view of a model stay what they are where it is read: the columns and
the statement behind them. -/
def keepsElements (d : Dialect) (o : Sql.Overrides) (m : SemanticModel) : Bool :=
  match innerSelect d o m, columns d m with
  | .ok inner, .ok cols => keepsColumns d cols && keepsInner d inner
  | _, _ => false

/-- The text of the view of a model is read as one statement. -/
def ReadAs (d : Dialect) (o : Sql.Overrides) (m : SemanticModel) (n : Sql.Node) : Prop :=
  ∃ text, View.text d o m = .ok text ∧ Sql.parseOne d.grammar text = .ok n

/-- A view whose parts stay what they are selects the elements of its model. -/
theorem selectsFrom_of_keepsElements {o : Sql.Overrides} {m : SemanticModel} {n : Sql.Node}
    (h : Readable d) (hm : m.hasElements = true) (hkept : keepsElements d o m = true)
    (hn : ReadAs d o m n) : SelectsFrom (m.elementNames.map Prod.snd) innerName n := by
  obtain ⟨text, htext, hparse⟩ := hn
  obtain ⟨inner, hinner, htext⟩ := Outcome.bind_eq_ok_iff.mp htext
  rw [if_pos hm] at htext
  obtain ⟨cols, hcols, htext⟩ := Outcome.bind_eq_ok_iff.mp htext
  obtain rfl := Except.ok.inj htext
  replace hcols : columns d m = .ok cols := by
    cases hc : columns d m with
    | error e => exact nomatch hc ▸ hcols
    | ok cols' =>
      rw [hc] at hcols
      exact congrArg _ (Except.ok.inj hcols)
  unfold keepsElements at hkept
  simp only [hinner, hcols, Bool.and_eq_true] at hkept
  have hnames := names_of_columns hcols
  cases cols with
  | nil =>
    have hnone : m.elementNames = [] := by simpa using hnames.symm
    simp only [SemanticModel.elementNames, List.append_eq_nil_iff, List.map_eq_nil_iff] at hnone
    simp [SemanticModel.hasElements, hnone] at hm
  | cons c cols =>
    obtain ⟨us, hus, hview, hsemicolon⟩ := reads_view h hkept.1 hkept.2
    obtain ⟨vs, hvs, hbare⟩ := tokenize_of_reads hus
    obtain ⟨select, vs, rfl, hselect, hrest⟩ := List.map_eq_cons_iff.mp hbare
    rw [← hnames]
    have hkind : select.kind = .word := congrArg Token.kind hselect
    have hkey : select.key = "SELECT" := congrArg Token.key hselect
    refine Sql.Parser.parseOne_view h.plainSelect hkind hkey (ViewTokens.of_bare ?_ hrest) ?_ hvs
      hparse
    · rw [Option.map_some, hselect]
      exact hview
    · intro t ht
      obtain rfl | ht := List.mem_cons.mp ht
      · rw [hkey]
        decide
      · exact hsemicolon t.bare (hrest ▸ List.mem_map_of_mem ht)

/-- A model with commas and an AS in the brackets of an expression. -/
def sales : SemanticModel where
  name := "sales"
  select := "SELECT 1"
  entities := [{ name := "id", kind := .primary }]
  measures := [{ name := "net", expr := some "f(a, b AS c)" }]

def readView? (d : Dialect) (o : Sql.Overrides) (m : SemanticModel) : Option Sql.Node :=
  (View.text d o m).toOption.bind fun text => (Sql.parseOne d.grammar text).toOption

theorem readAs_of_readView? {o : Sql.Overrides} {m : SemanticModel} {n : Sql.Node}
    (h : readView? d o m = some n) : ReadAs d o m n := by
  obtain ⟨text, htext, hn⟩ := Option.bind_eq_some_iff.mp h
  exact ⟨text, Outcome.eq_ok_of_toOption htext, Outcome.eq_ok_of_toOption hn⟩

/-- A model with a comma in the name of its measure. -/
def taxed : SemanticModel where
  name := "sales"
  select := "SELECT * FROM raw_sales"
  measures := [{ name := "net, tax", expr := some "amount" }]

end View

end SemanticLayer
