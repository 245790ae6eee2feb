import Mathlib.Data.Bool.AllAny
import SemanticLayer.Proofs.ConditionText
import SemanticLayer.Proofs.OuterWords

/-!
# The AND of BETWEEN

MySQL's BETWEEN stands between a value and its bounds, and the AND after it is read as the one
between the bounds. So a lower bound that has an AND in it is written in parentheses. But AND is
looked for in the tree, where the AND of another BETWEEN is none. The bound is read as it was
written exactly if there is an AND in its tree, or no BETWEEN outside parentheses, CASE and calls
(`Condition.readBetween_print_iff`).
-/

namespace SemanticLayer.Sql

namespace Condition

open Scan

variable {identify : Bool} {n a b : Node} {ns : List Node} {s u : String} {cs ds : List Char}

theorem legible_mysql : Legible .mysql := ⟨List.all_iff_forall_prop.1 (by decide), rfl⟩

/-! ## Blanks -/

theorem balanced_blank (hc : Balanced .mysql cs) (hd : Balanced .mysql ds) :
    Balanced .mysql (cs ++ ' ' :: ds) :=
  hc.join legible_mysql (by decide) (by decide) hd

theorem noAnd_blank (hc : Balanced .mysql cs) :
    NoAnd .mysql (cs ++ ' ' :: ds) ↔ NoAnd .mysql cs ∧ NoAnd .mysql ds :=
  hc.noAnd_join legible_mysql (by decide) (by decide)

/-! ## Ends of texts -/

/-- A text that neither begins nor ends with a blank. -/
structure Trimmed (s : String) : Prop where
  first : ∃ c, s.toList.head? = some c ∧ Text.isBlank c = false
  last : ∃ c, s.toList.getLast? = some c ∧ Text.isBlank c = false

namespace Trimmed

theorem strip_eq (h : Trimmed s) : Text.strip s = s := by
  obtain ⟨c, hfirst, hc⟩ := h.first
  obtain ⟨d, hlast, hd⟩ := h.last
  exact Text.strip_eq_self hfirst hlast hc hd

theorem append (hs : Trimmed s) (hu : Trimmed u) (between : String) :
    Trimmed (s ++ between ++ u) where
  first := by
    obtain ⟨c, hfirst, hc⟩ := hs.first
    exact ⟨c, by simp [hfirst], hc⟩
  last := by
    obtain ⟨c, hlast, hc⟩ := hu.last
    exact ⟨c, by simp [hlast], hc⟩

theorem quoted {q : Char} (hq : Text.isBlank q = false) (s : String) :
    Trimmed (Text.quoted q s) where
  first := ⟨q, by simp [Text.quoted], hq⟩
  last := ⟨q, by rw [toList_quoted, ← List.cons_append, List.getLast?_concat], hq⟩

end Trimmed

instance : DecidablePred Trimmed := fun s =>
  decidable_of_iff (s.toList.head?.any (fun c => !Text.isBlank c) = true ∧
    s.toList.getLast?.any (fun c => !Text.isBlank c) = true) <| by
  simp only [Option.any_eq_true, Bool.not_eq_true']
  exact ⟨fun h => ⟨h.1, h.2⟩, fun h => ⟨h.first, h.last⟩⟩

/-! ## Texts without keywords -/

/-- A text that needs no quotes. -/
structure IsBare (s : String) : Prop where
  plain : isPlainPhrase s.toList = true
  trimmed : Trimmed s

/-- A character of a string literal, escaped and with quotes doubled. -/
theorem hidden_escaped (c : Char) : Hidden .mysql (.quoted 0 '\x27')
    ((Printer.escaped c).flatMap fun x => if x == '\x27' then [x, x] else [x]) := by
  unfold Printer.escaped
  split
  case h_9 =>
    rw [List.flatMap_singleton]
    exact hidden_char rfl (by simp_all)
  -- An escaped character stands after a backslash, so the one after it never ends the literal.
  all_goals exact ⟨by decide, by decide⟩

/-- Nothing of a string literal is outer. -/
theorem hidden_string (s : String) : Hidden .mysql (.outside 0)
    (Text.quoted '\x27' (String.ofList (s.toList.flatMap Printer.escaped))).toList := by
  rw [toList_quoted, String.toList_ofList, List.flatMap_assoc]
  exact (Hidden.flatMap fun c _ => hidden_escaped c).inQuotes rfl

/-- Nothing of a name in quotes is outer. -/
theorem hidden_name (name : String) :
    Hidden .mysql (.outside 0) (Text.quoted '\x60' name).toList :=
  hidden_quoted rfl fun _ => rfl

/-- Trimmed texts without keywords: what a part of a condition is written as that is no condition
itself. -/
structure IsAtomic (s : String) : Prop where
  wordless : Wordless .mysql s.toList
  trimmed : Trimmed s

namespace IsAtomic

theorem bare (h : IsBare s) : IsAtomic s := ⟨.of_plain legible_mysql h.plain, h.trimmed⟩

theorem name (name : String) : IsAtomic (Text.quoted '\x60' name) :=
  ⟨.of_hidden (hidden_name name), .quoted (by decide) name⟩

theorem string (s : String) :
    IsAtomic (Text.quoted '\x27' (String.ofList (s.toList.flatMap Printer.escaped))) :=
  ⟨.of_hidden (hidden_string s), .quoted (by decide) _⟩

theorem path {names : List String} (hne : names ≠ []) (h : ∀ s ∈ names, IsAtomic s) :
    IsAtomic (".".intercalate names) := by
  induction names with
  | nil => exact absurd rfl hne
  | cons s names ih =>
    obtain ⟨hs, hnames⟩ := List.forall_mem_cons.mp h
    cases names with
    | nil => rwa [String.intercalate_singleton]
    | cons t names =>
      have hrest := ih (by simp) hnames
      rw [String.intercalate_cons_cons]
      refine ⟨?_, hs.trimmed.append hrest.trimmed "."⟩
      rw [String.toList_append, String.toList_append, List.append_assoc]
      exact hs.wordless.join legible_mysql (by decide) (by decide) hrest.wordless

theorem nameText {id : Ident} (h : (writer identify).needsQuotes id = true ∨ IsBare id.name) :
    IsAtomic (nameText identify id) := by
  rw [Condition.nameText]
  split
  · exact .name id.name
  · next hneeds =>
    have hbare : IsBare id.name := h.resolve_left hneeds
    have hquote : '\x60' ∉ id.name.toList := by
      intro hmem
      have hplain := (Bool.and_eq_true_iff.mp hbare.plain).1
      exact absurd (List.all_eq_true.mp hplain _ hmem) (by decide)
    rw [Text.doubled, doubled_of_not_mem hquote, String.ofList_toList]
    exact .bare hbare

/-- What stands in brackets after an atomic text may have any words in it. -/
theorem call (hs : IsAtomic s) (hu : Closed .mysql u.toList) :
    IsAtomic (s ++ "(" ++ u ++ ")") := by
  have hbrackets : Hidden .mysql (.outside 0) ('(' :: (u.toList ++ [')'])) :=
    hidden_brackets legible_mysql hu
  have hchars : (s ++ "(" ++ u ++ ")").toList = s.toList ++ '(' :: (u.toList ++ [')']) := by simp
  constructor
  · rw [hchars]
    exact hs.wordless.append (.of_hidden hbrackets) (head_isWord_of_hidden hbrackets)
  · have hends : s ++ "(" ++ u ++ ")" = s ++ ("(" ++ u) ++ ")" := by simp [String.append_assoc]
    rw [hends]
    exact hs.trimmed.append (by decide) _

theorem brackets (hs : Closed .mysql s.toList) : IsAtomic ("(" ++ s ++ ")") := by
  have hchars : ("(" ++ s ++ ")").toList = '(' :: (s.toList ++ [')']) := by simp
  constructor
  · rw [hchars]
    exact .of_hidden (hidden_brackets legible_mysql hs)
  · exact .append (by decide) (by decide) s

end IsAtomic

/-- Texts that close what they open, with plain characters between them. -/
theorem closed_intercalate {sep : String} {texts : List String}
    (hsep : sep.toList.all isPlain = true) (h : ∀ s ∈ texts, Closed .mysql s.toList) :
    Closed .mysql (sep.intercalate texts).toList := by
  induction texts with
  | nil => exact (rfl : Closed .mysql [])
  | cons s texts ih =>
    obtain ⟨hs, htexts⟩ := List.forall_mem_cons.mp h
    cases texts with
    | nil => rwa [String.intercalate_singleton]
    | cons t texts =>
      rw [String.intercalate_cons_cons, String.toList_append, String.toList_append]
      exact (hs.append (legible_mysql.after_plain hsep)).append (ih htexts)

/-- The characters of texts with a blank before each of them. -/
def spaced (texts : List String) : List Char := texts.flatMap fun s => ' ' :: s.toList

theorem toList_intercalate_spaced {texts : List String} :
    (" ".intercalate (s :: texts)).toList = s.toList ++ spaced texts := by
  induction texts generalizing s with
  | nil => simp [spaced]
  | cons t texts ih =>
    rw [String.intercalate_cons_cons, String.toList_append, String.toList_append, ih]
    simp [spaced]

theorem seam_spaced {texts : List String} :
    ∀ m ∈ (marks .mysql (spaced texts)).head?, m.isWord = false := by
  cases texts with
  | nil => simp [spaced, marks, scan]
  | cons s texts => exact legible_mysql.seam (by decide) (by decide)

theorem balanced_spaced {texts : List String} (h : ∀ s ∈ texts, Balanced .mysql s.toList) :
    Balanced .mysql (spaced texts) := by
  induction texts with
  | nil => exact (Wordless.of_plain legible_mysql (by decide)).balanced
  | cons s texts ih =>
    obtain ⟨hs, htexts⟩ := List.forall_mem_cons.mp h
    exact (hs.cons legible_mysql (by decide) (by decide)).append (ih htexts) seam_spaced

theorem toList_case {texts : List String} :
    (" ".intercalate ("CASE" :: texts ++ ["END"])).toList =
      caseWord ++ (spaced texts ++ ' ' :: endWord) := by
  rw [List.cons_append, toList_intercalate_spaced]
  simp [spaced]

theorem seam_case {texts : List String} :
    ∀ m ∈ (marks .mysql (spaced texts ++ ' ' :: endWord)).head?, m.isWord = false := by
  have hend : spaced texts ++ ' ' :: endWord = spaced (texts ++ ["END"]) := by simp [spaced]
  rw [hend]
  exact seam_spaced

/-- A text after a word that is no keyword. -/
theorem balanced_worded {w : String} (hw : isPlainPhrase w.toList = true)
    (hs : Balanced .mysql s.toList) : Balanced .mysql (w ++ " " ++ s).toList := by
  rw [String.toList_append, String.toList_append, List.append_assoc]
  exact balanced_blank (Wordless.of_plain legible_mysql hw).balanced hs

/-! ## Operands and bounds -/

def isBetween : Head → Bool
  | .between .. => true
  | _ => false

/-- Whether a node is written with an AND of its own. -/
def writesAnd (h : Head) : Bool := h.isAnd || isBetween h

/-- Whether an operator is the head, so that the operands stand side by side with it. -/
def isOperation : Head → Bool
  | .binary _ | .unary _ => true
  | _ => false

mutual

/-- Whether `p` holds of the head of the node or, if that is an operator, of the head of a node that
an operand exposes. What is in parentheses, in CASE or in a call is not exposed. -/
def exposes (p : Head → Bool) : Node → Bool
  | .mk h _ ps => p h || isOperation h && exposesAny p ps

/-- Whether one of the trees exposes a head of which `p` holds. -/
def exposesAny (p : Head → Bool) : List Node → Bool
  | [] => false
  | n :: ns => exposes p n || exposesAny p ns

end

/-- A column or a literal. A name is bare or in quotes. -/
inductive Operand (identify : Bool) : Node → Prop
  | column {path : List Ident} (hpath : path ≠ [])
      (hnames : ∀ id ∈ path, (writer identify).needsQuotes id = true ∨ IsBare id.name) :
      Operand identify (.of (.column path) [])
  | number {s : String} (hs : IsBare s) : Operand identify (.of (.number s) [])
  | string (s : String) : Operand identify (.of (.string s) [])
  | null : Operand identify (.of .null [])
  | boolean (b : Bool) : Operand identify (.of (.boolean b) [])

/-- A tree of conditions over columns and literals. A call that stays one of the same arguments has
a name that is bare or in quotes. What MySQL has another form for, such as IF, is as good as that
form if it exposes as much. -/
inductive Bound (identify : Bool) : Node → Prop
  | operand {n : Node} (hn : Operand identify n) : Bound identify n
  | binary {op : BinaryOp} {a b : Node} (hop : op ∈ comparisons ++ connectors)
      (ha : Bound identify a) (hb : Bound identify b) : Bound identify (.of (.binary op) [a, b])
  | not {a : Node} (ha : Bound identify a) : Bound identify (.of (.unary .not) [a])
  | between {a low high : Node} (symmetric : Option Bool) (guarded : Bool)
      (ha : Bound identify a) (hlow : Bound identify low) (hhigh : Bound identify high) :
      Bound identify (.of (.between symmetric guarded) [a, low, high])
  | paren {a : Node} (ha : Bound identify a) : Bound identify (.of .paren [a])
  | caseOf {operand other : Option Node} {arms : List (Node × Node)}
      (hoperand : ∀ n ∈ operand, Bound identify n) (hwhen : ∀ arm ∈ arms, Bound identify arm.1)
      (hthen : ∀ arm ∈ arms, Bound identify arm.2) (hother : ∀ n ∈ other, Bound identify n) :
      Bound identify (caseOf operand arms other)
  | call {f g : Function} {name : String} {ns : List Node}
      (hkept : fitted (.of (.call f) ns) = .of (.call g) (ns.map fitted))
      (hname : callName? g = some name) (hbare : IsBare name ∨ ∃ word, g = .unknown word true)
      (hns : ∀ n ∈ ns, Bound identify n) : Bound identify (.of (.call f) ns)
  | rewritten {n m : Node} (hsame : ∀ site, Lowering.lowerIn .mysql site n = fitted m)
      (hm : Bound identify m) (hn : exposes writesAnd n = exposes writesAnd m) : Bound identify n

/-- What is written for a column or a literal. -/
theorem Operand.isAtomic (hn : Operand identify n) :
    Writes identify n (text identify n) ∧ IsAtomic (text identify n) := by
  have hself {s : String} (hwrites : Writes identify n s) (hs : IsAtomic s) :
      Writes identify n (text identify n) ∧ IsAtomic (text identify n) := by
    rw [hwrites.text_eq]
    exact ⟨hwrites, hs⟩
  cases hn with
  | column hpath hnames =>
    refine hself (.column _) (.path (by simpa using hpath) ?_)
    simp only [List.forall_mem_map]
    exact fun id hid => .nameText (hnames id hid)
  | number hs => exact hself (.number _) (.bare hs)
  | string s => exact hself (.string s) (.string s)
  | null => exact hself .null (.bare ⟨by decide, by decide⟩)
  | boolean b =>
    cases b with
    | false => exact hself (.boolean false) (.bare ⟨by decide, by decide⟩)
    | true => exact hself (.boolean true) (.bare ⟨by decide, by decide⟩)

/-! ## Where AND stands in a text -/

mutual

theorem any_of_exposes {p : Head → Bool} :
    ∀ {n : Node}, exposes p n = true → n.any p = true
  | .mk h _ ps, hn => by
    simp only [exposes, Bool.or_eq_true, Bool.and_eq_true] at hn
    simp only [Node.any, Bool.or_eq_true]
    exact hn.imp_right fun hps => anyOfList_of_exposesAny hps.2

theorem anyOfList_of_exposesAny {p : Head → Bool} :
    ∀ {ns : List Node}, exposesAny p ns = true → Node.anyOfList p ns = true
  | [], hns => by simp [exposesAny] at hns
  | n :: ns, hns => by
    simp only [exposesAny, Bool.or_eq_true] at hns
    simp only [Node.anyOfList, Bool.or_eq_true]
    exact hns.imp any_of_exposes anyOfList_of_exposesAny

end

mutual

/-- A node of one of two kinds is exposed if one of either kind is. -/
theorem exposes_or {p q : Head → Bool} :
    ∀ n : Node, exposes (fun h => p h || q h) n = (exposes p n || exposes q n)
  | .mk h _ ps => by
    rw [exposes, exposes, exposes, exposesAny_or ps]
    cases p h <;> cases q h <;> cases isOperation h <;> simp

theorem exposesAny_or {p q : Head → Bool} :
    ∀ ns : List Node, exposesAny (fun h => p h || q h) ns = (exposesAny p ns || exposesAny q ns)
  | [] => rfl
  | n :: ns => by
    rw [exposesAny, exposesAny, exposesAny, exposes_or n, exposesAny_or ns]
    ac_rfl

end

theorem exposes_binary {p : Head → Bool} {op : BinaryOp} :
    exposes p (.of (.binary op) [a, b]) = (p (.binary op) || (exposes p a || exposes p b)) := by
  simp [Node.of, exposes, exposesAny, isOperation]

theorem exposes_unary {p : Head → Bool} {op : UnaryOp} :
    exposes p (.of (.unary op) [a]) = (p (.unary op) || exposes p a) := by
  simp [Node.of, exposes, exposesAny, isOperation]

theorem Operand.exposes_writesAnd (hn : Operand identify n) : exposes writesAnd n = false := by
  cases hn <;> rfl

/-- Every operator but AND is written without keywords. -/
theorem wordless_symbol {op : BinaryOp} (hop : op ∈ comparisons ++ connectors) (hne : op ≠ .and) :
    Wordless .mysql (op.symbol .mysql).toList :=
  .of_plain legible_mysql ((by decide : ∀ op ∈ comparisons ++ connectors, op ≠ .and →
    isPlainPhrase (op.symbol .mysql).toList = true) op hop hne)

theorem balanced_symbol {op : BinaryOp} (hop : op ∈ comparisons ++ connectors) :
    Balanced .mysql (op.symbol .mysql).toList := by
  by_cases hand : op = .and
  · subst hand
    exact .separator legible_mysql (by decide)
  · exact (wordless_symbol hop hand).balanced

theorem noAnd_symbol_iff {op : BinaryOp} (hop : op ∈ comparisons ++ connectors) :
    NoAnd .mysql (op.symbol .mysql).toList ↔ (Head.binary op).isAnd = false := by
  by_cases hand : op = .and
  · subst hand
    exact iff_of_false (not_noAnd_and legible_mysql) (by decide)
  · refine iff_of_true (wordless_symbol hop hand).noAnd ?_
    exact (by decide : ∀ op ∈ comparisons ++ connectors, op ≠ .and →
      (Head.binary op).isAnd = false) op hop hand

/-- The text of a condition: what it is, and where AND is outside in it. -/
structure IsWritten (identify : Bool) (n : Node) (s : String) : Prop extends
    Writes identify n s where
  balanced : Balanced .mysql s.toList
  trimmed : Trimmed s
  noAnd_iff : NoAnd .mysql s.toList ↔ exposes writesAnd n = false

namespace IsWritten

theorem atomic (hwrites : Writes identify n s) (hs : IsAtomic s)
    (hn : exposes writesAnd n = false) : IsWritten identify n s where
  toWrites := hwrites
  balanced := hs.wordless.balanced
  trimmed := hs.trimmed
  noAnd_iff := iff_of_true hs.wordless.noAnd hn

theorem binary {op : BinaryOp} (hop : op ∈ comparisons ++ connectors)
    (ha : IsWritten identify a s) (hb : IsWritten identify b u) :
    IsWritten identify (.of (.binary op) [a, b]) (s ++ " " ++ op.symbol .mysql ++ " " ++ u) := by
  have hchars : (s ++ " " ++ op.symbol .mysql ++ " " ++ u).toList =
      s.toList ++ ' ' :: ((op.symbol .mysql).toList ++ ' ' :: u.toList) := by simp
  have hsymbol : Balanced .mysql (op.symbol .mysql).toList := balanced_symbol hop
  refine ⟨ha.toWrites.binary hb.toWrites hop, ?_, ?_, ?_⟩
  · rw [hchars]
    exact balanced_blank ha.balanced (balanced_blank hsymbol hb.balanced)
  · have hends : s ++ " " ++ op.symbol .mysql ++ " " ++ u =
        s ++ (" " ++ op.symbol .mysql ++ " ") ++ u := by simp [String.append_assoc]
    rw [hends]
    exact ha.trimmed.append hb.trimmed _
  · have hhead : writesAnd (.binary op) = (Head.binary op).isAnd := Bool.or_false _
    rw [hchars, noAnd_blank ha.balanced, noAnd_blank hsymbol, ha.noAnd_iff, hb.noAnd_iff,
      noAnd_symbol_iff hop, exposes_binary, Bool.or_eq_false_iff, Bool.or_eq_false_iff, hhead]
    exact and_left_comm

theorem not (ha : IsWritten identify a s) :
    IsWritten identify (.of (.unary .not) [a]) ("NOT " ++ s) := by
  have hword : Wordless .mysql ['N', 'O', 'T'] := .of_plain legible_mysql (by decide)
  have hchars : ("NOT " ++ s).toList = ['N', 'O', 'T'] ++ ' ' :: s.toList := by simp
  refine ⟨ha.toWrites.not, ?_, ?_, ?_⟩
  · rw [hchars]
    exact balanced_blank hword.balanced ha.balanced
  · exact .append (s := "NOT") (by decide) ha.trimmed " "
  · rw [hchars, noAnd_blank hword.balanced, and_iff_right hword.noAnd, ha.noAnd_iff, exposes_unary]
    rfl

theorem paren (ha : IsWritten identify a s) :
    IsWritten identify (.of .paren [a]) ("(" ++ s ++ ")") :=
  .atomic ha.toWrites.paren (.brackets ha.balanced.closed) rfl

theorem call {f g : Function} {name : String}
    (hkept : fitted (.of (.call f) ns) = .of (.call g) (ns.map fitted))
    (hname : callName? g = some name) (hbare : IsBare name ∨ ∃ word, g = .unknown word true)
    (hns : ∀ n ∈ ns, IsWritten identify n (text identify n)) :
    IsWritten identify (.of (.call f) ns)
      (name ++ "(" ++ ", ".intercalate (ns.map (text identify)) ++ ")") := by
  have hatomic : IsAtomic name := by
    obtain hbare | ⟨word, rfl⟩ := hbare
    · exact .bare hbare
    · obtain rfl := Option.some.inj hname
      exact .name word
  have hargs : Closed .mysql (", ".intercalate (ns.map (text identify))).toList :=
    closed_intercalate (by decide) (by simpa using fun n hn => (hns n hn).balanced.closed)
  exact .atomic (.call (fun n hn => (hns n hn).toWrites) hkept hname) (hatomic.call hargs) rfl

/-- A bound in parentheses or not. -/
theorem balanced_guarded (guarded : Bool) (ha : IsWritten identify a s) :
    Balanced .mysql (guardedText guarded s).toList := by
  cases guarded with
  | false => exact ha.balanced
  | true => exact (IsAtomic.brackets ha.balanced.closed).wordless.balanced

theorem between {low high : Node} {v : String} (ha : IsWritten identify a s)
    (hlow : IsWritten identify low u) (hhigh : IsWritten identify high v) (symmetric : Option Bool)
    (guarded : Bool) : IsWritten identify (.of (.between symmetric guarded) [a, low, high])
      (s ++ " BETWEEN " ++ guardedText (Lowering.guardsBound [a, low, high]) u ++ " AND " ++
        v) := by
  have hbound := hlow.balanced_guarded (Lowering.guardsBound [a, low, high])
  have hwrites := ha.toWrites.between hlow.toWrites hhigh.toWrites symmetric guarded
  generalize guardedText (Lowering.guardsBound [a, low, high]) u = bound at hbound hwrites ⊢
  have hchars : (s ++ " BETWEEN " ++ bound ++ " AND " ++ v).toList = s.toList ++
      ' ' :: (betweenWord ++ ' ' :: (bound.toList ++ ' ' :: (andWord ++ ' ' :: v.toList))) := by
    simp
  have hbetween : Balanced .mysql betweenWord := .separator legible_mysql (by decide)
  have hand : Balanced .mysql andWord := .separator legible_mysql (by decide)
  refine ⟨hwrites, ?_, ?_, iff_of_false ?_ (by simp [Node.of, exposes, writesAnd, isBetween])⟩
  · rw [hchars]
    exact balanced_blank ha.balanced
      (balanced_blank hbetween (balanced_blank hbound (balanced_blank hand hhigh.balanced)))
  · have hends : s ++ " BETWEEN " ++ bound ++ " AND " ++ v =
        s ++ (" BETWEEN " ++ bound ++ " AND ") ++ v := by simp [String.append_assoc]
    rw [hends]
    exact ha.trimmed.append hhigh.trimmed _
  · rw [hchars, noAnd_blank ha.balanced, noAnd_blank hbetween, noAnd_blank hbound,
      noAnd_blank hand]
    exact fun h => not_noAnd_and legible_mysql h.2.2.2.1

theorem caseOf {operand other : Option Node} {arms : List (Node × Node)}
    (hoperand : ∀ n ∈ operand, IsWritten identify n (text identify n))
    (hwhen : ∀ arm ∈ arms, IsWritten identify arm.1 (text identify arm.1))
    (hthen : ∀ arm ∈ arms, IsWritten identify arm.2 (text identify arm.2))
    (hother : ∀ n ∈ other, IsWritten identify n (text identify n)) :
    IsWritten identify (caseOf operand arms other)
      (" ".intercalate ("CASE" :: caseTexts identify operand arms other ++ ["END"])) := by
  have htexts : ∀ s ∈ caseTexts identify operand arms other, Balanced .mysql s.toList := by
    intro s hs
    obtain hs | hs := List.mem_append.mp hs
    · obtain ⟨n, hn, rfl⟩ := Option.map_eq_some_iff.mp (Option.mem_toList.mp hs)
      exact (hoperand n hn).balanced
    · obtain ⟨n, hn, hs⟩ := List.mem_flatMap.mp hs
      obtain hn | hn := List.mem_append.mp hn
      · obtain ⟨arm, harm, rfl⟩ := List.mem_map.mp hn
        obtain rfl | rfl : s = _ ∨ s = _ := by simpa [Node.of, phrases] using hs
        · exact balanced_worded (w := "WHEN") (by decide) (hwhen arm harm).balanced
        · exact balanced_worded (w := "THEN") (by decide) (hthen arm harm).balanced
      · obtain ⟨m, hm, rfl⟩ := Option.map_eq_some_iff.mp (Option.mem_toList.mp hn)
        obtain rfl : s = _ := by simpa [Node.of, phrases] using hs
        exact balanced_worded (w := "ELSE") (by decide) (hother m hm).balanced
  refine ⟨.caseOf (fun arm harm => ⟨(hwhen arm harm).toWrites, (hthen arm harm).toWrites⟩)
    (fun n hn => (hother n hn).toWrites) (fun n hn => (hoperand n hn).toWrites), ?_, ?_, ?_⟩
  · rw [toList_case]
    exact (balanced_spaced htexts).caseOf legible_mysql seam_case
  · refine ⟨⟨'C', ?_, by decide⟩, ⟨'D', ?_, by decide⟩⟩ <;> rw [toList_case]
    · rfl
    · rw [← List.append_assoc, List.getLast?_append_of_ne_nil _ (List.cons_ne_nil _ _)]
      rfl
  · rw [toList_case]
    exact iff_of_true (noAnd_caseOf legible_mysql (balanced_spaced htexts) seam_case) rfl

theorem rewritten (hs : IsWritten identify a s)
    (hsame : ∀ site, Lowering.lowerIn .mysql site n = fitted a)
    (hn : exposes writesAnd n = exposes writesAnd a) : IsWritten identify n s where
  toWrites := hs.toWrites.rewritten hsame
  balanced := hs.balanced
  trimmed := hs.trimmed
  noAnd_iff := by rw [hs.noAnd_iff, hn]

/-- There is only one text. -/
theorem self (h : IsWritten identify n s) : IsWritten identify n (text identify n) := by
  rw [h.text_eq]
  exact h

end IsWritten

/-- What is written for a bound. -/
theorem Bound.isWritten (hn : Bound identify n) : IsWritten identify n (text identify n) := by
  induction hn with
  | operand hn => exact .atomic hn.isAtomic.1 hn.isAtomic.2 hn.exposes_writesAnd
  | binary hop _ _ iha ihb => exact (IsWritten.binary hop iha ihb).self
  | not _ ih => exact ih.not.self
  | between symmetric guarded _ _ _ iha ihlow ihhigh =>
    exact (iha.between ihlow ihhigh symmetric guarded).self
  | paren _ ih => exact ih.paren.self
  | caseOf _ _ _ _ ihoperand ihwhen ihthen ihother =>
    exact (IsWritten.caseOf ihoperand ihwhen ihthen ihother).self
  | call hkept hname hbare _ ih => exact (IsWritten.call hkept hname hbare ih).self
  | rewritten hsame _ hn ih => exact (ih.rewritten hsame hn).self

/-- IF is written as CASE. -/
theorem Bound.ifThen {condition value other : Node} (hcondition : Bound identify condition)
    (hvalue : Bound identify value) (hother : Bound identify other) :
    Bound identify (.of .ifThen [condition, value, other]) := by
  have hbound : Bound identify (Condition.caseOf none [(condition, value)] (some other)) :=
    .caseOf (by simp) (by simpa using hcondition) (by simpa using hvalue) (by simpa using hother)
  have hc : Fits condition := hcondition.isWritten.toFits
  have hv : Fits value := hvalue.isWritten.toFits
  have ho : Fits other := hother.isWritten.toFits
  have harm : fitted (.of .caseArm [condition, value]) =
      .of .caseArm [fitted condition, fitted value] :=
    fitted_node (by simp [hc, hv]) fun _ => rfl
  have helse : fitted (.of .caseElse [other]) = .of .caseElse [fitted other] :=
    fitted_node (by simp [ho]) fun _ => rfl
  have hclauses : ∀ n ∈ [.of .caseArm [condition, value], .of .caseElse [other]], Fits n := by
    simp only [List.forall_mem_cons]
    exact ⟨.node (by simp [hc, hv]) (fun _ => rfl) rfl, .node (by simp [ho]) (fun _ => rfl) rfl,
      by simp⟩
  -- CASE is fitted by fitting its parts, so it comes to what IF is rewritten as.
  have hcase : fitted (Condition.caseOf none [(condition, value)] (some other)) = .of .caseOf
      [.of .caseArm [fitted condition, fitted value], .of .caseElse [fitted other]] := by
    rw [← harm, ← helse]
    exact fitted_node hclauses fun _ => rfl
  refine .rewritten (fun site => ?_) hbound rfl
  rw [hcase]
  change Lowering.fit .mysql site .ifThen []
    (Lowering.lowerAll .mysql (site.inside .ifThen) [condition, value, other]) = _
  rw [lowerAll_eq_map (by simp [hc, hv, ho])]
  rfl

/-! ## Reading the bound -/

theorem print_eq_text (h : IsWritten identify n s) : (writer identify).print n = s := by
  change Text.strip (text identify n) = s
  rw [h.text_eq, h.trimmed.strip_eq]

section Between

variable {this low high : Node} {symmetric : Option Bool} {guarded : Bool}
  (hthis : Operand identify this) (hlow : Bound identify low) (hhigh : Operand identify high)

/-- In a bound that is not put in parentheses, an AND is outside exactly if a BETWEEN is exposed and
no AND is in the tree. -/
theorem Bound.noAnd_iff (hlow : Bound identify low)
    (hguard : Lowering.guardsBound [this, low, high] = false) :
    NoAnd .mysql (text identify low).toList ↔
      low.any Head.isAnd = true ∨ exposes isBetween low = false := by
  have hexposes : exposes writesAnd low = (exposes Head.isAnd low || exposes isBetween low) :=
    exposes_or low
  rw [hlow.isWritten.noAnd_iff, hexposes, Bool.or_eq_false_iff]
  rw [Lowering.guardsBound, Bool.and_eq_false_iff] at hguard
  obtain hparen | hany := hguard
  · -- A bound in parentheses exposes nothing.
    obtain ⟨h, c, ps⟩ := low
    obtain rfl : h = .paren := by simpa [Node.head] using hparen
    exact iff_of_true ⟨rfl, rfl⟩ (.inr rfl)
  · have hand : exposes Head.isAnd low = false := by
      rw [Bool.eq_false_iff] at hany ⊢
      exact fun h => hany (any_of_exposes h)
    simp [hany, hand]

include hthis hlow hhigh in
/-- MySQL's BETWEEN is read with its lower bound as it is written alone, perhaps in parentheses,
exactly if the bound has an AND in it anywhere or no BETWEEN that is exposed. -/
theorem readBetween_print_iff :
    (∃ bound, (bound = (writer identify).print low ∨
          bound = "(" ++ (writer identify).print low ++ ")") ∧
        readBetween .mysql
          ((writer identify).print (.of (.between symmetric guarded) [this, low, high])) =
            some ((writer identify).print this ++ " ", " " ++ bound ++ " ",
              " " ++ (writer identify).print high)) ↔
      low.any Head.isAnd = true ∨ exposes isBetween low = false := by
  have hwritten := (Bound.operand hthis).isWritten.between hlow.isWritten
    (Bound.operand hhigh).isWritten symmetric guarded
  rw [print_eq_text hwritten, print_eq_text (Bound.operand hthis).isWritten,
    print_eq_text hlow.isWritten, print_eq_text (Bound.operand hhigh).isWritten]
  have hword : Wordless .mysql (text identify this).toList := hthis.isAtomic.2.wordless
  cases hguard : Lowering.guardsBound [this, low, high] with
  | true =>
    have hbrackets : IsAtomic ("(" ++ text identify low ++ ")") :=
      .brackets hlow.isWritten.balanced.closed
    have hand : low.any Head.isAnd = true := (Bool.and_eq_true_iff.mp hguard).2
    refine iff_of_true ⟨_, .inr rfl, ?_⟩ (.inl hand)
    exact readBetween_of_noAnd legible_mysql hword hbrackets.wordless.balanced
      hbrackets.wordless.noAnd
  | false =>
    rw [← hlow.noAnd_iff hguard]
    constructor
    · rintro ⟨bound, hbound, hread⟩
      have hle : (text identify low).length ≤ bound.length := by
        obtain rfl | rfl := hbound
        · exact le_rfl
        · simp
          omega
      exact noAnd_of_readBetween legible_mysql hword hlow.isWritten.balanced hle hread
    · intro hnone
      exact ⟨_, .inl rfl,
        readBetween_of_noAnd legible_mysql hword hlow.isWritten.balanced hnone⟩

end Between

/-! ## Bounds with BETWEEN -/

abbrev columnNamed (name : String) : Node := .of (.column [⟨name, false⟩]) []

/-- A column between two numbers. -/
abbrev inRange (name low high : String) : Node :=
  .of (.between none false) [columnNamed name, .of (.number low) [], .of (.number high) []]

theorem operand_columnNamed {name : String} (hname : IsBare name) :
    Operand identify (columnNamed name) :=
  .column (List.cons_ne_nil _ _) (by simpa using .inr hname)

theorem bound_inRange {name low high : String} (hname : IsBare name) (hlow : IsBare low)
    (hhigh : IsBare high) : Bound identify (inRange name low high) :=
  .between none false (.operand (operand_columnNamed hname)) (.operand (.number hlow))
    (.operand (.number hhigh))

/-- A bound whose BETWEENs are all hidden, in CASE, in a call and in parentheses:
`IF(x = 'a'' AND b', CASE WHEN x BETWEEN 1 AND 2 THEN COALESCE(…) END, NULL)`. -/
def hiddenBetweens : Node :=
  .of .ifThen [.of (.binary .equal) [columnNamed "x", .of (.string "a' AND b") []],
    caseOf none [(inRange "x" "1" "2", .of (.call (.known "COALESCE" "COALESCE"))
      [inRange "y" "3" "4", .of (.unary .not) [.of .paren [inRange "z" "5" "6"]]])] none,
    .of .null []]

theorem bound_hiddenBetweens : Bound false hiddenBetweens := by
  have hx : IsBare "x" := ⟨by decide, by decide⟩
  have hfirst : Bound false (inRange "x" "1" "2") :=
    bound_inRange hx ⟨by decide, by decide⟩ ⟨by decide, by decide⟩
  have hsecond : Bound false (inRange "y" "3" "4") :=
    bound_inRange ⟨by decide, by decide⟩ ⟨by decide, by decide⟩ ⟨by decide, by decide⟩
  have hthird : Bound false (inRange "z" "5" "6") :=
    bound_inRange ⟨by decide, by decide⟩ ⟨by decide, by decide⟩ ⟨by decide, by decide⟩
  have hname : callName? (.known "COALESCE" "COALESCE") = some "COALESCE" := by decide
  have hcall : Bound false (.of (.call (.known "COALESCE" "COALESCE"))
      [inRange "y" "3" "4", .of (.unary .not) [.of .paren [inRange "z" "5" "6"]]]) :=
    .call (g := .known "COALESCE" "COALESCE") rfl hname (.inl ⟨by decide, by decide⟩)
      (by simp [hsecond, hthird.paren.not])
  have hcase : Bound false (caseOf none [(inRange "x" "1" "2", _)] none) :=
    .caseOf (by simp) (by simpa using hfirst) (by simpa using hcall) (by simp)
  exact .ifThen (.binary (by decide) (.operand (operand_columnNamed hx)) (.operand (.string _)))
    hcase (.operand .null)

theorem readBetween_hiddenBetweens :
    Operand false (columnNamed "x") ∧ Bound false hiddenBetweens ∧
      Operand false (.of (.string "AND") []) ∧
      ∃ bound, (bound = (writer false).print hiddenBetweens ∨
          bound = "(" ++ (writer false).print hiddenBetweens ++ ")") ∧
        readBetween .mysql ((writer false).print (.of (.between none false)
          [columnNamed "x", hiddenBetweens, .of (.string "AND") []])) =
            some ((writer false).print (columnNamed "x") ++ " ", " " ++ bound ++ " ",
              " " ++ (writer false).print (.of (.string "AND") [])) := by
  have hx : Operand false (columnNamed "x") := operand_columnNamed ⟨by decide, by decide⟩
  exact ⟨hx, bound_hiddenBetweens, .string "AND",
    (readBetween_print_iff hx bound_hiddenBetweens (.string "AND")).mpr (.inr rfl)⟩

/-- The AND of a BETWEEN in the bound is taken for the one between the bounds. -/
theorem readBetween_inRange :
    Bound false (inRange "x" "1" "2") ∧
      (writer false).print (.of (.between none false)
        [columnNamed "x", inRange "x" "1" "2", columnNamed "d"]) =
          "x BETWEEN x BETWEEN 1 AND 2 AND d" ∧
      readBetween .mysql "x BETWEEN x BETWEEN 1 AND 2 AND d" =
        some ("x ", " x BETWEEN 1 ", " 2 AND d") :=
  ⟨bound_inRange ⟨by decide, by decide⟩ ⟨by decide, by decide⟩ ⟨by decide, by decide⟩,
    by decide, by decide⟩

end Condition

end SemanticLayer.Sql
