import SemanticLayer.Proofs.ArithmeticText
import SemanticLayer.Proofs.SelectFrom

/-!
# Cutting numbers

Oracle's TRUNC cuts dates and numbers alike. It is read as a cut of a date to whole days, and the
unit that was filled in is left out again where the argument is a number. Only the outermost node of
the argument is looked at, apart from minus signs before a literal.

`Numeric` are the trees that are numbers by their structure, with what is around the number inside.
`numeric_trunc_stable` says which of them keep one argument, and that reading and writing once more
changes nothing.
-/

namespace SemanticLayer.Sql.Parser

open Rule (Leaves)

variable {c d : Cursor} {R : Rules} {m : Nat} {n e : Node} {t f l r : Token} {ts us : List Token}
  {s : String}

/-! ## TRUNC is read -/

/-- A cut to whole days, which is also what TRUNC without a unit is. -/
def truncDays (e : Node) : Node := .of (.call (.dateTrunc false)) [e, .text "DD"]

theorem truncDays_scalar : IsScalar (truncDays e) := .of_head rfl

theorem unary_string (hR : R.grammar = .oracle) (hc : c.Quiet) (hr : c.rest = t :: ts)
    (hkind : t.kind = .string) (hk : t.key = "") (hd : (c.past t ts).EndsBy operandEnds) :
    (unary R).Leaves c (some (.of (.string t.text) [])) (c.past t ts) := by
  have hword : t.isWord = false := by simp [Token.isWord, hkind]
  refine unary_of_field hR hr (by simp [hk]) (by simp [hword]) ?_ hd
  have hadvance : (advance : Rule .operand Unit).Leaves c () (c.past t ts) :=
    .advance hr (by simp [Scope.passes, Token.opens, Token.closes, endsOperand, hk])
  refine Leaves.bind (a := some (.of (.string t.text) [])) (Leaves.bind .peek ?_) .pure
  rw [hr]
  dsimp only [List.head?_cons]
  rw [namesCharacterSet, hword, Bool.false_and, Bool.false_and, if_neg Bool.false_ne_true]
  refine Leaves.bind .peek ?_
  rw [hr]
  dsimp only [List.head?_cons]
  rw [hkind]
  have hstring : stringLiteral.Leaves c (some (.of (.string t.text) [])) (c.past t ts) := by
    refine Leaves.bind .peek ?_
    rw [hr]
    dsimp only [List.head?_cons]
    rw [if_pos (by simp [hkind])]
    exact Leaves.bind hadvance (Leaves.bind (.node (hc.past hr).pending) .pure)
  refine Leaves.bind hstring (Leaves.bind (a := []) (.chain_of_none ?_) .pure)
  -- No string follows.
  refine Leaves.bind (a := none) (Leaves.bind .peek ?_) .pure
  cases hts : (c.past t ts).rest with
  | nil => exact .pure
  | cons u us =>
    dsimp only [List.head?_cons]
    rw [if_neg (by simp [(hd u (by simp [hts])).1])]
    exact .pure

theorem isPhrase_string (hkind : t.kind = .string) (hk : t.key = "") :
    IsPhrase .operand [t] (.of (.string t.text) []) :=
  .of_token (.of_head rfl) (by rw [hk]; decide) (by rw [hk]; decide)
    fun hc hr hend => unary_string rules_grammar hc hr hkind hk hend

theorem callOf_trunc {name : String} (hname : Text.upper name = "TRUNC") :
    callOf .oracle ⟨name, false⟩ [e] = some (truncDays e) ∧
      callOf .oracle ⟨name, false⟩ [e, .text "DD"] = some (truncDays e) := by
  unfold callOf
  dsimp only
  rw [hname]
  exact ⟨rfl, rfl⟩

theorem length_le_tokenCount (ts : List Token) : ts.length ≤ tokenCount ts := by
  have hfold (n : Nat) : n + ts.length ≤
      ts.foldl (fun n t => n + 1 + if t.key == "/*+" then t.text.length else 0) n := by
    induction ts generalizing n with
    | nil => exact Nat.le_refl n
    | cons t ts ih =>
      refine Nat.le_trans ?_ (ih _)
      rw [List.length_cons]
      dsimp only
      omega
  have h := hfold 0
  rwa [Nat.zero_add] at h

/-- A statement that is only a call of TRUNC. -/
theorem parseTokens_trunc (hf : SpellsWord f "TRUNC") (h : IsPhrase .operand (f :: ts) n)
    (hcomments : ∀ t ∈ f :: ts, t.comments = []) :
    parseTokens .oracle (f :: ts) = .ok (some n) := by
  obtain ⟨c, hc⟩ : ∃ c : Cursor, c = { rest := f :: ts } := ⟨_, rfl⟩
  have hrest : c.rest = f :: ts ++ [] := by simp [hc]
  have hquiet : c.Quiet := by
    subst hc
    exact ⟨rfl, by simp, h.clean hcomments⟩
  have hafter := Cursor.rest_after hrest
  have hend : (c.after (f :: ts)).EndsBy expressionEnds := by
    intro u hu
    simp [hafter] at hu
  obtain ⟨m, hm, hlength⟩ : ∃ m, depthBound (tokenCount (f :: ts)) = m + 2 ∧
      (f :: ts).length ≤ m := by
    refine ⟨8 * tokenCount (f :: ts) + 30, by rw [depthBound], ?_⟩
    have := length_le_tokenCount (f :: ts)
    omega
  have hstatement : (rules .oracle (m + 2)).statement.Leaves c (some n) (c.after (f :: ts)) := by
    have hexpression := h.isRead.one.expression hlength hquiet hrest hend
    have hsets : ((rules .oracle (m + 1)).setOperations n).Leaves (c.after (f :: ts)) n
        (c.after (f :: ts)) := setOperations_ends hend h.scalar
    have hclauses : ((rules .oracle (m + 1)).clauses n).Leaves (c.after (f :: ts)) n
        (c.after (f :: ts)) := clauses_leaves h.scalar
    refine Leaves.bind .peek ?_
    rw [hrest]
    dsimp only [List.cons_append, List.head?_cons]
    rw [hf.key]
    refine Leaves.bind (Leaves.bind .peekSecondKey .pure) ?_
    have hbody (b : Bool) : (if b then statementBody? (rules .oracle (m + 1)) "TRUNC" else none) =
        none := by
      cases b <;> rfl
    simp only [hbody]
    refine Leaves.bind hexpression.toStatement (Leaves.bind hsets.toStatement ?_)
    exact Leaves.bind .pure (Leaves.bind hclauses.toStatement .pure)
  have hrun : parseTokens.run .oracle (f :: ts) = .ok (some n) := by
    have hrun : (rules .oracle (m + 2)).statement.run c = .ok (some n, c.after (f :: ts)) :=
      hstatement
    unfold parseTokens.run
    dsimp only
    rw [hm, ← hc, hrun]
    change (if (c.after (f :: ts)).rest.isEmpty = true then _ else _) = _
    rw [hafter]
    rfl
  unfold parseTokens
  split
  · next heq =>
    obtain ⟨rfl, -⟩ := List.cons.inj heq
    rw [if_neg (by simp [hf.key]), hrun]
  · exact hrun

/-- A text that is only a call of TRUNC. -/
theorem parseOne_trunc (htokens : Lexer.tokenize .oracle s = some (f :: ts))
    (hf : SpellsWord f "TRUNC") (h : IsPhrase .operand (f :: ts) n)
    (hcomments : ∀ t ∈ f :: ts, t.comments = []) : parseOne .oracle s = .ok n := by
  have hparse : parse .oracle s = some [n] := by
    unfold parse
    rw [htokens, Option.bind_eq_bind, Option.bind_some,
      split_of_forall (by simp) fun t ht => (h.clean hcomments t ht).semicolon, List.mapM_cons,
      List.mapM_nil, parseTokens_trunc hf h hcomments]
    rfl
  rw [parseOne, hparse]

/-- The tokens are a call of TRUNC. -/
structure CallsTrunc (toks inner : List Token) : Prop where
  spelled : ∃ f l r, toks = f :: l :: (inner ++ [r]) ∧ SpellsWord f "TRUNC" ∧ IsMark l "(" ∧
    IsMark r ")"
  comments : ∀ t ∈ toks, t.comments = []

namespace CallsTrunc

variable {toks : List Token}

/-- TRUNC of an expression is a cut to whole days. -/
theorem parseOne_days (h : CallsTrunc toks ts) (he : IsPhrase .product ts e)
    (htokens : Lexer.tokenize .oracle s = some toks) : parseOne .oracle s = .ok (truncDays e) := by
  obtain ⟨⟨f, l, r, rfl, hf, hl, hr⟩, hcomments⟩ := h
  exact parseOne_trunc htokens hf
    (.call_one (by decide) hf hl he hr (callOf_trunc hf.text).1 truncDays_scalar) hcomments

/-- TRUNC of an expression with the unit of days. -/
theorem parseOne_unit {o u : Token} (h : CallsTrunc toks (ts ++ o :: [u]))
    (he : IsPhrase .product ts e) (ho : IsMark o ",")
    (hu : u.kind = .string ∧ u.key = "" ∧ u.text = "DD")
    (htokens : Lexer.tokenize .oracle s = some toks) : parseOne .oracle s = .ok (truncDays e) := by
  obtain ⟨⟨f, l, r, rfl, hf, hl, hr⟩, hcomments⟩ := h
  rw [List.append_assoc] at htokens hcomments
  have hunit : IsPhrase .product [u] (.text "DD") := hu.2.2 ▸ (isPhrase_string hu.1 hu.2.1).one
  exact parseOne_trunc htokens hf
    (.call_two (by decide) hf hl he ho hunit hr (callOf_trunc hf.text).2 truncDays_scalar) hcomments

end CallsTrunc

end SemanticLayer.Sql.Parser

namespace SemanticLayer.Sql

open Lowering (lowerIn lowerAll numberTables numberTablesAll Site)
open NodeWriter (isNumber isNumeric)
open SemanticLayer.Sql.Parser (truncDays oracleWriter)

variable {n e : Node} {s : String}

/-! ## Numbers by structure -/

/-- What can stand around a number. -/
inductive Wrap where
  | parens
  | minus
  deriving DecidableEq

/-- What a number is inside. -/
inductive Core where
  | literal
  | operation
  deriving DecidableEq

/-- Expressions that are numbers whatever their operands are: a number literal or an operation,
inside the parentheses and minus signs given from the outside to the inside. -/
inductive Numeric : List Wrap → Core → Node → Prop
  | literal (s : String) (c : List String) (ps : List Node) :
      Numeric [] .literal (.mk (.number s) c ps)
  | extract (c : List String) (ps : List Node) : Numeric [] .operation (.mk .extract c ps)
  | quotient (typed safe : Bool) (c : List String) (ps : List Node) :
      Numeric [] .operation (.mk (.binary (.divide typed safe)) c ps)
  | product (c : List String) (ps : List Node) :
      Numeric [] .operation (.mk (.binary .multiply) c ps)
  | remainder (c : List String) (ps : List Node) :
      Numeric [] .operation (.mk (.binary .modulo) c ps)
  | parens (c : List String) {ws : List Wrap} {core : Core} {n : Node} (h : Numeric ws core n) :
      Numeric (.parens :: ws) core (.mk .paren c [n])
  | minus (c : List String) {ws : List Wrap} {core : Core} {n : Node} (h : Numeric ws core n) :
      Numeric (.minus :: ws) core (.mk (.unary .minus) c [n])

namespace Numeric

variable {ws : List Wrap} {core : Core}

/-- Fitting does not look at what is around a number. -/
theorem lowerIn_parent (h : Numeric ws core e) (parent : Head) :
    lowerIn .oracle { parent } e = lowerIn .oracle {} e := by
  cases h <;> rfl

theorem lowered (h : Numeric ws core e) (parent : Head) :
    Numeric ws core (lowerIn .oracle { parent } e) := by
  induction h generalizing parent with
  | literal s c ps => exact .literal s c _
  | extract c ps => cases ps <;> exact .extract c _
  | quotient typed safe c ps => exact .quotient typed safe c _
  | product c ps => exact .product c _
  | remainder c ps => exact .remainder c _
  | parens c _ ih => exact .parens c (ih .paren)
  | minus c _ ih => exact .minus c (ih (.unary .minus))

theorem isWith (h : Numeric ws core e) : e.head.isWith = false := by
  cases h <;> rfl

theorem numberTables_one {head : Head} {c : List String}
    (hhead : Lowering.numberHead head = pure head) (h : Numeric ws core e) :
    numberTables (.mk head c [e]) = (fun n => .mk head c [n]) <$> numberTables e := by
  simp [numberTables, numberTablesAll, hhead, h.isWith]

theorem numbered (h : Numeric ws core e) (k : Nat) :
    Numeric ws core ((numberTables e).run k).1 := by
  induction h generalizing k with
  | literal s c ps => exact .literal s c _
  | extract c ps => exact .extract c _
  | quotient typed safe c ps => exact .quotient typed safe c _
  | product c ps => exact .product c _
  | remainder c ps => exact .remainder c _
  | parens c h ih =>
    rw [h.numberTables_one rfl]
    exact .parens c (ih k)
  | minus c h ih =>
    rw [h.numberTables_one rfl]
    exact .minus c (ih k)

theorem isNumber_iff (h : Numeric ws core e) :
    isNumber e = true ↔ core = .literal ∧ .parens ∉ ws := by
  induction h with
  | minus c _ ih => simpa [isNumber] using ih
  | _ => simp [isNumber]

/-- A number without anything around it is recognized, and so is a literal under minus signs. -/
theorem isNumeric_iff (h : Numeric ws core e) :
    isNumeric e = true ↔ ws = [] ∨ core = .literal ∧ .parens ∉ ws := by
  cases h with
  | minus c h =>
    have hnumber := (Numeric.minus c h).isNumber_iff
    simpa [isNumeric, Node.head] using hnumber
  | parens c h => simp [isNumeric, Node.head, isNumber]
  | _ => simp [isNumeric, Node.head, isNumber]

end Numeric

/-! ## TRUNC is written -/

theorem lower_truncDays {ws : List Wrap} {core : Core} (h : Numeric ws core e) :
    (truncDays e).lower .oracle = truncDays (e.lower .oracle) := by
  have hlower : lowerIn .oracle {} (truncDays e) = truncDays (lowerIn .oracle {} e) := by
    rw [← h.lowerIn_parent (.call (.dateTrunc false))]
    rfl
  have hnumbered : numberTables (truncDays (lowerIn .oracle {} e)) =
      (fun n => .mk (.call (.dateTrunc false)) [] [n, .text "DD"]) <$>
        numberTables (lowerIn .oracle {} e) := by
    have hunit : numberTables (.text "DD") = pure (.text "DD") := rfl
    have hwith : (Node.text "DD").head.isWith = false := rfl
    simp [truncDays, Node.of, numberTables, numberTablesAll, Lowering.numberHead, hunit, hwith,
      (h.lowered .semicolon).isWith]
  rw [Node.lower, hlower, hnumbered]
  rfl

/-- The unit of days is written only after what is no number. -/
theorem layout_truncDays (n : Node) : (oracleWriter.layout (truncDays n)).toText =
    "TRUNC(" ++ (oracleWriter.layout n).toText ++ (if isNumeric n then ")" else ", 'DD')") := by
  have hlayout : oracleWriter.layout (truncDays n) =
      if isNumeric n && Text.upper "DD" == "DD" then
        oracleWriter.call "TRUNC" [oracleWriter.layout n]
      else oracleWriter.call "TRUNC" [oracleWriter.layout n, oracleWriter.string "DD"] := rfl
  have hone : oracleWriter.call "TRUNC" [oracleWriter.layout n] =
    .atom "TRUNC" ++ "(" ++ oracleWriter.layout n ++ ")" := rfl
  have htwo : oracleWriter.call "TRUNC" [oracleWriter.layout n, oracleWriter.string "DD"] =
    .atom "TRUNC" ++ "(" ++ (oracleWriter.layout n ++ .atom ", " ++ .atom "'DD'") ++ ")" := rfl
  rw [hlayout, hone, htwo, show (Text.upper "DD" == "DD") = true by decide, Bool.and_true]
  rw [show "TRUNC(" = "TRUNC" ++ "(" from rfl, show ", 'DD')" = ", " ++ "'DD'" ++ ")" from rfl]
  split <;> simp [String.append_assoc]

/-- How TRUNC of a number is written: without a unit if nothing is around the number, or only minus
signs around a literal. -/
theorem render_truncDays {ws : List Wrap} {core : Core} (h : Numeric ws core e) :
    Dialect.oracle.render .standard (truncDays e) =
      "TRUNC(" ++ (oracleWriter.layout (e.lower .oracle)).toText ++
        (if ws = [] ∨ core = .literal ∧ .parens ∉ ws then ")" else ", 'DD')") := by
  have hprint : Dialect.oracle.render .standard (truncDays e) =
      Text.strip (oracleWriter.layout ((truncDays e).lower .oracle)).toText := rfl
  have hnumeric : isNumeric (e.lower .oracle) = true ↔ ws = [] ∨ core = .literal ∧ .parens ∉ ws :=
    ((h.lowered .semicolon).numbered 0).isNumeric_iff
  rw [hprint, lower_truncDays h, layout_truncDays]
  simp only [hnumeric]
  split
  all_goals
    refine Text.strip_eq_self (a := 'T') (b := ')') (by simp) ?_ (by decide) (by decide)
    rw [String.toList_append, List.getLast?_append]
    rfl

/-! ## TRUNC is read again -/

theorem Numeric.respell {ws : List Wrap} {core : Core} (h : Numeric ws core e)
    (f : Ident → Ident) : Numeric ws core (e.respell f) := by
  induction h with
  | literal s c ps => exact .literal s c _
  | extract c ps => exact .extract c _
  | quotient typed safe c ps => exact .quotient typed safe c _
  | product c ps => exact .product c _
  | remainder c ps => exact .remainder c _
  | parens c _ ih => exact .parens c ih
  | minus c _ ih => exact .minus c ih

namespace Parser

variable {us : List Token}

/-- TRUNC of a text, without a unit and with the unit of days. -/
theorem parseOne_written (hcut : IsCut s us) (he : IsPhrase .product us e) :
    parseOne .oracle ("TRUNC(" ++ s ++ ")") = .ok (truncDays e) ∧
      parseOne .oracle ("TRUNC(" ++ s ++ ", 'DD')") = .ok (truncDays e) := by
  have htokens {x : String} {vs : List Token} (hx : IsCut x vs) :
      CallsTrunc (wordToken "TRUNC" :: markToken "(" :: (vs ++ [markToken ")"])) vs ∧
        Lexer.tokenize .oracle ("TRUNC" ++ "(" ++ x ++ ")") =
          some (wordToken "TRUNC" :: markToken "(" :: (vs ++ [markToken ")"])) := by
    refine ⟨⟨⟨_, _, _, rfl, ⟨rfl, rfl, by decide⟩, ⟨rfl, rfl⟩, ⟨rfl, rfl⟩⟩, hx.comments_call⟩, ?_⟩
    refine Lexer.tokenize_of_readsSilently ?_
    have hreads : Lexer.ReadsSilently .oracle [] (("TRUNC" ++ "(" ++ x ++ ")").toList ++ [])
        ([] ++ wordToken "TRUNC" :: markToken "(" :: (vs ++ [markToken ")"])) [] :=
      hx.reads_call (by decide)
    rwa [List.append_nil, List.nil_append] at hreads
  obtain ⟨hone, hone'⟩ := htokens hcut
  obtain ⟨htwo, htwo'⟩ := htokens (hcut.comma .unit)
  refine ⟨hone.parseOne_days he hone', ?_⟩
  have htext : "TRUNC(" ++ s ++ ", 'DD')" = "TRUNC" ++ "(" ++ (s ++ ", " ++ "'DD'") ++ ")" := by
    rw [show "TRUNC(" = "TRUNC" ++ "(" from rfl, show ", 'DD')" = ", " ++ "'DD'" ++ ")" from rfl]
    simp only [String.append_assoc]
  rw [htext]
  exact htwo.parseOne_unit he ⟨rfl, rfl⟩ ⟨rfl, rfl, rfl⟩ htwo'

end Parser

open SemanticLayer.Sql.Parser (CallsTrunc Spells StableOperands Writes inQuotes markToken)

/-- TRUNC of an expression that is a number by its structure is written with one argument exactly if
nothing is around the number, or only minus signs around a literal; otherwise the unit of days
stands after it. Every text that spells TRUNC of an arithmetic expression is read as a cut to days,
and what is written for it is read and written again as the same text. Operands of any kind may
stand in the expression if they are read and written again as the same text themselves. -/
theorem numeric_trunc_stable {operands : List Token → Node → Prop}
    (hoperands : StableOperands operands) {ws : List Wrap} {core : Core} (h : Numeric ws core e) :
    Dialect.oracle.render .standard (truncDays e) =
        "TRUNC(" ++ (oracleWriter.layout (e.lower .oracle)).toText ++
          (if ws = [] ∨ core = .literal ∧ .parens ∉ ws then ")" else ", 'DD')") ∧
      ∀ (s : String) (toks ts : List Token), Lexer.tokenize .oracle s = some toks →
        CallsTrunc toks ts → Spells operands .product ts e →
          parseOne .oracle s = .ok (truncDays e) ∧
          parseOne .oracle (Dialect.oracle.render .standard (truncDays e)) =
            .ok (truncDays (e.respell inQuotes)) ∧
          Dialect.oracle.render .standard (truncDays (e.respell inQuotes)) =
            Dialect.oracle.render .standard (truncDays e) := by
  refine ⟨render_truncDays h, fun s toks ts htokens htrunc hs => ?_⟩
  obtain ⟨x, us, hx⟩ := hs.respells hoperands
  have hphrase := hx.spells.isPhrase hoperands.isPhrase
  rw [render_truncDays h, render_truncDays (h.respell inQuotes), hx.writes.layout, hx.again.layout]
  refine ⟨htrunc.parseOne_days (hs.isPhrase hoperands.isPhrase) htokens, ?_, rfl⟩
  split
  · exact (Parser.parseOne_written hx.cut hphrase).1
  · exact (Parser.parseOne_written hx.cut hphrase).2

/-- The tokens of `(a * b)`. -/
def guardedProduct : List Token :=
  [markToken "(", { kind := .word, text := "a", key := "A" }, markToken "*",
    { kind := .word, text := "b", key := "B" }, markToken ")"]

/-- The tree of `(a * b)`. -/
def guardedProductNode : Node :=
  .of .paren [.of (.binary .multiply)
    [.of (.column [⟨"a", false⟩]) [], .of (.column [⟨"b", false⟩]) []]]

/-- Numbers and columns are operands enough. -/
theorem stableOperands_none : StableOperands fun _ _ => False :=
  ⟨False.elim, False.elim⟩

theorem spells_guardedProduct :
    Spells (fun _ _ => False) .product guardedProduct guardedProductNode := by
  have ha : Spells (fun _ _ => False) .operand [{ kind := .word, text := "a", key := "A" }]
      (.of (.column [⟨"a", false⟩]) []) :=
    .column ⟨.inr ⟨rfl, by decide, by decide⟩, by decide, by decide, by decide⟩
  have hb : Spells (fun _ _ => False) .operand [{ kind := .word, text := "b", key := "B" }]
      (.of (.column [⟨"b", false⟩]) []) :=
    .column ⟨.inr ⟨rfl, by decide, by decide⟩, by decide, by decide, by decide⟩
  exact .one (.paren ⟨rfl, rfl⟩ (.step (.one ha) rfl (by decide) hb) ⟨rfl, rfl⟩)

theorem numeric_guardedProduct : Numeric [.parens] .operation guardedProductNode :=
  .parens [] (.product [] _)

/-- The tokens of `TRUNC((a * b))`, with its word in any letter case. -/
theorem callsTrunc_guardedProduct {word : String} (hword : Text.upper word = "TRUNC") :
    CallsTrunc ({ kind := .word, text := word, key := "TRUNC" } :: markToken "(" ::
      (guardedProduct ++ [markToken ")"])) guardedProduct := by
  refine ⟨⟨_, _, _, rfl, ⟨rfl, rfl, hword⟩, ⟨rfl, rfl⟩, ⟨rfl, rfl⟩⟩, ?_⟩
  simp [guardedProduct, markToken]

theorem numeric_trunc_stable_of_parens :
    Numeric [.parens] .operation guardedProductNode ∧
      parseOne .oracle "trunc( (a*b) )" = .ok (truncDays guardedProductNode) ∧
      Dialect.oracle.render .standard (truncDays (guardedProductNode.respell inQuotes)) =
        Dialect.oracle.render .standard (truncDays guardedProductNode) := by
  obtain ⟨-, hread⟩ := numeric_trunc_stable stableOperands_none numeric_guardedProduct
  obtain ⟨hparse, -, hagain⟩ := hread "trunc( (a*b) )" _ _ (by rfl)
    (callsTrunc_guardedProduct (by decide)) spells_guardedProduct
  exact ⟨numeric_guardedProduct, hparse, hagain⟩

/-- A product in parentheses is a number, but TRUNC of it gets the unit of days. -/
theorem trunc_of_parens_takes_unit :
    (parseOne .oracle "TRUNC((a * b))").map (Dialect.oracle.render .standard) =
      .ok "TRUNC((\"a\" * \"b\"), 'DD')" := by
  have hcalls := callsTrunc_guardedProduct (show Text.upper "TRUNC" = "TRUNC" by decide)
  have hparse : parseOne .oracle "TRUNC((a * b))" = .ok (truncDays guardedProductNode) :=
    hcalls.parseOne_days (spells_guardedProduct.isPhrase stableOperands_none.isPhrase) (by rfl)
  have hfactor : ("*", BinaryOp.multiply) ∈ Parser.factors := by decide
  have hwrites := ((Writes.column "a" false).factor (.column "b" false) hfactor).paren
  rw [hparse, Except.map, render_truncDays numeric_guardedProduct,
    guardedProductNode, hwrites.layout]
  rfl

end SemanticLayer.Sql
