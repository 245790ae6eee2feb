import SemanticLayer.Dialect.Oracle
import SemanticLayer.Proofs.ArithmeticTokens
import SemanticLayer.Proofs.Requoting
import SemanticLayer.Proofs.Writing

/-!
# Writing arithmetic

What is written for an arithmetic expression in Oracle's SQL. `Writes` gives the text of a tree, one
lemma for each kind of node. `Spells.respells` is the way back: the text is cut into tokens that
spell the same tree with its names in quotes, and that tree has the same text.
-/

namespace SemanticLayer.Sql

namespace Parser

variable {l : Level} {n a b : Node} {s u : String} {ts us : List Token}

/-! ## Arithmetic is written -/

/-- How Oracle's SQL is written. -/
abbrev oracleWriter : Printer := Dialect.oracle.printer .standard { identify := true }

open Lowering (lowerIn lowerAll lowerAll_self numberTables numberTables_self)

/-- The node is fitted to Oracle already, and it is written as the text wherever it stands. -/
structure Writes (n : Node) (s : String) : Prop where
  lowered : ∀ site, lowerIn .oracle site n = n
  numbered : numberTables n = pure n
  rendered : ∀ ctx, ∃ body, oracleWriter.render ctx n = { body } ∧ body.toText = s

theorem full_plain {body : Layout} : oracleWriter.full { body } = body := rfl

namespace Writes

theorem number (s : String) : Writes (.of (.number s) []) s :=
  ⟨fun _ => rfl, rfl, fun _ => ⟨.atom s, rfl, by simp⟩⟩

theorem column (name : String) (quoted : Bool) :
    Writes (.of (.column [⟨name, quoted⟩]) []) (Text.quoted '\x22' name) := by
  refine ⟨fun _ => rfl, rfl, fun _ => ⟨oracleWriter.path [⟨name, quoted⟩], rfl, ?_⟩⟩
  have hneeds : oracleWriter.needsQuotes ⟨name, quoted⟩ = true := by
    simp [Printer.needsQuotes, Dialect.printer]
  have hident : oracleWriter.path [⟨name, quoted⟩] = .ofText (Text.quoted '\x22' name) := by
    rw [Printer.path, List.map_singleton, Layout.concatSep, Printer.ident, hneeds]
    rfl
  rw [hident, Layout.toText_ofText]

theorem paren (h : Writes n s) : Writes (.of .paren [n]) ("(" ++ s ++ ")") := by
  refine ⟨fun site => ?_, numberTables_self rfl (by simpa using h.numbered), fun ctx => ?_⟩
  · change Lowering.fit .oracle site .paren [] (lowerAll .oracle _ [n]) = _
    rw [lowerAll_self (by simpa using h.lowered)]
    rfl
  · obtain ⟨body, hbody, htext⟩ := h.rendered (ctx.inside .paren [n])
    refine ⟨"(" ++ .empty ++ body ++ .empty ++ ")", ?_, by simp [htext]⟩
    change oracleWriter.compose ctx .paren [] [⟨n, oracleWriter.render _ n⟩] = _
    rw [hbody]
    rfl

theorem minus (h : Writes n s) (hs : ∃ x xs, s.toList = x :: xs ∧ x ∉ notFirst) :
    Writes (.of (.unary .minus) [n]) (negated s) := by
  refine ⟨fun site => ?_, numberTables_self rfl (by simpa using h.numbered), fun ctx => ?_⟩
  · change Lowering.fit .oracle site (.unary .minus) [] (lowerAll .oracle _ [n]) = _
    rw [lowerAll_self (by simpa using h.lowered)]
    rfl
  · obtain ⟨body, hbody, htext⟩ := h.rendered (ctx.inside (.unary .minus) [n])
    refine ⟨Printer.unary .minus body, ?_, ?_⟩
    · change oracleWriter.compose ctx (.unary .minus) [] [⟨n, oracleWriter.render _ n⟩] = _
      rw [hbody]
      rfl
    · obtain ⟨x, xs, hxs, hx⟩ := hs
      have hfirst : body.first? = s.toList.head? := by
        rw [hxs, List.head?_cons]
        exact Layout.first?_of_toText (htext ▸ hxs) fun he => hx (by simp [he, notFirst])
      rw [Printer.unary, hfirst, negated]
      split <;> split <;> simp_all

theorem factor {v : String} (ha : Writes a s) (hb : Writes b v) {mark : String} {op : BinaryOp}
    (hop : (mark, op) ∈ factors) :
    Writes (.of (.binary op) [a, b]) (s ++ " " ++ mark ++ " " ++ v) := by
  have hnumbered : ∀ n ∈ [a, b], numberTables n = pure n := by simp [ha.numbered, hb.numbered]
  have hlowered : ∀ n ∈ [a, b], ∀ site, lowerIn .oracle site n = n := by
    simp [ha.lowered, hb.lowered]
  simp only [factors, List.mem_cons, List.not_mem_nil, or_false, Prod.mk.injEq] at hop
  refine ⟨fun site => ?_, numberTables_self rfl hnumbered, fun ctx => ?_⟩
  · obtain ⟨-, rfl⟩ | ⟨-, rfl⟩ := hop
    · change Lowering.fit .oracle site (.binary .multiply) [] (lowerAll .oracle _ [a, b]) = _
      rw [lowerAll_self hlowered]
      rfl
    · simp only [Node.of, lowerIn, lowerAll_self hlowered]
      split <;> rfl
  · obtain ⟨body, hbody, htext⟩ := ha.rendered (ctx.inside (.binary op) [a, b])
    obtain ⟨body', hbody', htext'⟩ := hb.rendered (ctx.inside (.binary op) [a, b])
    refine ⟨body ++ " " ++ .atom mark ++ " " ++ body', ?_, by simp [htext, htext']⟩
    change oracleWriter.compose ctx (.binary op) []
      [⟨a, oracleWriter.render _ a⟩, ⟨b, oracleWriter.render _ b⟩] = _
    rw [hbody, hbody']
    obtain ⟨rfl, rfl⟩ | ⟨rfl, rfl⟩ := hop <;> rfl

theorem modulo {v : String} (ha : Writes a s) (hb : Writes b v) :
    Writes (.of (.binary .modulo) [a, b]) ("MOD" ++ "(" ++ (s ++ ", " ++ v) ++ ")") := by
  have hlowered : ∀ n ∈ [a, b], ∀ site, lowerIn .oracle site n = n := by
    simp [ha.lowered, hb.lowered]
  refine ⟨fun site => ?_, numberTables_self rfl (by simp [ha.numbered, hb.numbered]), fun ctx => ?_⟩
  · change Lowering.fit .oracle site (.binary .modulo) [] (lowerAll .oracle _ [a, b]) = _
    rw [lowerAll_self hlowered]
    rfl
  · obtain ⟨body, hbody, htext⟩ := ha.rendered (ctx.inside (.binary .modulo) [a, b])
    obtain ⟨body', hbody', htext'⟩ := hb.rendered (ctx.inside (.binary .modulo) [a, b])
    refine ⟨.atom "MOD" ++ "(" ++ (body ++ .atom ", " ++ body') ++ ")", ?_,
      by simp [htext, htext', ← String.append_assoc]⟩
    change oracleWriter.compose ctx (.binary .modulo) []
      [⟨a, oracleWriter.render _ a⟩, ⟨b, oracleWriter.render _ b⟩] = _
    rw [hbody, hbody']
    rfl

theorem extract {part : String} (h : Writes n s) :
    Writes (.of .extract [.of (.keyword part) [], n])
      ("EXTRACT" ++ "(" ++ (part ++ " FROM " ++ s) ++ ")") := by
  have hlowered : ∀ m ∈ [.of (.keyword part) [], n], ∀ site, lowerIn .oracle site m = m := by
    simp only [List.forall_mem_cons]
    exact ⟨fun _ => rfl, h.lowered, by simp⟩
  have hnumbered : ∀ m ∈ [.of (.keyword part) [], n], numberTables m = pure m := by
    simp only [List.forall_mem_cons]
    exact ⟨rfl, h.numbered, by simp⟩
  refine ⟨fun site => ?_, numberTables_self rfl hnumbered, fun ctx => ?_⟩
  · change Lowering.fit .oracle site .extract []
      (lowerAll .oracle (site.inside .extract) [.of (.keyword part) [], n]) = _
    rw [lowerAll_self hlowered]
    rfl
  · obtain ⟨body, hbody, htext⟩ := h.rendered (ctx.inside .extract [.of (.keyword part) [], n])
    refine ⟨"EXTRACT(" ++ .atom part ++ " FROM " ++ body ++ ")", ?_,
      by simp [htext, ← String.append_assoc]⟩
    change oracleWriter.compose ctx .extract []
      [⟨.of (.keyword part) [], { body := .atom part }⟩, ⟨n, oracleWriter.render _ n⟩] = _
    rw [hbody]
    rfl

/-- The text of a tree. -/
theorem layout (h : Writes n s) : (oracleWriter.layout (n.lower .oracle)).toText = s := by
  obtain ⟨body, hbody, htext⟩ := h.rendered {}
  rw [Node.lower, h.lowered, h.numbered]
  change (oracleWriter.full (oracleWriter.render {} n)).toText = s
  rw [hbody, full_plain, htext]

end Writes

/-! ## Written arithmetic is read again -/

/-- The name in quotes. -/
def inQuotes (id : Ident) : Ident := { id with quoted := true }

/-- Operands that are read, and written as a text that is read as the same operand with its names
in quotes. -/
structure StableOperands (operands : List Token → Node → Prop) : Prop where
  isPhrase : ∀ {ts : List Token} {n : Node}, operands ts n → IsPhrase .operand ts n
  again : ∀ {ts : List Token} {n : Node}, operands ts n → ∃ s us, Writes n s ∧
    Writes (n.respell inQuotes) s ∧ IsCut s us ∧ operands us (n.respell inQuotes)

variable {operands : List Token → Node → Prop}

/-- The text of an expression is that of the expression with its names in quotes, and its tokens
spell the latter. -/
structure Respells (operands : List Token → Node → Prop) (l : Level) (n : Node) (s : String)
    (us : List Token) : Prop where
  writes : Writes n s
  again : Writes (n.respell inQuotes) s
  cut : IsCut s us
  spells : Spells operands l us (n.respell inQuotes)

namespace Respells

variable {v : String} {vs : List Token}

theorem number (hs : isNumeral s = true) :
    Respells operands .operand (.of (.number s) []) s [{ kind := .number, text := s, key := "" }] :=
  ⟨.number s, .number s, .number hs, .number rfl rfl hs⟩

theorem column (name : String) (quoted : Bool) :
    Respells operands .operand (.of (.column [⟨name, quoted⟩]) []) (Text.quoted '\x22' name)
      [{ kind := .quotedName, text := name, key := "" }] := by
  refine ⟨.column name quoted, .column name true, .name name, .column ⟨.inl ⟨rfl, rfl⟩, ?_, ?_, ?_⟩⟩
  · exact (by decide : "" ∉ operandKeys ++ leadingWords)
  · exact (by decide : "" ∉ markKeys)
  · exact (by decide : constant? .oracle "" = none)

theorem minus (h : Respells operands .operand n s us) :
    Respells operands .operand (.of (.unary .minus) [n]) (negated s) (markToken "-" :: us) :=
  ⟨h.writes.minus h.cut.begins, h.again.minus h.cut.begins, h.cut.minus, .minus ⟨rfl, rfl⟩ h.spells⟩

theorem paren (h : Respells operands .product n s us) :
    Respells operands .operand (.of .paren [n]) ("(" ++ s ++ ")")
      (markToken "(" :: (us ++ [markToken ")"])) :=
  ⟨h.writes.paren, h.again.paren, h.cut.paren, .paren ⟨rfl, rfl⟩ h.spells ⟨rfl, rfl⟩⟩

theorem one (h : Respells operands .operand n s us) : Respells operands .product n s us :=
  ⟨h.writes, h.again, h.cut, .one h.spells⟩

theorem step {mark : String} {op : BinaryOp} (ha : Respells operands .product a s us)
    (hb : Respells operands .operand b v vs) (hop : (mark, op) ∈ factors) :
    Respells operands .product (.of (.binary op) [a, b]) (s ++ " " ++ mark ++ " " ++ v)
      (us ++ markToken mark :: vs) := by
  have hmark : ∀ f ∈ factors, f.1 ∈ ["*", "/"] := by decide
  exact ⟨ha.writes.factor hb.writes hop, ha.again.factor hb.again hop,
    ha.cut.factor hb.cut (hmark _ hop), .step ha.spells rfl hop hb.spells⟩

theorem extract {part : String} (hp : part ∈ dateParts) (h : Respells operands .product n s us) :
    Respells operands .operand (.of .extract [.of (.keyword part) [], n])
      ("EXTRACT" ++ "(" ++ (part ++ " FROM " ++ s) ++ ")") (wordToken "EXTRACT" :: markToken "(" ::
        ((wordToken part :: wordToken "FROM" :: us) ++ [markToken ")"])) := by
  have hupper : ∀ part ∈ dateParts, Text.upper part = part := by decide
  exact ⟨h.writes.extract, h.again.extract, (h.cut.dated hp).call (by decide),
    .extract ⟨rfl, rfl, by decide⟩ ⟨rfl, rfl⟩ ⟨rfl, rfl, hupper _ hp⟩ hp ⟨rfl, rfl, by decide⟩
      h.spells ⟨rfl, rfl⟩⟩

/-- An operand of MOD is in parentheses if it is an operation itself, and then none anymore. -/
theorem guardOperand (h : Respells operands .product n s us) : ∃ s us,
    Respells operands .product (Calls.guardOperand n) s us ∧
      Calls.guardOperand ((Calls.guardOperand n).respell inQuotes) =
        (Calls.guardOperand n).respell inQuotes := by
  have hsteady : ∀ h : Head, (h.respell inQuotes).isBinary = h.isBinary := by
    rintro ⟨⟩ <;> rfl
  unfold Calls.guardOperand
  split
  · exact ⟨_, _, h.paren.one, rfl⟩
  · next hbinary => exact ⟨s, us, h, if_neg (by rwa [Node.head_respell, hsteady])⟩

theorem modulo (ha : Respells operands .product a s us) (hb : Respells operands .product b v vs) :
    ∃ s us, Respells operands .operand
      (.of (.binary .modulo) [Calls.guardOperand a, Calls.guardOperand b]) s us := by
  obtain ⟨s, us, hs, hguard⟩ := ha.guardOperand
  obtain ⟨v, vs, hv, hguard'⟩ := hb.guardOperand
  have hspells := Spells.modulo (f := wordToken "MOD") (l := markToken "(") (o := markToken ",")
    (r := markToken ")") ⟨rfl, rfl, by decide⟩ ⟨rfl, rfl⟩ hs.spells ⟨rfl, rfl⟩ hv.spells ⟨rfl, rfl⟩
  rw [hguard, hguard'] at hspells
  refine ⟨_, _, hs.writes.modulo hv.writes, hs.again.modulo hv.again,
    (hs.cut.comma hv.cut).call (by decide), ?_⟩
  rw [List.append_assoc, List.cons_append]
  exact hspells

end Respells

/-- An arithmetic expression is written as a text that spells it again. -/
theorem Spells.respells (hoperands : StableOperands operands) (h : Spells operands l ts n) :
    ∃ s us, Respells operands l n s us := by
  induction h with
  | operand h =>
    obtain ⟨s, us, hwrites, hagain, hcut, hspells⟩ := hoperands.again h
    exact ⟨s, us, hwrites, hagain, hcut, .operand hspells⟩
  | number _ _ htext => exact ⟨_, _, .number htext⟩
  | column _ => exact ⟨_, _, .column _ _⟩
  | minus _ _ ih =>
    obtain ⟨s, us, h⟩ := ih
    exact ⟨_, _, h.minus⟩
  | paren _ _ _ ih =>
    obtain ⟨s, us, h⟩ := ih
    exact ⟨_, _, h.paren⟩
  | modulo _ _ _ _ _ _ iha ihb =>
    obtain ⟨s, us, ha⟩ := iha
    obtain ⟨v, vs, hb⟩ := ihb
    exact ha.modulo hb
  | extract _ _ _ hpart _ _ _ ih =>
    obtain ⟨s, us, h⟩ := ih
    exact ⟨_, _, h.extract hpart⟩
  | one _ ih =>
    obtain ⟨s, us, h⟩ := ih
    exact ⟨_, _, h.one⟩
  | step _ _ hop _ iha ihb =>
    obtain ⟨s, us, ha⟩ := iha
    obtain ⟨v, vs, hb⟩ := ihb
    exact ⟨_, _, ha.step hb hop⟩

end Parser

end SemanticLayer.Sql
