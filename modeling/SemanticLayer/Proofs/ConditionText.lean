import Mathlib.Tactic.FinCases
import SemanticLayer.Dialect.MySql
import SemanticLayer.Proofs.Writing

/-!
# Writing conditions

What is written for a condition in MySQL's SQL, on one line. `Writes` gives the text of a tree, one
lemma for each kind of node.

Most nodes stay what they are when they are fitted to MySQL, but BETWEEN then keeps in mind whether
there is an AND in its lower bound. So what is written is not the tree itself but what is `fitted`.
-/

namespace SemanticLayer.Sql

namespace Layout

theorem toText_concatSep (sep : String) (as : List Layout) :
    (concatSep (.atom sep) as).toText = sep.intercalate (as.map toText) := by
  induction as with
  | nil => simp [concatSep]
  | cons a as ih =>
    cases as with
    | nil => simp [concatSep, String.intercalate_singleton]
    | cons b as =>
      rw [concatSep, toText_append, toText_append, toText_atom, ih, List.map_cons, List.map_cons,
        List.map_cons, String.intercalate_cons_cons]

end Layout

namespace Condition

open Lowering (lowerIn lowerAll numberTables numberTables_self numberHead)

variable {identify : Bool} {n a b : Node} {ns : List Node} {h h' : Head} {r : Rendered}
  {s u : String}

/-! ## Fitted trees -/

/-- The tree fitted to MySQL. -/
def fitted (n : Node) : Node := lowerIn .mysql {} n

/-- The tree is fitted in the same way wherever it stands, and it has no tables to number. -/
structure Fits (n : Node) : Prop where
  lowered : ∀ site, lowerIn .mysql site n = fitted n
  numbered : numberTables (fitted n) = pure (fitted n)

theorem lowerAll_eq_map {site : Lowering.Site} (hns : ∀ n ∈ ns, Fits n) :
    lowerAll .mysql site ns = ns.map fitted := by
  induction ns with
  | nil => rfl
  | cons n ns ih =>
    obtain ⟨hn, hns⟩ := List.forall_mem_cons.mp hns
    rw [lowerAll, hn.lowered, ih hns, List.map_cons]

section Node

variable (hns : ∀ n ∈ ns, Fits n)
  (hlower : ∀ site, lowerIn .mysql site (.of h ns) = .of h' (lowerAll .mysql (site.inside h) ns))
include hns hlower

/-- A node of which only the head and the parts change. -/
theorem fitted_node : fitted (.of h ns) = .of h' (ns.map fitted) := by
  rw [fitted, hlower, lowerAll_eq_map hns]

theorem Fits.node (hhead : numberHead h' = pure h') : Fits (.of h ns) where
  lowered site := by rw [hlower, lowerAll_eq_map hns, fitted_node hns hlower]
  numbered := by
    rw [fitted_node hns hlower]
    refine numberTables_self hhead fun m hm => ?_
    obtain ⟨n, hn, rfl⟩ := List.mem_map.mp hm
    exact (hns n hn).numbered

end Node

/-! ## Written nodes -/

/-- How MySQL's SQL is written. -/
abbrev writer (identify : Bool) : Printer := Dialect.mysql.printer .standard { identify }

/-- The text of a tree. -/
def text (identify : Bool) (n : Node) : String := ((writer identify).layout (n.lower .mysql)).toText

/-- A node without comments is written as the text, also where it joins a chain of conditions. -/
structure Shows (r : Rendered) (s : String) : Prop where
  comments : r.comments = []
  inline : r.separated = false
  body : r.body.toText = s
  chain : r.pieces = [] ∨ (Layout.concatSep " " r.pieces).toText = s

theorem Shows.full_eq (h : Shows r s) : (writer identify).full r = r.body := by
  rw [Printer.full, h.inline, h.comments]
  rfl

theorem Shows.toText_full (h : Shows r s) : ((writer identify).full r).toText = s := by
  rw [h.full_eq, h.body]

/-- The conditions that a node brings into a chain. -/
theorem Shows.chainOf (identify : Bool) (h : Shows r s) : ∃ x xs,
    (writer identify).chainOf r = x :: xs ∧ " ".intercalate ((x :: xs).map Layout.toText) = s := by
  rw [Printer.chainOf]
  cases hpieces : r.pieces with
  | nil => exact ⟨_, [], rfl, by simp [h.toText_full]⟩
  | cons x xs =>
    have hchain := h.chain.resolve_left (by simp [hpieces])
    rw [hpieces] at hchain
    exact ⟨x, xs, rfl, by rw [← hchain]; exact (Layout.toText_concatSep " " (x :: xs)).symm⟩

/-- Two operands with their operator, also where it connects conditions. -/
theorem Shows.binary {l : Rendered} {op : BinaryOp} (hl : Shows l s) (hr : Shows r u) :
    Shows ((writer identify).binary op [] l r) (s ++ " " ++ op.symbol .mysql ++ " " ++ u) := by
  rw [Printer.binary]
  cases op.isConnector with
  | false =>
    refine ⟨rfl, rfl, ?_, .inl rfl⟩
    change ((writer identify).full l ++ " " ++ .atom (op.symbol .mysql) ++ " " ++
      (writer identify).full r).toText = _
    simp [hl.toText_full, hr.toText_full]
  | true =>
    obtain ⟨x, xs, hx, hs⟩ := hl.chainOf identify
    obtain ⟨y, ys, hy, hu⟩ := hr.chainOf identify
    have htext : (Layout.concatSep (.atom " ")
        (x :: xs ++ (.atom (op.symbol .mysql) ++ " " ++ y) :: ys)).toText =
          s ++ " " ++ op.symbol .mysql ++ " " ++ u := by
      rw [Layout.toText_concatSep, List.map_append,
        String.intercalate_append_of_ne_nil (by simp) (by simp), hs, ← hu]
      simp [String.append_assoc]
    rw [hx, hy]
    exact ⟨rfl, rfl, htext, .inr htext⟩

/-- The tree fits, and what is fitted is written as the text wherever it stands. -/
structure Writes (identify : Bool) (n : Node) (s : String) : Prop extends Fits n where
  shows : ∀ ctx, Shows ((writer identify).render ctx (fitted n)) s

theorem Writes.text_eq (h : Writes identify n s) : text identify n = s := by
  rw [text, Node.lower, h.lowered, h.numbered]
  exact (h.shows {}).toText_full

/-- A tree that MySQL has another form for is written as that form. -/
theorem Writes.rewritten (h : Writes identify a s)
    (hsame : ∀ site, lowerIn .mysql site n = fitted a) : Writes identify n s := by
  have hfitted : fitted n = fitted a := hsame {}
  refine ⟨⟨fun site => by rw [hsame, hfitted], ?_⟩, fun ctx => ?_⟩
  · rw [hfitted]
    exact h.numbered
  · rw [hfitted]
    exact h.shows ctx

/-- The parts of a node with head `h`. -/
theorem renderAll_eq_map {p : Printer} {ctx : Printer.Context}
    (hflat : ∀ q, Printer.flatOrder h q = q) :
    p.renderAll ctx h ns = ns.map fun n => ⟨n, p.render ctx n⟩ := by
  induction ns with
  | nil => rfl
  | cons n ns ih => rw [Printer.renderAll, hflat, ih, List.map_cons]

/-- The written parts of a node. -/
def parts (identify : Bool) (ctx : Printer.Context) (ns : List Node) : List Part :=
  ns.map fun n => ⟨fitted n, (writer identify).render ctx (fitted n)⟩

section Node

variable (hns : ∀ n ∈ ns, Fits n)
  (hlower : ∀ site, lowerIn .mysql site (.of h ns) = .of h' (lowerAll .mysql (site.inside h) ns))
  (hflat : ∀ q, Printer.flatOrder h' q = q)
include hns hlower hflat

/-- A node of which only the head and the parts change, from its written parts. -/
theorem render_node (ctx : Printer.Context) : (writer identify).render ctx (fitted (.of h ns)) =
    (writer identify).compose ctx h' [] (parts identify (ctx.inside h' (ns.map fitted)) ns) := by
  rw [fitted_node hns hlower]
  change (writer identify).compose ctx h' [] ((writer identify).renderAll _ h' _) = _
  rw [renderAll_eq_map hflat, List.map_map]
  rfl

theorem Writes.node (hhead : numberHead h' = pure h') (hshows : ∀ ctx inner,
      Shows ((writer identify).compose ctx h' [] (parts identify inner ns)) s) :
    Writes identify (.of h ns) s where
  toFits := .node hns hlower hhead
  shows ctx := by
    rw [render_node hns hlower hflat]
    exact hshows ctx _

end Node

/-- The texts of the parts of a node. -/
theorem toText_parts {inner : Printer.Context}
    (hns : ∀ n ∈ ns, Writes identify n (text identify n)) :
    (((parts identify inner ns).map Part.rendered).map (writer identify).full).map
      Layout.toText = ns.map (text identify) := by
  simp only [parts, List.map_map]
  exact List.map_congr_left fun n hn => ((hns n hn).shows inner).toText_full

/-- The operators that compare two values. -/
def comparisons : List BinaryOp :=
  [.equal, .notEqual, .nullSafeEqual, .less, .lessEqual, .greater, .greaterEqual, .is]

/-- The operators that connect conditions. -/
def connectors : List BinaryOp := [.and, .or]

/-- A text, in parentheses if it is guarded. -/
def guardedText (guarded : Bool) (s : String) : String := if guarded then "(" ++ s ++ ")" else s

/-! ## Operands -/

/-- A name as it is written. -/
def nameText (identify : Bool) (id : Ident) : String :=
  if (writer identify).needsQuotes id then Text.quoted '\x60' id.name
  else Text.doubled '\x60' id.name

namespace Writes

theorem number (s : String) : Writes identify (.of (.number s) []) s :=
  .node (by simp) (fun _ => rfl) (fun _ => rfl) rfl fun _ _ =>
    ⟨rfl, rfl, Layout.toText_atom s, .inl rfl⟩

theorem null : Writes identify (.of .null []) "NULL" :=
  .node (by simp) (fun _ => rfl) (fun _ => rfl) rfl fun _ _ =>
    ⟨rfl, rfl, Layout.toText_atom "NULL", .inl rfl⟩

theorem boolean (b : Bool) :
    Writes identify (.of (.boolean b) []) (if b then "TRUE" else "FALSE") :=
  .node (by simp) (fun _ => rfl) (fun _ => rfl) rfl fun _ _ => by
    cases b
    · exact ⟨rfl, rfl, Layout.toText_atom "FALSE", .inl rfl⟩
    · exact ⟨rfl, rfl, Layout.toText_atom "TRUE", .inl rfl⟩

theorem string (s : String) : Writes identify (.of (.string s) [])
    (Text.quoted '\x27' (String.ofList (s.toList.flatMap Printer.escaped))) :=
  .node (by simp) (fun _ => rfl) (fun _ => rfl) rfl fun _ _ =>
    ⟨rfl, rfl, Layout.toText_atom _, .inl rfl⟩

theorem column (path : List Ident) : Writes identify (.of (.column path) [])
    (".".intercalate (path.map (nameText identify))) := by
  refine .node (by simp) (fun _ => rfl) (fun _ => rfl) rfl fun _ _ => ⟨rfl, rfl, ?_, .inl rfl⟩
  change (Layout.concatSep (.atom ".") (path.map (writer identify).ident)).toText = _
  rw [Layout.toText_concatSep, List.map_map]
  congr 1
  exact List.map_congr_left fun id _ => Layout.toText_ofText _

/-! ## Conditions -/

theorem paren (ha : Writes identify a s) : Writes identify (.of .paren [a]) ("(" ++ s ++ ")") := by
  refine .node (by simpa using ha.toFits) (fun _ => rfl) (fun _ => rfl) rfl fun ctx inner =>
    ⟨rfl, rfl, ?_, .inl rfl⟩
  change ("(" ++ Layout.empty ++ (writer identify).full _ ++ Layout.empty ++ ")").toText = _
  simp [(ha.shows inner).toText_full]

theorem not (ha : Writes identify a s) : Writes identify (.of (.unary .not) [a]) ("NOT " ++ s) := by
  refine .node (by simpa using ha.toFits) (fun _ => rfl) (fun _ => rfl) rfl fun ctx inner =>
    ⟨rfl, rfl, ?_, .inl rfl⟩
  change ("NOT " ++ (writer identify).full _).toText = _
  simp [(ha.shows inner).toText_full]

/-- Operators whose nodes stay as they are. -/
theorem binary (ha : Writes identify a s) (hb : Writes identify b u) {op : BinaryOp}
    (hop : op ∈ comparisons ++ connectors) :
    Writes identify (.of (.binary op) [a, b]) (s ++ " " ++ op.symbol .mysql ++ " " ++ u) := by
  have hparts : ∀ n ∈ [a, b], Fits n := by simp [ha.toFits, hb.toFits]
  have hlower : ∀ site, lowerIn .mysql site (.of (.binary op) [a, b]) =
      .of (.binary op) (lowerAll .mysql (site.inside (.binary op)) [a, b]) := by
    intro site
    fin_cases hop <;> rfl
  refine .node hparts hlower (fun _ => rfl) rfl fun ctx inner => ?_
  have hcompose : (writer identify).compose ctx (.binary op) [] (parts identify inner [a, b]) =
      (writer identify).binary op [] ((writer identify).render inner (fitted a))
        ((writer identify).render inner (fitted b)) := by
    fin_cases hop <;> rfl
  rw [hcompose]
  exact (ha.shows inner).binary (hb.shows inner)

/-- BETWEEN, with its lower bound in parentheses where that is guarded. -/
theorem between {low high : Node} {v : String} (ha : Writes identify a s)
    (hlow : Writes identify low u) (hhigh : Writes identify high v) (symmetric : Option Bool)
    (guarded : Bool) : Writes identify (.of (.between symmetric guarded) [a, low, high])
      (s ++ " BETWEEN " ++ guardedText (Lowering.guardsBound [a, low, high]) u ++ " AND " ++
        v) := by
  have hparts : ∀ n ∈ [a, low, high], Fits n := by simp [ha.toFits, hlow.toFits, hhigh.toFits]
  refine .node hparts (fun _ => rfl) (fun _ => rfl) rfl fun ctx inner => ⟨rfl, rfl, ?_, .inl rfl⟩
  change ((writer identify).full _ ++ " BETWEEN " ++
    (if Lowering.guardsBound [a, low, high] then "(" ++ (writer identify).full _ ++ ")"
      else (writer identify).full _) ++ " AND " ++ (writer identify).full _).toText = _
  cases Lowering.guardsBound [a, low, high] <;>
    simp [guardedText, (ha.shows inner).toText_full, (hlow.shows inner).toText_full,
      (hhigh.shows inner).toText_full]

end Writes

/-! ## CASE -/

/-- The arms of CASE, perhaps with a last value. -/
def caseClauses (arms : List (Node × Node)) (other : Option Node) : List Node :=
  arms.map (fun arm => .of .caseArm [arm.1, arm.2]) ++
    (other.map fun n => .of .caseElse [n]).toList

/-- CASE, perhaps with an operand that is compared. -/
def caseOf (operand : Option Node) (arms : List (Node × Node)) (other : Option Node) : Node :=
  .of .caseOf ((operand.map fun n => .of .caseOperand [n]).toList ++ caseClauses arms other)

/-- The phrases that an arm or the last value of CASE is written in. -/
def phrases (identify : Bool) : Node → List String
  | .mk .caseArm _ [condition, value] =>
    ["WHEN " ++ text identify condition, "THEN " ++ text identify value]
  | .mk .caseElse _ [value] => ["ELSE " ++ text identify value]
  | _ => []

/-- The texts between CASE and END. -/
def caseTexts (identify : Bool) (operand : Option Node) (arms : List (Node × Node))
    (other : Option Node) : List String :=
  (operand.map (text identify)).toList ++ (caseClauses arms other).flatMap (phrases identify)

/-- A part of CASE other than its operand brings the phrases. -/
structure Brings (identify : Bool) (n : Node) (phrases : List String) : Prop extends Fits n where
  head : ((fitted n).head == .caseOperand) = false
  pieces : ∀ ctx, ((writer identify).render ctx (fitted n)).pieces.map Layout.toText = phrases

namespace Brings

theorem arm (ha : Writes identify a s) (hb : Writes identify b u) :
    Brings identify (.of .caseArm [a, b]) ["WHEN " ++ s, "THEN " ++ u] := by
  have hparts : ∀ n ∈ [a, b], Fits n := by simp [ha.toFits, hb.toFits]
  refine ⟨.node hparts (fun _ => rfl) rfl, rfl, fun ctx => ?_⟩
  rw [render_node hparts (fun _ => rfl) (fun _ => rfl)]
  change ["WHEN " ++ (writer identify).full _, "THEN " ++ (writer identify).full _].map
    Layout.toText = _
  simp [(ha.shows _).toText_full, (hb.shows _).toText_full]

theorem other (ha : Writes identify a s) :
    Brings identify (.of .caseElse [a]) ["ELSE " ++ s] := by
  have hparts : ∀ n ∈ [a], Fits n := by simp [ha.toFits]
  refine ⟨.node hparts (fun _ => rfl) rfl, rfl, fun ctx => ?_⟩
  rw [render_node hparts (fun _ => rfl) (fun _ => rfl)]
  change ["ELSE " ++ (writer identify).full _].map Layout.toText = _
  simp [(ha.shows _).toText_full]

end Brings

theorem Writes.caseOperand (ha : Writes identify a s) :
    Writes identify (.of .caseOperand [a]) s := by
  refine .node (by simpa using ha.toFits) (fun _ => rfl) (fun _ => rfl) rfl fun ctx inner =>
    ⟨rfl, rfl, ?_, .inl rfl⟩
  exact (ha.shows inner).toText_full

/-- Parts that bring phrases bring them one after another. -/
theorem toText_pieces {ctx : Printer.Context} {phrases : Node → List String}
    (h : ∀ n ∈ ns, Brings identify n (phrases n)) :
    ((parts identify ctx ns).flatMap fun q => q.rendered.pieces).map Layout.toText =
      ns.flatMap phrases := by
  induction ns with
  | nil => rfl
  | cons n ns ih =>
    obtain ⟨hn, hns⟩ := List.forall_mem_cons.mp h
    rw [parts, List.map_cons, List.flatMap_cons, List.map_append, hn.pieces, List.flatMap_cons]
    congr 1
    exact ih hns

/-- None of the parts that bring phrases is the operand. -/
theorem select_operand {ctx : Printer.Context} {phrases : Node → List String}
    (h : ∀ n ∈ ns, Brings identify n (phrases n)) :
    Printer.select (· == .caseOperand) (parts identify ctx ns) = [] := by
  rw [Printer.select, parts, List.filter_map, List.map_eq_nil_iff, List.filter_eq_nil_iff]
  intro n hn
  rw [Function.comp_apply, (h n hn).head]
  exact Bool.false_ne_true

/-- CASE begins with its operand, if it has one. -/
theorem toText_caseOf {ctx : Printer.Context} {ps : List Part} {operand : Option Part}
    (hoperand : (Printer.select (· == .caseOperand) ps).head? = operand) :
    ((writer identify).compose ctx .caseOf [] ps).body.toText =
      " ".intercalate ("CASE" ::
        ((operand.map fun q => ((writer identify).full q.rendered).toText).toList ++
          (ps.flatMap fun q => q.rendered.pieces).map Layout.toText) ++ ["END"]) := by
  change ((writer identify).plainText ctx .caseOf ps).toText = _
  unfold Printer.plainText
  dsimp only
  have hflat (pieces : List Layout) : (writer identify).caseText pieces =
      Layout.concatSep (.atom " ") pieces := rfl
  cases hselect : Printer.select (· == .caseOperand) ps with
  | nil =>
    obtain rfl : none = operand := by simpa [hselect] using hoperand
    simp [hflat, Layout.toText_concatSep]
  | cons q qs =>
    obtain rfl : some q = operand := by simpa [hselect] using hoperand
    simp [hflat, Layout.toText_concatSep]

section CaseOf

variable {operand other : Option Node} {arms : List (Node × Node)}
  (harms : ∀ arm ∈ arms,
    Writes identify arm.1 (text identify arm.1) ∧ Writes identify arm.2 (text identify arm.2))
  (hother : ∀ n ∈ other, Writes identify n (text identify n))
include harms hother

theorem brings_clauses :
    ∀ n ∈ caseClauses arms other, Brings identify n (phrases identify n) := by
  intro n hn
  obtain hn | hn := List.mem_append.mp hn
  · obtain ⟨arm, harm, rfl⟩ := List.mem_map.mp hn
    exact .arm (harms arm harm).1 (harms arm harm).2
  · obtain ⟨m, hm, rfl⟩ := Option.map_eq_some_iff.mp (Option.mem_toList.mp hn)
    exact .other (hother m hm)

theorem Writes.caseOf (hoperand : ∀ n ∈ operand, Writes identify n (text identify n)) :
    Writes identify (caseOf operand arms other)
      (" ".intercalate ("CASE" :: caseTexts identify operand arms other ++ ["END"])) := by
  have hclauses := brings_clauses harms hother
  cases operand with
  | none =>
    refine .node (fun n hn => (hclauses n hn).toFits) (fun _ => rfl) (fun _ => rfl) rfl
      fun ctx inner => ⟨rfl, rfl, ?_, .inl rfl⟩
    have hselect : Printer.select (· == .caseOperand)
        (parts identify inner (caseClauses arms other)) = [] := select_operand hclauses
    change ((writer identify).compose ctx .caseOf []
      (parts identify inner (caseClauses arms other))).body.toText = _
    rw [toText_caseOf (congrArg List.head? hselect), toText_pieces hclauses]
    rfl
  | some n =>
    have hn : Writes identify (.of .caseOperand [n]) (text identify n) :=
      (hoperand n rfl).caseOperand
    have hfits : ∀ m ∈ .of .caseOperand [n] :: caseClauses arms other, Fits m :=
      List.forall_mem_cons.mpr ⟨hn.toFits, fun m hm => (hclauses m hm).toFits⟩
    refine .node hfits (fun _ => rfl) (fun _ => rfl) rfl fun ctx inner => ⟨rfl, rfl, ?_, .inl rfl⟩
    change ((writer identify).compose ctx .caseOf [] (⟨_, (writer identify).render inner _⟩ ::
      parts identify inner (caseClauses arms other))).body.toText = _
    rw [toText_caseOf rfl, List.flatMap_cons, List.map_append, toText_pieces hclauses]
    change " ".intercalate ("CASE" :: ([((writer identify).full _).toText] ++ ([] ++ _)) ++ _) = _
    rw [(hn.shows inner).toText_full]
    rfl

end CaseOf

/-! ## Calls -/

/-- Kinds of functions with words between their arguments. -/
def wordedKinds : List String := ["STRPOSITION", "OVERLAY", "CONVERTUSING"]

/-- What stands in front of the arguments of a call, if they are in parentheses and only commas are
between them. -/
def callName? : Function → Option String
  | .known kind name => if kind ∈ wordedKinds then none else some (Text.upper name)
  | .unknown name quoted => some (if quoted then Text.quoted '\x60' name else Text.upper name)
  | .length bytes => some (if bytes then "LENGTH" else "CHAR_LENGTH")
  | .substring => some "SUBSTRING"
  | .concat => some "CONCAT"
  | _ => none

theorem toText_call (name : String) (args : List Layout) :
    ((writer identify).call name args).toText =
      Text.upper name ++ "(" ++ ", ".intercalate (args.map Layout.toText) ++ ")" := by
  change (Layout.atom (Text.upper name) ++ "(" ++ Layout.concatSep (.atom ", ") args ++
    ")").toText = _
  simp [Layout.toText_concatSep]

theorem toText_capitals (name : String) (hname : Text.upper name = name) (args : List Layout) :
    ((writer identify).call name args).toText =
      name ++ "(" ++ ", ".intercalate (args.map Layout.toText) ++ ")" := by
  rw [toText_call, hname]

theorem toText_functionCall {f : Function} {name : String} (hname : callName? f = some name)
    (ps : List Node) (args : List Layout) : ((writer identify).functionCall f ps args).toText =
      name ++ "(" ++ ", ".intercalate (args.map Layout.toText) ++ ")" := by
  cases f with
  | known kind word =>
    simp only [callName?] at hname
    split at hname
    · cases hname
    · next hkind =>
      obtain rfl := Option.some.inj hname
      simp only [wordedKinds, List.mem_cons, List.not_mem_nil, or_false, not_or] at hkind
      simp [Printer.functionCall, hkind, toText_call]
  | unknown word quoted =>
    obtain rfl := Option.some.inj hname
    cases quoted with
    | false => exact toText_call word args
    | true =>
      change (Layout.ofText (Text.quoted '\x60' word) ++ "(" ++
        Layout.concatSep (.atom ", ") args ++ ")").toText = _
      simp [Layout.toText_concatSep]
  | length bytes =>
    obtain rfl := Option.some.inj hname
    cases bytes with
    | false => exact toText_capitals "CHAR_LENGTH" (by decide) args
    | true => exact toText_capitals "LENGTH" (by decide) args
  | substring =>
    obtain rfl := Option.some.inj hname
    exact toText_capitals "SUBSTRING" (by decide) args
  | concat =>
    obtain rfl := Option.some.inj hname
    exact toText_capitals "CONCAT" (by decide) args
  | _ => cases hname

/-- Where a call stands makes no difference to it. -/
theorem lowerIn_call {f : Function} (hns : ∀ n ∈ ns, Fits n) (site : Lowering.Site) :
    lowerIn .mysql site (.of (.call f) ns) =
      Lowering.fit .mysql {} (.call f) [] (ns.map fitted) := by
  change Lowering.fit .mysql site (.call f) [] (lowerAll .mysql _ ns) = _
  rw [lowerAll_eq_map hns]
  cases f <;> rfl

/-- A call that stays a call of the same arguments. -/
theorem Writes.call {f g : Function} {name : String}
    (hns : ∀ n ∈ ns, Writes identify n (text identify n))
    (hkept : fitted (.of (.call f) ns) = .of (.call g) (ns.map fitted))
    (hname : callName? g = some name) : Writes identify (.of (.call f) ns)
      (name ++ "(" ++ ", ".intercalate (ns.map (text identify)) ++ ")") := by
  have hfits : ∀ n ∈ ns, Fits n := fun n hn => (hns n hn).toFits
  have hlower (site : Lowering.Site) : lowerIn .mysql site (.of (.call f) ns) =
      .of (.call g) (lowerAll .mysql (site.inside (.call f)) ns) := by
    rw [lowerIn_call hfits, ← lowerIn_call hfits {}, lowerAll_eq_map hfits, ← hkept, fitted]
  refine .node hfits hlower (fun _ => rfl) rfl fun ctx inner => ?_
  have hbody : (writer identify).compose ctx (.call g) [] (parts identify inner ns) =
      { body := (writer identify).functionCall g ((parts identify inner ns).map Part.node)
          (((parts identify inner ns).map Part.rendered).map (writer identify).full) } := by
    cases g <;> first | rfl | cases hname
  rw [hbody]
  refine ⟨rfl, rfl, ?_, .inl rfl⟩
  rw [toText_functionCall hname, toText_parts hns]

end Condition

end SemanticLayer.Sql
