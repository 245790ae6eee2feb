import SemanticLayer.Proofs.Names
import SemanticLayer.Sql.Lowering

/-!
# Where the names of a fitted expression come from

A tree that is fitted to a target has the names that were in the tree before, and names that the
fitting makes up. `Holds t P` says of a tree that `P` holds of all its names; every function of the
fitting to the target `t` keeps it, if `P` holds of the names in `madeNames`.

Two forms make names of texts: DISTINCT ON, which is spelled out for targets without it, and
STRUCT_EXTRACT. A tree with one of them may have any names.
-/

namespace SemanticLayer.Sql

namespace Lowering

/-- The names that the fitting makes up. -/
def madeNames : List String :=
  ["_t", "_u", "x", "pos", "col", "_row_number", "_w", "_c", "_col"]

/-- Whether a node is a DISTINCT ON that the target lacks. -/
def spellsDistinct (t : Target) (n : Node) : Bool :=
  !t.hasDistinctOn && n.head.isDistinct && !n.parts.isEmpty

/-- `P` holds of the names that the fitting makes up, and of a name that gets a number. -/
structure Covers (P : Ident → Prop) : Prop where
  made : ∀ s ∈ madeNames, ∀ taken, P ⟨freshName taken s, false⟩
  renamed : ∀ i, P i → ∀ taken, P ⟨freshName taken i.name, i.quoted⟩

/-- `P` holds of the names in the head of a node, and of all names without quotes if the node is a
DISTINCT ON that the target lacks. -/
structure Fine (t : Target) (P : Ident → Prop) (n : Node) : Prop where
  names : ∀ i ∈ n.head.names, P i
  views : ∀ i ∈ n.head.viewNames, P i
  distinct : spellsDistinct t n = true → ∀ s, P ⟨s, false⟩

/-- `P` holds of all names in a tree. -/
abbrev Holds (t : Target) (P : Ident → Prop) (n : Node) : Prop := n.Each (Fine t P)

variable {t : Target} {P : Ident → Prop} {h : Head} {c : List String} {ps : List Node}
  {n this other : Node}

theorem holds_named (hdistinct : h.isDistinct = false) :
    Holds t P (.mk h c ps) ↔
      ((∀ i ∈ h.names, P i) ∧ ∀ i ∈ h.viewNames, P i) ∧ ∀ p ∈ ps, Holds t P p := by
  have hspells : spellsDistinct t (.mk h c ps) = false := by
    simp [spellsDistinct, hdistinct]
  rw [Holds, Node.each_mk]
  refine and_congr_left fun _ => ⟨fun hfine => ⟨hfine.names, hfine.views⟩, fun hnames => ?_⟩
  exact ⟨hnames.1, hnames.2, fun hd => absurd (hspells.symm.trans hd) Bool.false_ne_true⟩

/-- A node without names of its own has the names of its parts. -/
theorem holds_mk (hnames : h.takesNames = false) (hdistinct : h.isDistinct = false) :
    Holds t P (.mk h c ps) ↔ ∀ p ∈ ps, Holds t P p := by
  rw [holds_named hdistinct]
  refine and_iff_right ?_
  cases h <;> cases hnames <;>
    exact ⟨fun _ => List.not_mem_nil.elim, fun _ => List.not_mem_nil.elim⟩

theorem holds_of (hnames : h.takesNames = false) (hdistinct : h.isDistinct = false) :
    Holds t P (.of h ps) ↔ ∀ p ∈ ps, Holds t P p :=
  holds_mk hnames hdistinct

theorem Holds.parts (hn : Holds t P n) : ∀ p ∈ n.parts, Holds t P p := by
  obtain ⟨h, c, ps⟩ := n
  exact (Node.each_mk.1 hn).2

theorem Holds.fine (hn : Holds t P n) : Fine t P n := by
  obtain ⟨h, c, ps⟩ := n
  exact (Node.each_mk.1 hn).1

theorem holds_headD (hps : ∀ p ∈ ps, Holds t P p) (hn : Holds t P n) :
    Holds t P (ps.headD n) := by
  cases ps with
  | nil => exact hn
  | cons p ps => exact hps p List.mem_cons_self

theorem holds_take (k : Nat) (hps : ∀ p ∈ ps, Holds t P p) : ∀ p ∈ ps.take k, Holds t P p :=
  fun p hp => hps p (List.mem_of_mem_take hp)

theorem holds_head?_drop (k : Nat) (hps : ∀ p ∈ ps, Holds t P p) :
    ∀ p ∈ (ps.drop k).head?, Holds t P p :=
  fun p hp => hps p (List.mem_of_mem_drop (List.mem_of_mem_head? hp))

theorem holds_some (hn : Holds t P n) : ∀ m ∈ some n, Holds t P m := by
  intro m hm
  obtain rfl := Option.some.inj hm
  exact hn

theorem holds_orElse {a b : Option Node} (ha : ∀ m ∈ a, Holds t P m) (hb : ∀ m ∈ b, Holds t P m) :
    ∀ m ∈ a <|> b, Holds t P m := by
  cases a with
  | none => exact hb
  | some n => exact ha

theorem holds_getD {o : Option Node} (ho : ∀ m ∈ o, Holds t P m) (hn : Holds t P n) :
    Holds t P (o.getD n) := by
  cases o with
  | none => exact hn
  | some m => exact ho m rfl

@[simp] theorem holds_text (s : String) : Holds t P (.text s) :=
  (holds_of rfl rfl).2 fun _ => List.not_mem_nil.elim

@[simp] theorem holds_num (s : String) : Holds t P (.num s) :=
  (holds_of rfl rfl).2 fun _ => List.not_mem_nil.elim

@[simp] theorem holds_type (name : String) : Holds t P (.type name) :=
  (holds_of rfl rfl).2 fun _ => List.not_mem_nil.elim

@[simp] theorem holds_castTo {name : String} : Holds t P (.castTo name n) ↔ Holds t P n := by
  rw [Node.castTo, holds_of rfl rfl]
  simp

@[simp] theorem holds_known {kind name : String} :
    Holds t P (.known kind name ps) ↔ ∀ p ∈ ps, Holds t P p :=
  holds_of rfl rfl

@[simp] theorem holds_plainCall {name : String} :
    Holds t P (plainCall name ps) ↔ ∀ p ∈ ps, Holds t P p :=
  holds_of rfl rfl

attribute [local simp] holds_mk holds_of Head.takesNames.eq_def Head.isDistinct.eq_def
  List.forall_mem_cons

/-! ## Values -/

theorem holds_literal (i : Int) : Holds t P (Arithmetic.literal i) := by
  unfold Arithmetic.literal
  dsimp only
  split <;> simp

theorem holds_folded (hn : Holds t P n) : Holds t P (Arithmetic.folded n) := by
  unfold Arithmetic.folded
  split
  · exact hn
  · cases Arithmetic.value? n with
    | none => exact hn
    | some i => exact holds_literal i

theorem holds_moved (step : Int) (hps : ∀ p ∈ ps, Holds t P p) :
    ∀ p ∈ Arithmetic.moved step ps, Holds t P p := by
  unfold Arithmetic.moved
  split
  · split
    · exact hps
    · split
      · simp [holds_literal]
      · exact hps
  · exact hps

theorem holds_usualPart (hn : Holds t P n) : Holds t P (usualPart n) := by
  unfold usualPart
  split
  · split
    · simp
    · exact hn
  · split
    · simp
    · exact hn
  · exact hn

theorem holds_mapArgument (f : String → String) (hn : Holds t P n) :
    Holds t P (TimeFormat.mapArgument f n) := by
  unfold TimeFormat.mapArgument
  split
  · simpa using hn
  · exact hn

theorem holds_guardOperand (hn : Holds t P n) : Holds t P (Calls.guardOperand n) := by
  unfold Calls.guardOperand
  split
  · simpa using hn
  · exact hn

theorem holds_conversion (lenient : Bool) (hps : ∀ p ∈ ps, Holds t P p) :
    Holds t P (conversion t c lenient ps) := by
  unfold conversion
  split
  · split <;> simp_all
  · simpa using hps

theorem holds_converted (name : String) (hn : Holds t P n) : Holds t P (converted t name n) :=
  holds_conversion false (by simpa using hn)

theorem holds_castOnce (name : String) (hn : Holds t P n) : Holds t P (castOnce t name n) := by
  unfold castOnce
  split
  · split
    · exact hn
    · exact holds_converted name hn
  · exact holds_converted name hn

theorem holds_asDate (hn : Holds t P n) : Holds t P (asDate n) := by
  unfold asDate
  split
  · split <;> simpa using hn
  · exact hn

theorem holds_division (safe real : Bool) (hps : ∀ p ∈ ps, Holds t P p) :
    ∀ p ∈ division t safe real ps, Holds t P p := by
  unfold division
  split
  · simp only [List.forall_mem_cons] at hps ⊢
    obtain ⟨hl, hr, hnil⟩ := hps
    refine ⟨?_, ?_, hnil⟩
    · split
      · exact holds_converted "DOUBLE" hl
      · exact hl
    · split
      · simpa using hr
      · exact hr
  · exact hps

theorem holds_integerDivision (hps : ∀ p ∈ ps, Holds t P p) :
    Holds t P (integerDivision t c ps) := by
  unfold integerDivision
  split
  · simpa using hps
  · simpa using hps
  · refine holds_converted "INT" ?_
    simpa using holds_division false _ hps

theorem holds_unwrap (hn : Holds t P n) : Holds t P (unwrap n) := by
  fun_induction unwrap n with
  | case1 c n ih => exact ih (by simpa using hn)
  | case2 => exact hn

mutual

theorem holds_joinOperands : ∀ {n : Node}, Holds t P n → ∀ p ∈ joinOperands n, Holds t P p
  | .mk h c ps, hn => by
    rw [joinOperands.eq_def]
    split
    · next heq =>
      cases heq
      exact holds_joinOperandsAll (by simpa using hn)
    · simpa using holds_unwrap hn

theorem holds_joinOperandsAll :
    ∀ {ps : List Node}, (∀ p ∈ ps, Holds t P p) → ∀ p ∈ joinOperandsAll ps, Holds t P p
  | [], _ => by simp [joinOperandsAll]
  | n :: ns, hps => by
    rw [List.forall_mem_cons] at hps
    rw [joinOperandsAll, List.forall_mem_append]
    exact ⟨holds_joinOperands hps.1, holds_joinOperandsAll hps.2⟩

end

theorem holds_patternMatch (anyCase : Bool) (hps : ∀ p ∈ ps, Holds t P p) :
    Holds t P (patternMatch t c anyCase ps) := by
  have htake := holds_take 2 hps
  unfold patternMatch
  split
  · simpa using htake
  · cases anyCase
    · simpa using hps
    · simpa [or_imp, forall_and] using htake
  · simpa using hps

theorem holds_connected (op : BinaryOp) (hps : ∀ p ∈ ps, Holds t P p) :
    ∀ n ∈ connected op ps, Holds t P n := by
  cases ps with
  | nil => simp [connected]
  | cons p ps =>
    rw [List.forall_mem_cons] at hps
    simp only [connected, Option.mem_some_iff, forall_eq']
    refine List.foldlRecOn (motive := Holds t P) ps _ hps.1 fun a ha b hb => ?_
    simpa using ⟨ha, hps.2 b hb⟩

theorem holds_quantified (hn : Holds t P n) : ∀ p ∈ quantified n, Holds t P p := by
  unfold quantified
  split
  · simpa using hn
  · simpa using hn

theorem holds_spelledQuantifier {parent : Head} {op : BinaryOp} (hthis : Holds t P this)
    (hn : Holds t P n) : ∀ m ∈ spelledQuantifier parent op this n, Holds t P m := by
  have hspelled : ∀ connector inner, Holds t P inner → ∀ m, ((connected connector
      ((quantified inner).map fun p => .of (.binary op) [this, p])).bind fun whole =>
        some (if isCondition parent && parent != .binary connector then .of .paren [whole]
          else whole)) = some m → Holds t P m := by
    intro connector inner hinner m hm
    obtain ⟨whole, hwhole, heq⟩ := Option.bind_eq_some_iff.1 hm
    obtain rfl := Option.some.inj heq
    have hwhole : Holds t P whole := by
      refine holds_connected connector ?_ whole hwhole
      simpa [hthis] using holds_quantified hinner
    split
    · simpa using hwhole
    · exact hwhole
  intro m hm
  unfold spelledQuantifier at hm
  split at hm
  · exact hspelled .or _ (by simpa using hn) m hm
  · exact hspelled .and _ (by simpa using hn) m hm
  · cases hm

theorem holds_exactlyOne (hn : Holds t P n) (hm : Holds t P other) :
    Holds t P (exactlyOne n other) := by
  simp [exactlyOne, hn, hm]

theorem holds_literalField (i : Nat) (hn : Holds t P n) : Holds t P (literalField n i) := by
  unfold literalField
  split
  · simp_all
  · exact hn
  · simpa using hn
  · simpa using hn

theorem holds_aliasedField (hn : Holds t P n) : Holds t P (aliasedField n) := by
  unfold aliasedField
  split
  · simp_all [holds_named, Head.names, Head.viewNames]
  · exact hn

theorem holds_fitRecord (hps : ∀ p ∈ ps, Holds t P p) : Holds t P (fitRecord t c ps) := by
  unfold fitRecord
  split
  · rw [holds_mk rfl rfl, List.forall_mem_map]
    exact fun p hp => holds_literalField p.2 (hps _ (List.fst_mem_of_mem_zipIdx hp))
  · rw [holds_mk rfl rfl, List.forall_mem_map]
    exact fun p hp => holds_aliasedField (hps p hp)

theorem holds_isNullTest (hn : Holds t P n) : Holds t P (isNullTest n) := by
  simp [isNullTest, holds_guardOperand hn]

theorem holds_oneDistinct (hps : ∀ p ∈ ps, Holds t P p) : Holds t P (oneDistinct ps) := by
  unfold oneDistinct
  rw [holds_of rfl rfl, List.forall_mem_append, List.forall_mem_map]
  refine ⟨fun p hp => ?_, ?_⟩
  · simp [holds_isNullTest (hps p hp)]
  · simpa using hps

/-! ## Arrays -/

theorem Covers.plain (hP : Covers P) {s : String} (hs : s ∈ madeNames) : P ⟨s, false⟩ :=
  hP.made s hs []

theorem holds_lambda {ids : List Ident} {worded : Bool} (hids : ∀ i ∈ ids, P i)
    (hps : ∀ p ∈ ps, Holds t P p) : Holds t P (.of (.lambda ids worded) ps) :=
  (holds_named rfl).2 ⟨⟨hids, fun _ => List.not_mem_nil.elim⟩, hps⟩

theorem holds_name {i : Ident} : Holds t P (.of (.name i) []) ↔ P i := by
  rw [Node.of, holds_named rfl]
  simp [Head.names, Head.viewNames]

theorem holds_listFilter (hthis : Holds t P this) (hn : Holds t P n) :
    Holds t P (listFilter this n) := by
  simp [listFilter, hthis, hn]

theorem holds_filterQuery {item : Ident} (hitem : P item) (hthis : Holds t P this)
    (hn : Holds t P n) : Holds t P (filterQuery this item n) := by
  have hsource : Holds t P (.of (.unnest (some { name := none, columns := [item] }) false)
      [this]) := by
    rw [Node.of, holds_named rfl]
    simp [Head.names, Head.labelNames, TableAlias.names, Head.viewNames, hitem, hthis]
  simp [filterQuery, holds_name, hitem, hsource, hn]

theorem holds_someItem (hthis : Holds t P this) (hn : Holds t P n) :
    Holds t P (someItem this n) := by
  simp [someItem, hthis, holds_listFilter hthis hn]

theorem holds_itemsOr (hP : Covers P) (hthis : Holds t P this) (hother : Holds t P other) :
    Holds t P (itemsOr this other) := by
  have hitem : P ⟨"x", false⟩ := hP.plain (by decide)
  have hchosen : Holds t P (.of (.lambda [⟨"x", false⟩] false)
      [.known "COALESCE" "COALESCE" [.of (.name ⟨"x", false⟩) [], other]]) := by
    refine holds_lambda (by simpa using hitem) ?_
    simp [holds_name, hitem, hother]
  simpa [itemsOr, hthis] using hchosen

theorem holds_fieldName (hfield : ∀ s, P (.ofText s)) (hn : Holds t P n) :
    ∀ i ∈ fieldName? n, P i := by
  unfold fieldName?
  split
  · simpa using hfield _
  · simpa using hfield _
  · next heq =>
    have hnames := hn.fine.names
    rw [heq] at hnames
    exact fun i hi => hnames i (List.mem_of_getLast? hi)
  · simp

theorem holds_arrayForm (hP : Covers P) {kind : String}
    (hfield : kind = "STRUCTEXTRACT" → t.functions = .postgres → ∀ s, P (.ofText s))
    (hps : ∀ p ∈ ps, Holds t P p) : ∀ m ∈ arrayForm? t c kind ps, Holds t P m := by
  have hitem : P itemName := hP.plain (by decide)
  unfold arrayForm?
  split
  case h_9 => simp
  all_goals
    simp only [List.forall_mem_cons, List.not_mem_nil, false_imp_iff, implies_true, and_true,
      Option.mem_some_iff, forall_eq'] at hps ⊢
  · exact holds_someItem hps.1 hps.2
  · refine holds_listFilter hps.1 (holds_lambda (by simpa using hitem) ?_)
    simp [holds_name, hitem, hps.2]
  · rw [holds_named rfl] at hps
    simp only [Head.names, List.forall_mem_cons] at hps
    exact holds_filterQuery hps.2.1.1.1 hps.1 hps.2.2.1
  · simp [holds_itemsOr hP hps.1 hps.2.2.1, hps.2.1]
  · simp [hps]
  · simpa [holds_asDate hps.1, holds_asDate hps.2.1] using hps.2.2
  · simp [hps]
  · next hfunctions =>
    intro m hm
    obtain ⟨i, hi, rfl⟩ := Option.map_eq_some_iff.1 hm
    simp [holds_name, hps.1, holds_fieldName (hfield rfl hfunctions) hps.2 i hi]

theorem holds_positionedItems {position item : Ident} (hposition : P position) (hitem : P item)
    (hthis : Holds t P this) : ∀ p ∈ positionedItems this position item, Holds t P p := by
  unfold positionedItems
  simp only [List.forall_mem_cons, Node.of]
  rw [holds_named rfl, holds_named rfl]
  simp [Head.names, Head.viewNames, hposition, hitem, hthis]

theorem holds_splitPositions (hP : Covers P) (hn : Holds t P n) :
    ∀ p ∈ splitPositions n, Holds t P p := by
  unfold splitPositions
  split
  · exact holds_positionedItems (hP.plain (by decide)) (hP.plain (by decide)) (by simpa using hn)
  · rw [holds_named rfl] at hn
    simp only [Head.names, List.forall_mem_cons] at hn
    exact holds_positionedItems hn.1.1.1 hn.1.1.2.1 (by simpa using hn.2.1)
  · simpa using hn

end Lowering

end SemanticLayer.Sql
