import Mathlib.Data.Finset.Card
import Mathlib.Data.List.Forall2
import Mathlib.Data.List.Nodup
import Mathlib.Data.List.Perm.Subperm
import SemanticLayer.Proofs.Validation

/-!
# Which definitions make a registry

`build_eq_ok_iff` says what a registry holds: the model of each definition, in the order of the
definitions. Since the names of a registry are distinct by its type, definitions that are valid one
by one are refused only for a name that occurs twice.

Definitions are taken one after the other, so where they make no registry, those before some index
make one and the definition at the index cannot be added to it (`Outcome.foldlM_eq_error_iff`).
`RefusedAt` says what speaks against a definition without a registry: it is not valid, or it has the
name of one before it. `build_eq_error_iff` shows that the first such definition decides.

The models that candidates name are found in two ways, candidate by candidate or model by model.
`mem_resolve` and `mem_resolveOrdered` say that these are the same models.
`resolveOrdered_of_sublist` says which models matter to a look-up: further ones, wherever they are
registered, do not change the models that candidates name, unless a candidate names one of them.
-/

namespace SemanticLayer.Registry

/-! ## Definitions that make a registry -/

/-- Registries with the same models are the same. -/
theorem ext_models {r s : Registry} (h : r.models = s.models) : r = s := by
  obtain ⟨_, _⟩ := r
  obtain ⟨_, _⟩ := s
  subst h
  rfl

/-- One more definition adds its model at the end, if its name is new. -/
theorem add_eq_ok_iff {r s : Registry} {d : Definition} :
    r.add d = .ok s ↔ ∃ m, d.validate = .ok m ∧ s.models = r.models ++ [m] := by
  rw [add, Outcome.bind_eq_ok_iff]
  refine exists_congr fun m => and_congr_right fun _ => ?_
  by_cases hname : m.name ∈ r.names
  · rw [dif_pos hname]
    refine ⟨nofun, fun hs => ?_⟩
    -- The names of `s` would repeat the one of `m`.
    have hnodup := s.distinct
    rw [hs, List.map_append, List.nodup_append] at hnodup
    exact absurd rfl (hnodup.2.2 m.name hname m.name (by simp))
  · rw [dif_neg hname]
    exact ⟨fun hs => Except.ok.inj hs ▸ rfl, fun hs => congrArg _ (ext_models hs.symm)⟩

/-- Further definitions add their models at the end, in order. -/
theorem foldlM_add_eq_ok_iff {ds : List Definition} {r s : Registry} :
    ds.foldlM add r = .ok s ↔
      ∃ ms, List.Forall₂ (fun d m => d.validate = .ok m) ds ms ∧ s.models = r.models ++ ms := by
  induction ds generalizing r with
  | nil =>
    rw [List.foldlM_nil]
    constructor
    · intro h
      exact ⟨[], .nil, by rw [Except.ok.inj h, List.append_nil]⟩
    · rintro ⟨ms, hms, hs⟩
      rw [List.forall₂_nil_left_iff.1 hms, List.append_nil] at hs
      exact congrArg _ (ext_models hs.symm)
  | cons d ds ih =>
    rw [List.foldlM_cons, Outcome.bind_eq_ok_iff]
    constructor
    · rintro ⟨t, ht, hs⟩
      obtain ⟨m, hm, htm⟩ := add_eq_ok_iff.1 ht
      obtain ⟨ms, hms, hsm⟩ := ih.1 hs
      exact ⟨m :: ms, .cons hm hms, by rw [hsm, htm, List.append_assoc]; rfl⟩
    · rintro ⟨ms, hms, hs⟩
      obtain ⟨m, rest, hm, hrest, rfl⟩ := List.forall₂_cons_left_iff.1 hms
      -- The registry after `d`: its names are distinct since those of `s` are.
      have hsplit : s.models = (r.models ++ [m]) ++ rest := by rw [hs, List.append_assoc]; rfl
      have hdistinct : ((r.models ++ [m]).map SemanticModel.name).Nodup := by
        have hnodup := s.distinct
        rw [hsplit, List.map_append] at hnodup
        exact (List.nodup_append.1 hnodup).1
      exact ⟨⟨r.models ++ [m], hdistinct⟩, add_eq_ok_iff.2 ⟨m, hm, rfl⟩,
        ih.2 ⟨rest, hrest, hsplit⟩⟩

/-- Definitions make the registry of their models, in the order of the definitions. -/
theorem build_eq_ok_iff {ds : List Definition} {r : Registry} :
    build ds = .ok r ↔ List.Forall₂ (fun d m => d.validate = .ok m) ds r.models := by
  rw [build, foldlM_add_eq_ok_iff]
  constructor
  · rintro ⟨ms, hms, hr⟩
    rw [hr]
    exact hms
  · intro h
    exact ⟨r.models, h, rfl⟩

/-- The same, with the outcomes of the definitions in a row. -/
theorem build_eq_ok_iff_map {ds : List Definition} {r : Registry} :
    build ds = .ok r ↔ ds.map Definition.validate = r.models.map .ok := by
  rw [build_eq_ok_iff, ← List.forall₂_eq_eq_eq, List.forall₂_map_left_iff,
    List.forall₂_map_right_iff]

/-! ## Definitions that do not -/

/-- What speaks against the definition at an index. -/
inductive RefusedAt (ds : List Definition) (i : Nat) : DefinitionError → Prop
  /-- The definition is not valid. -/
  | invalid {d : Definition} {name : Value} {lines : List String} (hd : ds[i]? = some d)
      (h : d.validate = .error (.invalid name lines)) : RefusedAt ds i (.invalid name lines)
  /-- The definition is a document, but no mapping. -/
  | notMapping {v : Value} {cause : Value.EntriesError} (hd : ds[i]? = some (.document v))
      (h : v.entries = .error cause) : RefusedAt ds i (.notMapping cause)
  /-- The definition is valid, and its model has the name of the model of one before it. -/
  | duplicate {d earlier : Definition} {m n : SemanticModel} (hd : ds[i]? = some d)
      (hm : d.validate = .ok m) (hearlier : earlier ∈ ds.take i) (hn : earlier.validate = .ok n)
      (hname : n.name = m.name) : RefusedAt ds i (.duplicate m.name)

/-- A definition cannot be added if it is not valid, or if its name is taken. -/
theorem add_eq_error_iff {r : Registry} {d : Definition} {e : DefinitionError} :
    r.add d = .error e ↔
      d.validate = .error e ∨
        ∃ m, d.validate = .ok m ∧ m.name ∈ r.names ∧ e = .duplicate m.name := by
  rw [add, Outcome.bind_eq_error_iff]
  refine or_congr_right (exists_congr fun m => and_congr_right fun _ => ?_)
  by_cases hname : m.name ∈ r.names
  · rw [dif_pos hname]
    constructor
    · intro h
      exact ⟨hname, (Except.error.inj h).symm⟩
    · rintro ⟨-, rfl⟩
      rfl
  · rw [dif_neg hname]
    constructor
    · intro h
      cases h
    · rintro ⟨hmem, -⟩
      exact absurd hmem hname

/-- The names that are taken after definitions are those of their models. -/
theorem mem_names_iff_of_build {ds : List Definition} {r : Registry} (h : build ds = .ok r)
    {name : String} :
    name ∈ r.names ↔ ∃ d ∈ ds, ∃ m, d.validate = .ok m ∧ m.name = name := by
  have hmodels : ds.map Definition.validate = r.models.map .ok := build_eq_ok_iff_map.1 h
  have hmem (m : SemanticModel) : m ∈ r.models ↔ ∃ d ∈ ds, d.validate = .ok m := by
    have hmap : .ok m ∈ ds.map Definition.validate ↔
        (.ok m : Except DefinitionError SemanticModel) ∈ r.models.map .ok := by
      rw [hmodels]
    rw [List.mem_map, List.mem_map_of_injective fun _ _ => Except.ok.inj] at hmap
    exact hmap.symm
  rw [names, List.mem_map]
  constructor
  · rintro ⟨m, hm, hname⟩
    obtain ⟨d, hd, hvalidate⟩ := (hmem m).1 hm
    exact ⟨d, hd, m, hvalidate, hname⟩
  · rintro ⟨d, hd, m, hvalidate, hname⟩
    exact ⟨m, (hmem m).2 ⟨d, hd, hvalidate⟩, hname⟩

/-- What speaks against a definition lies before it: later definitions do not matter. -/
theorem refusedAt_append_left {before after : List Definition} {i : Nat} {e : DefinitionError}
    (hi : i < before.length) : RefusedAt (before ++ after) i e ↔ RefusedAt before i e := by
  have hget : (before ++ after)[i]? = before[i]? := List.getElem?_append_left hi
  have htake : (before ++ after).take i = before.take i :=
    List.take_append_of_le_length (Nat.le_of_lt hi)
  constructor
  · intro h
    cases h with
    | invalid hd h => exact .invalid (hget ▸ hd) h
    | notMapping hd h => exact .notMapping (hget ▸ hd) h
    | duplicate hd hm hearlier hn hname =>
      exact .duplicate (hget ▸ hd) hm (htake ▸ hearlier) hn hname
  · intro h
    cases h with
    | invalid hd h => exact .invalid (hget.trans hd) h
    | notMapping hd h => exact .notMapping (hget.trans hd) h
    | duplicate hd hm hearlier hn hname =>
      exact .duplicate (hget.trans hd) hm (htake ▸ hearlier) hn hname

/-- Something speaks against a definition after others that make a registry exactly if it cannot be
added to that registry. -/
theorem refusedAt_length_iff {before after : List Definition} {d : Definition} {r : Registry}
    {e : DefinitionError} (h : build before = .ok r) :
    RefusedAt (before ++ d :: after) before.length e ↔ r.add d = .error e := by
  have hget : (before ++ d :: after)[before.length]? = some d := by simp
  have htake : (before ++ d :: after).take before.length = before := List.take_left
  rw [add_eq_error_iff]
  constructor
  · intro hrefused
    cases hrefused with
    | invalid hd hinvalid =>
      obtain rfl := Option.some.inj (hget.symm.trans hd)
      exact .inl hinvalid
    | notMapping hd hentries =>
      obtain rfl := Option.some.inj (hget.symm.trans hd)
      exact .inl (Definition.validate_of_entries_eq_error hentries)
    | duplicate hd hm hearlier hn hname =>
      obtain rfl := Option.some.inj (hget.symm.trans hd)
      rw [htake] at hearlier
      exact .inr ⟨_, hm, (mem_names_iff_of_build h).2 ⟨_, hearlier, _, hn, hname⟩, rfl⟩
  · rintro (hrefused | ⟨m, hm, hname, rfl⟩)
    · -- The error says itself of which kind it is.
      rcases Definition.validate_eq_error hrefused with ⟨_, _, rfl⟩ | ⟨v, cause, rfl, hv, rfl⟩
      · exact .invalid hget hrefused
      · exact .notMapping hget hv
    · obtain ⟨earlier, hearlier, n, hn, hnm⟩ := (mem_names_iff_of_build h).1 hname
      exact .duplicate hget hm (htake.symm ▸ hearlier) hn hnm

/-- What speaks against a definition speaks against one that is there. -/
theorem RefusedAt.exists_split {ds : List Definition} {i : Nat} {e : DefinitionError}
    (h : RefusedAt ds i e) :
    ∃ before d after, ds = before ++ d :: after ∧ before.length = i := by
  have hsome : ∃ d, ds[i]? = some d := by
    cases h with
    | invalid hd _ => exact ⟨_, hd⟩
    | notMapping hd _ => exact ⟨_, hd⟩
    | duplicate hd _ _ _ _ => exact ⟨_, hd⟩
  obtain ⟨d, hd⟩ := hsome
  obtain ⟨hi, hget⟩ := List.getElem?_eq_some_iff.1 hd
  refine ⟨ds.take i, d, ds.drop (i + 1), ?_, List.length_take_of_le (Nat.le_of_lt hi)⟩
  calc ds
      = ds.take i ++ ds.drop i := (List.take_append_drop i ds).symm
    _ = ds.take i ++ d :: ds.drop (i + 1) := by rw [List.drop_eq_getElem_cons hi, hget]

/-- Nothing speaks against definitions that make a registry. -/
theorem not_refusedAt_of_build {ds : List Definition} {r : Registry} (h : build ds = .ok r)
    (i : Nat) (e : DefinitionError) : ¬ RefusedAt ds i e := by
  intro hrefused
  obtain ⟨before, d, after, rfl, rfl⟩ := hrefused.exists_split
  -- The registry before `d`, and the one after it.
  rw [build, List.foldlM_append] at h
  obtain ⟨s, hs, hrest⟩ := Outcome.bind_eq_ok_iff.1 h
  rw [List.foldlM_cons] at hrest
  obtain ⟨t, ht, -⟩ := Outcome.bind_eq_ok_iff.1 hrest
  have herror : s.add d = .error e := (refusedAt_length_iff hs).1 hrefused
  cases herror.symm.trans ht

/-- Definitions that make no registry are refused for the first that something speaks against. -/
theorem exists_refusedAt_of_build {ds : List Definition} {e : DefinitionError}
    (h : build ds = .error e) :
    ∃ i, RefusedAt ds i e ∧ ∀ j < i, ∀ e', ¬ RefusedAt ds j e' := by
  obtain ⟨before, d, after, r, rfl, hr, hadd⟩ := Outcome.foldlM_eq_error_iff.1 h
  refine ⟨before.length, (refusedAt_length_iff hr).2 hadd, ?_⟩
  intro j hj e' hrefused
  exact not_refusedAt_of_build hr j e' ((refusedAt_append_left hj).1 hrefused)

/-- The first definition that something speaks against decides, and nothing else does. -/
theorem build_eq_error_iff {ds : List Definition} {e : DefinitionError} :
    build ds = .error e ↔ ∃ i, RefusedAt ds i e ∧ ∀ j < i, ∀ e', ¬ RefusedAt ds j e' := by
  constructor
  · exact exists_refusedAt_of_build
  · rintro ⟨i, hrefused, hfirst⟩
    obtain ⟨before, d, after, rfl, rfl⟩ := hrefused.exists_split
    cases hbefore : build before with
    | ok r =>
      have hadd : r.add d = .error e := (refusedAt_length_iff hbefore).1 hrefused
      exact Outcome.foldlM_eq_error_iff.2 ⟨before, d, after, r, rfl, hbefore, hadd⟩
    | error e' =>
      -- Then something speaks against a definition before `d` already.
      obtain ⟨j, hj, -⟩ := exists_refusedAt_of_build hbefore
      obtain ⟨front, x, rest, rfl, rfl⟩ := hj.exists_split
      have hlt : front.length < (front ++ x :: rest).length := by simp
      exact absurd ((refusedAt_append_left hlt).2 hj) (hfirst _ hlt e')

/-! ## Look-ups -/

/-- The model of a name is the one that has it. -/
theorem get?_eq_some_iff {r : Registry} {name : String} {m : SemanticModel} :
    r.get? name = some m ↔ m ∈ r.models ∧ m.name = name :=
  find?_eq_some_iff_of_nodup r.distinct

/-- The model of a name stands at the only place where the names have it. -/
theorem get?_eq_some_iff_getElem? {r : Registry} {name : String} {m : SemanticModel} :
    r.get? name = some m ↔
      ∃ i : Nat, r.models[i]? = some m ∧ ∀ j : Nat, r.names[j]? = some name ↔ j = i := by
  have hnames (i : Nat) : r.names[i]? = r.models[i]?.map SemanticModel.name := List.getElem?_map
  rw [get?_eq_some_iff]
  constructor
  · rintro ⟨hm, hname⟩
    obtain ⟨i, hi⟩ := List.mem_iff_getElem?.1 hm
    have hat : r.names[i]? = some name := by rw [hnames, hi, Option.map_some, hname]
    have hlt : i < r.names.length := (List.getElem?_eq_some_iff.1 hat).1
    refine ⟨i, hi, fun j => ?_⟩
    rw [← hat, eq_comm, List.getElem?_inj hlt r.distinct, eq_comm]
  · rintro ⟨i, hi, hplace⟩
    have hat : r.names[i]? = some name := (hplace i).2 rfl
    rw [hnames, hi, Option.map_some] at hat
    exact ⟨List.mem_of_getElem? hi, Option.some.inj hat⟩

/-- A name is in the registry exactly if it has a model. -/
theorem contains_iff {r : Registry} {name : String} :
    r.contains name = true ↔ ∃ m, r.get? name = some m := by
  rw [contains, List.contains_iff_mem, names, List.mem_map]
  exact exists_congr fun m => get?_eq_some_iff.symm

/-- Definitions make a registry exactly if each one is valid and the names of their models are
distinct. The registry then holds these models, and their names, in the order of the definitions,
the model of a name is the one at the only place that has the name, and a name is in the registry
exactly if it has a model. Otherwise the first definition that is not valid, or has the name of one
before it, decides on the error. -/
theorem build_outcome (ds : List Definition) :
    ((∃ r, build ds = .ok r) ↔
      ∃ ms : List SemanticModel, ds.map Definition.validate = ms.map .ok ∧
        (ms.map SemanticModel.name).Nodup) ∧
      (∀ r, build ds = .ok r →
        ds.map Definition.validate = r.models.map .ok ∧
          ds.map (fun d => SemanticModel.name <$> d.validate) = r.names.map .ok ∧
          (∀ name m, r.get? name = some m ↔
            ∃ i : Nat, r.models[i]? = some m ∧ ∀ j : Nat, r.names[j]? = some name ↔ j = i) ∧
          (∀ name m, r.get? name = some m → m.name = name) ∧
          ∀ name, r.contains name = true ↔ r.get? name ≠ none) ∧
      ∀ e, build ds = .error e ↔ ∃ i, RefusedAt ds i e ∧ ∀ j < i, ∀ e', ¬ RefusedAt ds j e' := by
  refine ⟨?_, ?_, fun e => build_eq_error_iff⟩
  · constructor
    · rintro ⟨r, hr⟩
      exact ⟨r.models, build_eq_ok_iff_map.1 hr, r.distinct⟩
    · rintro ⟨ms, hms, hnodup⟩
      exact ⟨⟨ms, hnodup⟩, build_eq_ok_iff_map.2 hms⟩
  · intro r hr
    have hmodels : ds.map Definition.validate = r.models.map .ok := build_eq_ok_iff_map.1 hr
    have hnames : ds.map (fun d => SemanticModel.name <$> d.validate) = r.names.map .ok := by
      calc ds.map (fun d => SemanticModel.name <$> d.validate)
          = (ds.map Definition.validate).map (SemanticModel.name <$> ·) := by
            rw [List.map_map]
            rfl
        _ = r.names.map .ok := by
            rw [hmodels, names, List.map_map, List.map_map]
            rfl
    refine ⟨hmodels, hnames, fun name m => get?_eq_some_iff_getElem?, ?_, ?_⟩
    · intro name m hm
      exact (get?_eq_some_iff.1 hm).2
    · intro name
      rw [contains_iff, Option.ne_none_iff_exists']

/-! ## Candidates -/

/-- The models that candidates name are those of the registry with one of the names. -/
theorem mem_resolveOrdered {r : Registry} {candidates : List String} {m : SemanticModel} :
    m ∈ r.resolveOrdered candidates ↔ m ∈ r.models ∧ m.name ∈ candidates := by
  rw [resolveOrdered, List.mem_filter, List.contains_iff_mem]

/-- What is left without repetitions has none. -/
theorem nodup_eraseDups {α : Type} [BEq α] [LawfulBEq α] (items : List α) :
    items.eraseDups.Nodup := by
  -- The items that are left after the first one are fewer, but no part of the list as it stands.
  induction hn : items.length using Nat.strong_induction_on generalizing items with
  | _ n ih =>
    cases items with
    | nil => exact List.nodup_nil
    | cons a rest =>
      rw [List.eraseDups_cons, List.nodup_cons, List.mem_eraseDups]
      have hlength : (rest.filter fun b => !b == a).length < n := by
        rw [← hn, List.length_cons]
        exact Nat.lt_succ_of_le (List.length_filter_le _ rest)
      exact ⟨by simp, ih _ hlength _ rfl⟩

/-- The models that are found candidate by candidate are those with one of the names, too. -/
theorem mem_resolve {r : Registry} {candidates : List String} {m : SemanticModel} :
    m ∈ r.resolve candidates ↔ m ∈ r.models ∧ m.name ∈ candidates := by
  rw [resolve, List.mem_eraseDups, List.mem_filterMap]
  constructor
  · rintro ⟨name, hname, hget⟩
    obtain ⟨hm, rfl⟩ := get?_eq_some_iff.1 hget
    exact ⟨hm, hname⟩
  · rintro ⟨hm, hname⟩
    exact ⟨m.name, hname, get?_eq_some_iff.2 ⟨hm, rfl⟩⟩

/-- No two models are taken for one: there are as many as there are candidates in the registry. -/
theorem length_resolve (r : Registry) (candidates : List String) :
    (r.resolve candidates).length = {name ∈ candidates.toFinset | r.contains name = true}.card := by
  have hnodup : ((r.resolve candidates).map SemanticModel.name).Nodup := by
    refine List.Nodup.map_on (fun m hm n hn hname => ?_) (nodup_eraseDups _)
    exact List.inj_on_of_nodup_map r.distinct (mem_resolve.1 hm).1 (mem_resolve.1 hn).1 hname
  have hnames : ((r.resolve candidates).map SemanticModel.name).toFinset =
      {name ∈ candidates.toFinset | r.contains name = true} := by
    ext name
    rw [List.mem_toFinset, Finset.mem_filter, List.mem_toFinset, List.mem_map, contains_iff]
    constructor
    · rintro ⟨m, hm, rfl⟩
      obtain ⟨hmodel, hname⟩ := mem_resolve.1 hm
      exact ⟨hname, m, get?_eq_some_iff.2 ⟨hmodel, rfl⟩⟩
    · rintro ⟨hname, m, hget⟩
      obtain ⟨hmodel, rfl⟩ := get?_eq_some_iff.1 hget
      exact ⟨m, mem_resolve.2 ⟨hmodel, hname⟩, rfl⟩
  calc (r.resolve candidates).length
      = ((r.resolve candidates).map SemanticModel.name).length := (List.length_map _).symm
    _ = ((r.resolve candidates).map SemanticModel.name).toFinset.card :=
        (List.toFinset_card_of_nodup hnodup).symm
    _ = _ := by rw [hnames]

/-- The models that candidates name, by a condition on their names. -/
theorem resolveOrdered_eq_filter (r : Registry) (candidates : List String) :
    r.resolveOrdered candidates = r.models.filter fun m => decide (m.name ∈ candidates) :=
  List.filter_congr fun m _ => Bool.eq_iff_iff.2 (by simp)

/-- No two of the models that candidates name have the same name. -/
theorem nodup_resolveOrdered (r : Registry) (candidates : List String) :
    ((r.resolveOrdered candidates).map SemanticModel.name).Nodup :=
  r.distinct.sublist (List.filter_sublist.map _)

/-- Further models whose names are no candidates do not change which models candidates name. -/
theorem resolveOrdered_of_sublist {r s : Registry} (h : r.models.Sublist s.models)
    {candidates : List String}
    (hextra : ∀ m ∈ s.models, m ∉ r.models → m.name ∉ candidates) :
    s.resolveOrdered candidates = r.resolveOrdered candidates := by
  have hsublist : (r.resolveOrdered candidates).Sublist (s.resolveOrdered candidates) := h.filter _
  have hsubset : s.resolveOrdered candidates ⊆ r.resolveOrdered candidates := by
    intro m hm
    obtain ⟨hmem, hname⟩ := mem_resolveOrdered.1 hm
    refine mem_resolveOrdered.2 ⟨?_, hname⟩
    by_contra hnot
    exact hextra m hmem hnot hname
  -- No model occurs twice, so the larger list is not longer than the smaller one.
  have hnodup : (s.resolveOrdered candidates).Nodup := .of_map _ (s.nodup_resolveOrdered candidates)
  have hlength := (hnodup.subperm hsubset).length_le
  exact (hsublist.eq_of_length_le hlength).symm

/-- Model by model, what candidates name comes without repetitions and in the order of the registry,
and depends on nothing but which names are candidates. Candidate by candidate, the same models are
found, each once and as many as there are names of the registry among the candidates. Both ways,
the candidates of two kinds together name what those of either kind name. -/
theorem resolvers_agree (r : Registry) (candidates : List String) :
    (r.resolveOrdered candidates).Nodup ∧
      (r.resolveOrdered candidates).Sublist r.models ∧
      (∀ others : List String, others.toFinset = candidates.toFinset →
        r.resolveOrdered others = r.resolveOrdered candidates) ∧
      (r.resolve candidates).Nodup ∧
      (r.resolveOrdered candidates).toFinset = (r.resolve candidates).toFinset ∧
      (r.resolve candidates).length =
        {name ∈ candidates.toFinset | r.contains name = true}.card ∧
      ∀ others union : List String, union.toFinset = candidates.toFinset ∪ others.toFinset →
        (r.resolve union).toFinset = (r.resolve candidates).toFinset ∪ (r.resolve others).toFinset ∧
          (r.resolveOrdered union).toFinset =
            (r.resolveOrdered candidates).toFinset ∪ (r.resolveOrdered others).toFinset := by
  have hagree (names : List String) :
      (r.resolveOrdered names).toFinset = (r.resolve names).toFinset := by
    ext m
    rw [List.mem_toFinset, List.mem_toFinset, mem_resolveOrdered, mem_resolve]
  refine ⟨.of_map _ (r.nodup_resolveOrdered candidates), List.filter_sublist, ?_,
    nodup_eraseDups _, hagree candidates, r.length_resolve candidates, ?_⟩
  · intro others hothers
    have hmem (name : String) : name ∈ others ↔ name ∈ candidates := by
      rw [← List.mem_toFinset, hothers, List.mem_toFinset]
    rw [resolveOrdered_eq_filter, resolveOrdered_eq_filter]
    exact List.filter_congr fun m _ => decide_eq_decide.2 (hmem m.name)
  · intro others union hunion
    have hmem (name : String) : name ∈ union ↔ name ∈ candidates ∨ name ∈ others := by
      rw [← List.mem_toFinset, hunion, Finset.mem_union, List.mem_toFinset, List.mem_toFinset]
    have hresolve : (r.resolve union).toFinset =
        (r.resolve candidates).toFinset ∪ (r.resolve others).toFinset := by
      ext m
      rw [Finset.mem_union, List.mem_toFinset, List.mem_toFinset, List.mem_toFinset, mem_resolve,
        mem_resolve, mem_resolve, hmem, and_or_left]
    refine ⟨hresolve, ?_⟩
    rw [hagree, hagree, hagree, hresolve]

end SemanticLayer.Registry
