import SemanticLayer.Proofs.Outcome
import SemanticLayer.Proofs.Registry
import SemanticLayer.Storage.Loading

/-!
# SQL models in files

The SQL models below a directory are read in the order of their paths and kept by the names of their
files. The directories they are in do not count, so a file takes the place of an earlier one of the
same name without an error: of the files of one name the last one is kept (`lookup_sqlModels_iff`).

`sqlModels_keeps_all_iff` says when nothing is lost. Files of the same name have to have the same
text, which is also when the order of the files does not matter. Then no schema can tell in which
order they were read (`loadSchema_congr`).
-/

namespace SemanticLayer

/-! ## Paths in order -/

namespace Path

variable {p q r : Path}

theorem le_iff : p.le q = true ↔ ¬q.names < p.names := by
  rw [le, Bool.not_eq_true', decide_eq_false_iff_not]

theorem le_refl (p : Path) : p.le p = true := le_iff.2 (List.lt_irrefl _)

theorem le_trans (hpq : p.le q = true) (hqr : q.le r = true) : p.le r = true := by
  rw [le_iff, List.not_lt] at *
  exact List.le_trans hpq hqr

theorem le_total (p q : Path) : (p.le q || q.le p) = true := by
  rw [Bool.or_eq_true, le_iff, le_iff, List.not_lt, List.not_lt]
  exact List.le_total _ _

theorem le_antisymm (hpq : p.le q = true) (hqp : q.le p = true) : p = q := by
  rw [le_iff, List.not_lt] at *
  cases p
  cases q
  exact congrArg Path.mk (List.le_antisymm hpq hqp)

/-- A path with further names has the last one of these. -/
theorem name_append {outer inner : List String} (h : inner ≠ []) :
    (⟨outer ++ inner⟩ : Path).name = (⟨inner⟩ : Path).name := by
  rw [name, name, List.getLast?_append_of_ne_nil _ h]

end Path

namespace FileTree

variable {t : FileTree} {directory root q : Path} {name text : String} {ms : SqlModels}
  {files : List (Path × String)}

/-! ## One model after the other -/

theorem lookup_cons (m : String × String) (n : String) :
    List.lookup n (m :: ms) = if n = m.1 then some m.2 else ms.lookup n := by
  rw [List.lookup_cons]
  by_cases h : n = m.1
  · rw [if_pos h, beq_iff_eq.2 h]
  · rw [if_neg h, beq_eq_false_iff_ne.2 h]

/-- The step: one name is given a new text, and the others keep theirs. -/
theorem lookup_putModel (n : String) :
    (putModel name text ms).lookup n = if n = name then some text else ms.lookup n := by
  induction ms with
  | nil => rw [putModel, lookup_cons]
  | cons m ms ih =>
    rw [putModel, lookup_cons]
    by_cases hm : m.1 = name
    · rw [if_pos (beq_iff_eq.2 hm), lookup_cons, hm]
      split_ifs <;> rfl
    · rw [if_neg fun h => hm (beq_iff_eq.1 h), lookup_cons, ih]
      by_cases h : n = m.1
      · rw [if_pos h, if_pos h, if_neg (h ▸ hm)]
      · rw [if_neg h, if_neg h]

/-- The models of files that are read one after the other. -/
def collected (files : List (Path × String)) : SqlModels :=
  files.foldl (fun ms f => putModel f.1.stem f.2 ms) []

theorem lookup_collected_append (f : Path × String) (n : String) :
    (collected (files ++ [f])).lookup n =
      if n = f.1.stem then some f.2 else (collected files).lookup n := by
  rw [collected, List.foldl_append]
  exact lookup_putModel n

/-- The run: what a name stands for is the text of a file of that name, which comes after all other
files of that name. -/
theorem exists_of_lookup_collected {R : Path → Path → Prop} (hrefl : ∀ p, R p p)
    (hfiles : files.Pairwise fun f g => R f.1 g.1) (h : (collected files).lookup name = some text) :
    ∃ q, (q, text) ∈ files ∧ q.stem = name ∧ ∀ f ∈ files, f.1.stem = name → R f.1 q := by
  induction files using List.reverseRecOn with
  | nil => cases h
  | append_singleton files f ih =>
    obtain ⟨hbefore, -, hlast⟩ := List.pairwise_append.1 hfiles
    rw [lookup_collected_append] at h
    split_ifs at h with hname
    · -- the last file has the name
      obtain rfl : f.2 = text := Option.some.inj h
      refine ⟨f.1, List.mem_append_right _ List.mem_cons_self, hname.symm, fun g hg _ => ?_⟩
      rcases List.mem_append.1 hg with hg | hg
      · exact hlast g hg f List.mem_cons_self
      · rw [List.mem_singleton.1 hg]
        exact hrefl _
    · -- the last file has another name, and does not matter
      obtain ⟨q, hq, hstem, hrest⟩ := ih hbefore h
      refine ⟨q, List.mem_append_left _ hq, hstem, fun g hg hg' => ?_⟩
      rcases List.mem_append.1 hg with hg | hg
      · exact hrest g hg hg'
      · rw [List.mem_singleton.1 hg] at hg'
        exact absurd hg'.symm hname

/-- No name is lost. -/
theorem exists_lookup_collected {f : Path × String} (hf : f ∈ files) :
    ∃ text, (collected files).lookup f.1.stem = some text := by
  induction files using List.reverseRecOn with
  | nil => cases hf
  | append_singleton files g ih =>
    rw [lookup_collected_append]
    split_ifs with hname
    · exact ⟨_, rfl⟩
    · rcases List.mem_append.1 hf with hf | hf
      · exact ih hf
      · rw [List.mem_singleton.1 hf] at hname
        exact absurd rfl hname

/-! ## The files below a directory -/

/-- A file below a directory whose name is that of a SQL model, with its text. -/
structure SqlFile (t : FileTree) (root q : Path) (text : String) : Prop where
  inside : root.names <+: q.names
  ne_root : q ≠ root
  isSql : isSqlPath q = true
  read : t.read? q = some text

/-- The SQL models below a directory, each of them once and in any order. -/
structure Visited (t : FileTree) (root : Path) (files : List (Path × String)) : Prop where
  nodup : files.Nodup
  mem_iff : ∀ q text, (q, text) ∈ files ↔ t.SqlFile root q text

/-- SQL models of the same name have the same text. -/
def Unambiguous (t : FileTree) (root : Path) : Prop :=
  ∀ q q' text text', t.SqlFile root q text → t.SqlFile root q' text' → q.stem = q'.stem →
    text = text'

/-- The paths below a directory in their order. -/
def inside (t : FileTree) (root : Path) : List Path :=
  (t.paths.filter fun r => root.names.isPrefixOf r.names && root != r).mergeSort Path.le

theorem mem_inside : q ∈ t.inside root ↔ q ∈ t.paths ∧ root.names <+: q.names ∧ q ≠ root := by
  rw [inside, List.mem_mergeSort, List.mem_filter, Bool.and_eq_true, List.isPrefixOf_iff_prefix,
    bne_iff_ne, ne_comm]

theorem pairwise_inside (t : FileTree) (root : Path) :
    (t.inside root).Pairwise fun p q => p.le q = true := by
  have htrans : ∀ p q r : Path, p.le q = true → q.le r = true → p.le r = true :=
    fun _ _ _ => Path.le_trans
  exact List.pairwise_mergeSort htrans Path.le_total _

theorem nodup_inside (t : FileTree) (root : Path) : (t.inside root).Nodup :=
  (List.mergeSort_perm _ _).nodup_iff.2 ((Registry.nodup_eraseDups _).filter _)

/-- A path as it is seen from one that leads to a directory above it. -/
def seenFrom (directory root r : Path) : Path :=
  ⟨directory.names ++ r.names.drop root.names.length⟩

theorem below_eq (hroot : t.locate? directory = some root) :
    t.below directory = (t.inside root).map fun r => (seenFrom directory root r, r) := by
  rw [below, hroot]
  rfl

/-- The name of a file does not depend on the path that leads to it. -/
theorem name_seenFrom (hq : q ∈ t.inside root) : (seenFrom directory root q).name = q.name := by
  obtain ⟨-, ⟨inner, hinner⟩, hne⟩ := mem_inside.1 hq
  have hdrop : q.names.drop root.names.length = inner := by
    rw [← hinner, List.drop_left]
  have hinner' : inner ≠ [] := by
    rintro rfl
    rw [List.append_nil] at hinner
    cases q
    cases root
    exact hne (congrArg Path.mk hinner.symm)
  have hq' : q = ⟨root.names ++ inner⟩ := by
    cases q
    exact congrArg Path.mk hinner.symm
  rw [seenFrom, hdrop, Path.name_append hinner', hq', Path.name_append hinner']

/-- A file is one of the paths of its tree. -/
theorem mem_paths_of_read (h : t.read? q = some text) : q ∈ t.paths := by
  obtain ⟨s, hs, -⟩ := Option.map_eq_some_iff.1 h
  have hfile : q ∈ t.files.map Prod.fst := by
    obtain ⟨before, after, hfiles, -⟩ := List.lookup_eq_some_iff.1 hs
    rw [hfiles]
    simp
  have hupward : q ∈ q.upward := by
    rw [Path.upward, List.mem_reverse, List.mem_map]
    exact ⟨q.names.length, List.mem_range.2 (Nat.lt_succ_self _), by rw [List.take_length]⟩
  rw [paths, List.mem_eraseDups]
  exact List.mem_cons_of_mem _
    (List.mem_flatMap.2 ⟨q, List.mem_append_left _ hfile, hupward⟩)

theorem SqlFile.mem_paths (h : t.SqlFile root q text) : q ∈ t.paths := mem_paths_of_read h.read

/-- The SQL models below a directory with their texts, in the order of their paths. -/
def sqlFiles (t : FileTree) (root : Path) : List (Path × String) :=
  ((t.inside root).filter isSqlPath).filterMap fun q => (t.read? q).map fun text => (q, text)

theorem mem_sqlFiles_iff : (q, text) ∈ t.sqlFiles root ↔ t.SqlFile root q text := by
  rw [sqlFiles, List.mem_filterMap]
  constructor
  · rintro ⟨q', hq', hread⟩
    obtain ⟨text', htext, heq⟩ := Option.map_eq_some_iff.1 hread
    cases heq
    obtain ⟨hinside, hsql⟩ := List.mem_filter.1 hq'
    obtain ⟨-, hbelow, hne⟩ := mem_inside.1 hinside
    exact ⟨hbelow, hne, hsql, htext⟩
  · intro h
    have hinside : q ∈ t.inside root :=
      mem_inside.2 ⟨h.mem_paths, h.inside, h.ne_root⟩
    exact ⟨q, List.mem_filter.2 ⟨hinside, h.isSql⟩, by rw [h.read, Option.map_some]⟩

theorem pairwise_sqlFiles (t : FileTree) (root : Path) :
    (t.sqlFiles root).Pairwise fun f g => f.1.le g.1 = true := by
  refine List.Pairwise.filterMap _ ?_ ((t.pairwise_inside root).filter _)
  intro p q hpq f hf g hg
  obtain ⟨text, -, rfl⟩ := Option.map_eq_some_iff.1 hf
  obtain ⟨text', -, rfl⟩ := Option.map_eq_some_iff.1 hg
  exact hpq

theorem visited_sqlFiles (t : FileTree) (root : Path) : t.Visited root (t.sqlFiles root) := by
  refine ⟨?_, fun q text => mem_sqlFiles_iff⟩
  refine List.Nodup.filterMap ?_ ((t.nodup_inside root).filter _)
  intro p q f hp hq
  obtain ⟨text, -, rfl⟩ := Option.map_eq_some_iff.1 hp
  obtain ⟨text', -, heq⟩ := Option.map_eq_some_iff.1 hq
  exact (congrArg Prod.fst heq).symm

/-! ## Reading the files -/

/-- Paths are read one by one if each of them is a file. A model has the name that its file has from
wherever the file is seen. -/
theorem forall₂_read_iff {qs : List Path} {texts : List (String × String)} {see : Path → Path}
    (hsee : ∀ q ∈ qs, (see q).stem = q.stem) :
    List.Forall₂ (fun q m => ∃ text, t.read? q = some text ∧ ((see q).stem, text) = m) qs texts ↔
      (∀ q ∈ qs, ∃ text, t.read? q = some text) ∧
        (qs.filterMap fun q => (t.read? q).map fun text => (q, text)).map
          (fun f => (f.1.stem, f.2)) = texts := by
  induction qs generalizing texts with
  | nil => simp [List.forall₂_nil_left_iff, eq_comm]
  | cons q qs ih =>
    obtain ⟨hq, hqs⟩ := List.forall_mem_cons.1 hsee
    rw [List.forall₂_cons_left_iff, List.forall_mem_cons, hq]
    constructor
    · rintro ⟨m, rest, ⟨text, hread, rfl⟩, hrest, rfl⟩
      obtain ⟨hall, hrest⟩ := (ih hqs).1 hrest
      refine ⟨⟨⟨text, hread⟩, hall⟩, ?_⟩
      rw [List.filterMap_cons_some (by rw [hread, Option.map_some]), List.map_cons, hrest]
    · rintro ⟨⟨⟨text, hread⟩, hall⟩, htexts⟩
      rw [List.filterMap_cons_some (by rw [hread, Option.map_some]), List.map_cons] at htexts
      exact ⟨_, _, ⟨text, hread, rfl⟩, (ih hqs).2 ⟨hall, rfl⟩, htexts.symm⟩

/-- The SQL models can be read if none of the paths that look like one is a directory. They are then
collected in the order of their paths. -/
theorem sqlModels_eq_ok_iff (hroot : t.locate? directory = some root) :
    t.sqlModels directory = .ok ms ↔
      (∀ q ∈ t.inside root, isSqlPath q = true → ∃ text, t.read? q = some text) ∧
        collected (t.sqlFiles root) = ms := by
  have hpaths : ((t.below directory).filter fun f => isSqlPath f.1) =
      ((t.inside root).filter isSqlPath).map fun q => (seenFrom directory root q, q) := by
    rw [below_eq hroot, List.filter_map]
    refine congrArg _ (List.filter_congr fun q hq => ?_)
    rw [Function.comp_apply, isSqlPath, isSqlPath, name_seenFrom hq]
  have hsee : ∀ q ∈ (t.inside root).filter isSqlPath,
      (seenFrom directory root q).stem = q.stem := by
    intro q hq
    unfold Path.stem
    rw [name_seenFrom (List.mem_filter.1 hq).1]
  have hcollected : ((t.sqlFiles root).map fun f => (f.1.stem, f.2)).foldl
      (fun ms m => putModel m.1 m.2 ms) [] = collected (t.sqlFiles root) := by
    rw [List.foldl_map, collected]
  unfold sqlModels
  rw [hroot]
  simp only [Option.isNone_some, Bool.false_eq_true, if_false]
  rw [hpaths]
  simp only [Outcome.bind_eq_ok_iff, Outcome.mapM_eq_ok_iff, List.forall₂_map_left_iff]
  constructor
  · rintro ⟨texts, hread, hms⟩
    have hsteps := hread.imp fun q m hm => show
        ∃ text, t.read? q = some text ∧ ((seenFrom directory root q).stem, text) = m by
      split at hm
      · next text htext => exact ⟨text, htext, Except.ok.inj hm⟩
      · cases hm
    obtain ⟨hall, htexts⟩ := (forall₂_read_iff hsee).1 hsteps
    refine ⟨fun q hq hsql => hall q (List.mem_filter.2 ⟨hq, hsql⟩), ?_⟩
    rw [← hcollected, sqlFiles, htexts]
    exact Except.ok.inj hms
  · rintro ⟨hall, hms⟩
    have hsteps := (forall₂_read_iff hsee).2
      ⟨fun q hq => hall q (List.mem_filter.1 hq).1 (List.mem_filter.1 hq).2, rfl⟩
    refine ⟨_, hsteps.imp fun q m hm => ?_, congrArg Except.ok (hcollected.trans hms)⟩
    obtain ⟨text, htext, rfl⟩ := hm
    rw [htext]
    rfl

theorem exists_sqlModels
    (h : ∀ q ∈ t.paths, isSqlPath q = true → (t.read? q).isSome = true) :
    ∃ ms, t.sqlModels Path.top = .ok ms := by
  refine ⟨_, (sqlModels_eq_ok_iff rfl).2 ⟨fun q hq hsql => ?_, rfl⟩⟩
  exact Option.isSome_iff_exists.1 (h q (mem_inside.1 hq).1 hsql)

/-- Of the files of one name the last one counts. -/
theorem lookup_sqlModels_iff (hroot : t.locate? directory = some root)
    (h : t.sqlModels directory = .ok ms) :
    ms.lookup name = some text ↔
      ∃ q, t.SqlFile root q text ∧ q.stem = name ∧
        ∀ q' text', t.SqlFile root q' text' → q'.stem = name → q'.le q = true := by
  obtain ⟨-, rfl⟩ := (sqlModels_eq_ok_iff hroot).1 h
  have hlast {name text : String} (h : (collected (t.sqlFiles root)).lookup name = some text) :=
    exists_of_lookup_collected (R := fun p q => p.le q = true) Path.le_refl
      (t.pairwise_sqlFiles root) h
  constructor
  · intro h
    obtain ⟨q, hq, hstem, hrest⟩ := hlast h
    refine ⟨q, mem_sqlFiles_iff.1 hq, hstem, fun q' text' hq' hstem' => ?_⟩
    exact hrest (q', text') (mem_sqlFiles_iff.2 hq') hstem'
  · rintro ⟨q, hq, rfl, hrest⟩
    obtain ⟨text', h⟩ := exists_lookup_collected (mem_sqlFiles_iff.2 hq)
    -- the file that counts is as late as this one, so the two are the same
    obtain ⟨q', hq', hstem, hrest'⟩ := hlast h
    have hq'file := mem_sqlFiles_iff.1 hq'
    obtain rfl : q' = q := Path.le_antisymm (hrest q' text' hq'file hstem)
      (hrest' (q, text) (mem_sqlFiles_iff.2 hq) rfl)
    obtain rfl : text' = text := Option.some.inj (hq'file.read.symm.trans hq.read)
    exact h

/-! ## Losing nothing -/

/-- Without a clash of names a name stands for the text of any file that has it, whatever the order
of the files. -/
theorem lookup_collected_iff (h : t.Unambiguous root) (hfiles : t.Visited root files) :
    (collected files).lookup name = some text ↔ ∃ q, t.SqlFile root q text ∧ q.stem = name := by
  have hfound {text : String} (h : (collected files).lookup name = some text) :
      ∃ q, t.SqlFile root q text ∧ q.stem = name := by
    obtain ⟨q, hq, hstem, -⟩ := exists_of_lookup_collected (R := fun _ _ => True)
      (fun _ => trivial) (List.pairwise_of_forall fun _ _ => trivial) h
    exact ⟨q, (hfiles.mem_iff q text).1 hq, hstem⟩
  refine ⟨hfound, ?_⟩
  rintro ⟨q, hq, rfl⟩
  obtain ⟨text', htext'⟩ := exists_lookup_collected ((hfiles.mem_iff q text).2 hq)
  obtain ⟨q', hq', hstem⟩ := hfound htext'
  rw [htext', h q q' text text' hq hq' hstem.symm]

/-- Any file can be the last one. -/
theorem exists_visited_lookup (hq : t.SqlFile root q text) :
    ∃ files, t.Visited root files ∧ (collected files).lookup q.stem = some text := by
  classical
  have hmem : (q, text) ∈ t.sqlFiles root := mem_sqlFiles_iff.2 hq
  have hperm : ((t.sqlFiles root).erase (q, text) ++ [(q, text)]).Perm (t.sqlFiles root) :=
    (List.perm_append_singleton ..).trans (List.perm_cons_erase hmem).symm
  have hvisited := t.visited_sqlFiles root
  refine ⟨_, ⟨hperm.nodup_iff.2 hvisited.nodup, fun q' text' => ?_⟩, ?_⟩
  · rw [hperm.mem_iff, hvisited.mem_iff]
  · rw [lookup_collected_append, if_pos rfl]

/-! ## Schemas -/

/-- A schema is told only what names stand for. -/
theorem loadSchema_congr {sql sql' : SqlModels} (h : ∀ name, sql.lookup name = sql'.lookup name) :
    loadSchema sql = loadSchema sql' := by
  have hstatement (source : ModelSource) : source.statement sql = source.statement sql' := by
    cases source <;> simp only [ModelSource.statement, h]
  have hfields : Schema.resolveFields sql = Schema.resolveFields sql' := by
    funext fields
    unfold Schema.resolveFields Schema.resolve
    simp only [hstatement]
  have hmodel : Schema.model sql = Schema.model sql' := by
    funext v
    simp only [Schema.model, hfields]
  have hread : Schema.read sql = Schema.read sql' := by
    funext v
    cases v <;> simp only [Schema.read, hmodel]
  funext l file
  simp only [loadSchema, hread]

/-- When every SQL model below a directory is kept with its own text: exactly if files of the same
name have the same text. This is also exactly when no order of the files leads to other texts. Then
schemas are read alike, whatever the order. -/
theorem sqlModels_keeps_all_iff (hroot : t.locate? directory = some root)
    (h : t.sqlModels directory = .ok ms) :
    ((∀ q text, t.SqlFile root q text → ms.lookup q.stem = some text) ↔ t.Unambiguous root) ∧
      ((∀ files, t.Visited root files → ∀ name, (collected files).lookup name = ms.lookup name) ↔
        t.Unambiguous root) ∧
      (t.Unambiguous root →
        ∀ files, t.Visited root files → loadSchema (collected files) = loadSchema ms) := by
  obtain ⟨-, rfl⟩ := (sqlModels_eq_ok_iff hroot).1 h
  have hunambiguous (hkept : ∀ q text, t.SqlFile root q text →
      (collected (t.sqlFiles root)).lookup q.stem = some text) : t.Unambiguous root := by
    intro q q' text text' hq hq' hstem
    have hname := hkept q text hq
    rw [hstem, hkept q' text' hq'] at hname
    exact (Option.some.inj hname).symm
  have hvisited := t.visited_sqlFiles root
  have hsame (hu : t.Unambiguous root) (files : List (Path × String))
      (hfiles : t.Visited root files) (name : String) :
      (collected files).lookup name = (collected (t.sqlFiles root)).lookup name := by
    refine Option.ext fun text => ?_
    rw [lookup_collected_iff hu hfiles, lookup_collected_iff hu hvisited]
  refine ⟨⟨hunambiguous, fun hu q text hq => ?_⟩, ⟨fun horder => ?_, hsame⟩,
    fun hu files hfiles => loadSchema_congr (hsame hu files hfiles)⟩
  · exact (lookup_collected_iff hu hvisited).2 ⟨q, hq, rfl⟩
  · -- in some order a file is the last one
    refine hunambiguous fun q text hq => ?_
    obtain ⟨files, hfiles, hlookup⟩ := exists_visited_lookup hq
    rw [← horder files hfiles, hlookup]

/-- Models of two names, and a directory without any. -/
def staged : FileTree where
  files := [(⟨["staging", "orders.sql"]⟩, "SELECT 1"), (⟨["customers.sql"]⟩, "SELECT 2")]
  directories := [⟨["empty"]⟩]

theorem staged_keeps_all :
    ∃ ms, staged.sqlModels Path.top = .ok ms ∧
      ∀ q text, staged.SqlFile Path.top q text → ms.lookup q.stem = some text := by
  have hread : ∀ q ∈ staged.paths, isSqlPath q = true → (staged.read? q).isSome = true := by decide
  have hdistinct : ∀ q ∈ staged.paths, ∀ q' ∈ staged.paths, isSqlPath q = true →
      isSqlPath q' = true → q.stem = q'.stem → q = q' := by decide
  obtain ⟨ms, h⟩ := exists_sqlModels hread
  have hunambiguous : staged.Unambiguous Path.top := by
    intro q q' text text' hq hq' hstem
    obtain rfl := hdistinct q hq.mem_paths q' hq'.mem_paths hq.isSql hq'.isSql hstem
    exact Option.some.inj (hq.read.symm.trans hq'.read)
  exact ⟨ms, h, (sqlModels_keeps_all_iff rfl h).1.2 hunambiguous⟩

/-- Two models of one name in different directories. -/
def clash : FileTree where
  files := [(⟨["a", "stg.sql"]⟩, "SELECT 1"), (⟨["b", "stg.sql"]⟩, "SELECT 2")]

/-- The first of two files of one name is lost. -/
theorem clash_loses_first :
    ∃ ms, clash.sqlModels Path.top = .ok ms ∧
      clash.SqlFile Path.top ⟨["a", "stg.sql"]⟩ "SELECT 1" ∧
      (⟨["a", "stg.sql"]⟩ : Path).stem = "stg" ∧ ms.lookup "stg" = some "SELECT 2" := by
  have hread : ∀ q ∈ clash.paths, isSqlPath q = true → (clash.read? q).isSome = true := by decide
  have hlast : ∀ q ∈ clash.paths, q.stem = "stg" → q.le ⟨["b", "stg.sql"]⟩ = true := by decide
  obtain ⟨ms, h⟩ := exists_sqlModels hread
  have hfirst : clash.SqlFile Path.top ⟨["a", "stg.sql"]⟩ "SELECT 1" :=
    ⟨List.nil_prefix, by decide, by decide, by decide⟩
  have hsecond : clash.SqlFile Path.top ⟨["b", "stg.sql"]⟩ "SELECT 2" :=
    ⟨List.nil_prefix, by decide, by decide, by decide⟩
  refine ⟨ms, h, hfirst, by decide, (lookup_sqlModels_iff rfl h).2 ⟨_, hsecond, by decide, ?_⟩⟩
  exact fun q text hq => hlast q hq.mem_paths

end FileTree

end SemanticLayer
