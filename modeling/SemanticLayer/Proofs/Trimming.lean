import Mathlib.Data.List.TakeWhile
import SemanticLayer.Text.Blank
import SemanticLayer.Text.LetterCase

/-!
# Trimmed texts

A text is trimmed if neither its first nor its last character is a blank (`trim_eq_self`), and
trimming gives such a text (`trim_trim`). A blank is its own upper case, so a text has blanks at its
ends exactly if its upper case has (`strip_eq_self_of_upper`).

Types have names that a database may write in any letter case and with blanks around them.
`Spelled name t` says that `t` is such a spelling of `name`.
-/

namespace SemanticLayer.Text

variable {c : Char} {cs ds blanks : List Char}

/-! ## Trimming -/

/-- Trimming at the end does not reach over a character that is no blank. -/
theorem trimRight_cons (hc : isBlank c = false) : trimRight (c :: cs) = c :: trimRight cs := by
  unfold trimRight
  rw [List.reverse_cons, List.dropWhile_append]
  split
  · next hnone => simp [hc, List.isEmpty_iff.1 hnone]
  · simp

theorem trimRight_append (hcs : ∀ c ∈ cs, isBlank c = false) :
    trimRight (cs ++ ds) = cs ++ trimRight ds := by
  induction cs with
  | nil => rfl
  | cons c cs ih =>
    rw [List.forall_mem_cons] at hcs
    rw [List.cons_append, trimRight_cons hcs.1, ih hcs.2, List.cons_append]

theorem trimRight_append_blanks (h : ∀ b ∈ blanks, isBlank b = true) :
    trimRight (cs ++ blanks) = trimRight cs := by
  unfold trimRight
  rw [List.reverse_append, List.dropWhile_append_of_pos]
  exact fun b hb => h b (List.mem_reverse.1 hb)

/-- Blanks at the end of a text are trimmed. -/
theorem trim_append_blanks (h : ∀ b ∈ blanks, isBlank b = true) :
    trim (cs ++ blanks) = trim cs := by
  unfold trim
  rw [List.dropWhile_append]
  split
  · next hcs =>
    rw [List.isEmpty_iff.1 hcs, List.dropWhile_eq_nil_iff.2 h]
  · exact trimRight_append_blanks h

/-- Blanks in front of a text are trimmed. -/
theorem trim_blanks_append (h : ∀ b ∈ blanks, isBlank b = true) :
    trim (blanks ++ cs) = trim cs := by
  rw [trim, List.dropWhile_append_of_pos h, trim]

theorem head?_dropWhile_isBlank : ∀ c ∈ (cs.dropWhile isBlank).head?, isBlank c = false := by
  intro c hc
  have hhead := List.head?_dropWhile_not isBlank cs
  rw [hc] at hhead
  simpa using hhead

theorem head?_trim : ∀ c ∈ (trim cs).head?, isBlank c = false := by
  intro c hc
  rw [trim] at hc
  have hfirst : ∀ c ∈ (cs.dropWhile isBlank).head?, isBlank c = false := head?_dropWhile_isBlank
  cases hdrop : cs.dropWhile isBlank with
  | nil =>
    rw [hdrop] at hc
    cases hc
  | cons d ds =>
    rw [hdrop] at hc hfirst
    have hd : isBlank d = false := hfirst d rfl
    rw [trimRight_cons hd, List.head?_cons, Option.mem_some_iff] at hc
    rwa [← hc]

theorem getLast?_trim : ∀ c ∈ (trim cs).getLast?, isBlank c = false := by
  intro c hc
  rw [trim, trimRight, List.getLast?_reverse] at hc
  exact head?_dropWhile_isBlank c hc

/-- A text without blanks at its ends. -/
theorem trim_eq_self (hfirst : ∀ c ∈ cs.head?, isBlank c = false)
    (hlast : ∀ c ∈ cs.getLast?, isBlank c = false) : trim cs = cs := by
  have hkeep {ds : List Char} (h : ∀ c ∈ ds.head?, isBlank c = false) :
      ds.dropWhile isBlank = ds := by
    cases ds with
    | nil => rfl
    | cons d ds => exact List.dropWhile_cons_of_neg (by simp [h d rfl])
  rw [← List.head?_reverse] at hlast
  rw [trim, trimRight, hkeep hfirst, hkeep hlast, List.reverse_reverse]

theorem trim_trim : trim (trim cs) = trim cs := trim_eq_self head?_trim getLast?_trim

@[simp] theorem strip_strip (s : String) : strip (strip s) = strip s := by
  simp [strip, trim_trim]

/-- A word at the beginning of a text stays there. -/
theorem trim_word_append (hcs : ∀ c ∈ cs, isBlank c = false) (hne : cs ≠ []) :
    trim (cs ++ ds) = cs ++ trimRight ds := by
  obtain ⟨c, cs, rfl⟩ := List.exists_cons_of_ne_nil hne
  have hc : isBlank c = false := hcs c (by simp)
  rw [trim, List.cons_append, List.dropWhile_cons_of_neg (by simp [hc]), ← List.cons_append,
    trimRight_append hcs]

/-- The first character of a trimmed text is the first one that is no blank. -/
theorem head?_trim_eq : (trim cs).head? = cs.find? fun c => !isBlank c := by
  rw [List.find?_eq_head?_dropWhile_not]
  simp only [Bool.not_not]
  have hfirst : ∀ c ∈ (cs.dropWhile isBlank).head?, isBlank c = false := head?_dropWhile_isBlank
  rw [trim]
  cases hdrop : cs.dropWhile isBlank with
  | nil => rfl
  | cons d ds =>
    rw [hdrop] at hfirst
    rw [trimRight_cons (hfirst d rfl), List.head?_cons, List.head?_cons]

theorem trim_reverse : trim cs.reverse = (trim cs).reverse := by
  have hends : ∃ before after, cs = before ++ (trim cs ++ after) ∧
      (∀ b ∈ before, isBlank b = true) ∧ ∀ b ∈ after, isBlank b = true := by
    refine ⟨cs.takeWhile isBlank, ((cs.dropWhile isBlank).reverse.takeWhile isBlank).reverse, ?_,
      fun b hb => List.mem_takeWhile_imp hb, fun b hb => ?_⟩
    · rw [trim, trimRight, ← List.reverse_append, List.takeWhile_append_dropWhile,
        List.reverse_reverse, List.takeWhile_append_dropWhile]
    · exact List.mem_takeWhile_imp (List.mem_reverse.1 hb)
  obtain ⟨before, after, hcs, hbefore, hafter⟩ := hends
  have hkept : trim (trim cs).reverse = (trim cs).reverse := by
    apply trim_eq_self
    · rw [List.head?_reverse]
      exact getLast?_trim
    · rw [List.getLast?_reverse]
      exact head?_trim
  have hreverse : cs.reverse = after.reverse ++ ((trim cs).reverse ++ before.reverse) := by
    rw [← List.append_assoc, ← List.reverse_append, ← List.reverse_append, ← hcs]
  calc trim cs.reverse
      = trim (after.reverse ++ ((trim cs).reverse ++ before.reverse)) := congrArg trim hreverse
    _ = trim (trim cs).reverse := by
        rw [trim_blanks_append fun b hb => hafter b (List.mem_reverse.1 hb),
          trim_append_blanks fun b hb => hbefore b (List.mem_reverse.1 hb)]
    _ = (trim cs).reverse := hkept

/-- The last character of a trimmed text is the last one that is no blank. -/
theorem getLast?_trim_eq : (trim cs).getLast? = cs.reverse.find? fun c => !isBlank c := by
  rw [← head?_trim_eq, trim_reverse, List.head?_reverse]

/-- Trimming does not matter to a choice of characters that are no blanks. -/
theorem filter_trim {p : Char → Bool} (hp : ∀ c, isBlank c = true → p c = false) :
    (trim cs).filter p = cs.filter p := by
  have hblanks {ds : List Char} : (ds.dropWhile isBlank).filter p = ds.filter p := by
    have hnone : (ds.takeWhile isBlank).filter p = [] :=
      List.filter_eq_nil_iff.2 fun c hc => by simp [hp c (List.mem_takeWhile_imp hc)]
    calc (ds.dropWhile isBlank).filter p
        = (ds.takeWhile isBlank ++ ds.dropWhile isBlank).filter p := by
          rw [List.filter_append, hnone, List.nil_append]
      _ = ds.filter p := by rw [List.takeWhile_append_dropWhile]
  rw [trim, trimRight, List.filter_reverse, hblanks, ← List.filter_reverse, List.reverse_reverse,
    hblanks]

/-! ## Letter case -/

/-- The code points in ranges, one by one. -/
theorem mem_of_inRanges {rs : List (Nat × Nat)} {n : Nat} (h : inRanges rs n = true) :
    n ∈ rs.flatMap fun r => List.range' r.1 (r.2 + 1 - r.1) := by
  obtain ⟨r, hr, hlow, hhigh⟩ := inRanges_iff.1 h
  exact List.mem_flatMap.2 ⟨r, hr, List.mem_range'_1.2 (by omega)⟩

/-- A blank is its own upper case. -/
theorem upperChar_of_isBlank (hc : isBlank c = true) : upperChar c = [c] := by
  have hall : ∀ n ∈ blankRanges.flatMap (fun r => List.range' r.1 (r.2 + 1 - r.1)),
      upperChar (Char.ofNat n) = [Char.ofNat n] := by decide
  simpa using hall c.toNat (mem_of_inRanges hc)

theorem toList_upper (s : String) : (upper s).toList = s.toList.flatMap upperChar := by
  simp [upper]

/-- A text has no blanks at its ends if its upper case has none. -/
theorem strip_eq_self_of_upper {s t : String} (h : upper s = t)
    (ht : ∀ c ∈ t.toList, isBlank c = false) : strip s = s := by
  have hnone : ∀ c ∈ s.toList, isBlank c = false := by
    intro c hc
    cases hblank : isBlank c with
    | false => rfl
    | true =>
      have hmem : c ∈ t.toList := by
        rw [← h, toList_upper]
        exact List.mem_flatMap.2 ⟨c, hc, by simp [upperChar_of_isBlank hblank]⟩
      rw [← hblank, ht c hmem]
  rw [strip, trim_eq_self (fun c hc => hnone c (List.mem_of_mem_head? hc))
    (fun c hc => hnone c (List.mem_of_mem_getLast? hc)), String.ofList_toList]

/-! ## Spellings of a name -/

theorem toNat_of_isUpper (h : c.isUpper = true) : 65 ≤ c.toNat ∧ c.toNat ≤ 90 :=
  of_decide_eq_true h

theorem toUpper_eq_self (h : ¬ (97 ≤ c.toNat ∧ c.toNat ≤ 122)) : c.toUpper = c := dif_neg h

theorem toLower_eq_self (h : ¬ (65 ≤ c.toNat ∧ c.toNat ≤ 90)) : c.toLower = c := dif_neg h

/-- `t` is the name in any letter case with blanks around it. -/
def Spelled (name t : String) : Prop :=
  ∃ before word after : List Char, t.toList = before ++ (word ++ after) ∧
    (∀ b ∈ before, isBlank b = true) ∧ (∀ b ∈ after, isBlank b = true) ∧
    word.map Char.toUpper = name.toList

/-- A letter that is raised to one of ASCII's capital letters. -/
theorem upperChar_of_isUpper (hc : c.toUpper.isUpper = true) :
    upperChar c = [c.toUpper] ∧ isBlank c = false := by
  have hletter : 65 ≤ c.toNat ∧ c.toNat ≤ 122 := by
    by_cases hlower : 97 ≤ c.toNat ∧ c.toNat ≤ 122
    · omega
    · rw [toUpper_eq_self hlower] at hc
      have := toNat_of_isUpper hc
      omega
  constructor
  · rw [upperChar, if_pos (by omega)]
  · rw [isBlank, inRanges, List.any_eq_false]
    intro r hr
    have hfar : ∀ r ∈ blankRanges, r.2 < 65 ∨ 122 < r.1 := by decide
    have := hfar r hr
    simp only [Bool.and_eq_true, decide_eq_true_eq]
    omega

/-- Names are compared in upper case and without the blanks around them. -/
theorem Spelled.upper_strip {name t : String} (h : Spelled name t)
    (hname : ∀ c ∈ name.toList, c.isUpper = true) : upper (strip t) = name := by
  obtain ⟨before, word, after, ht, hbefore, hafter, hword⟩ := h
  have hletters : ∀ c ∈ word, upperChar c = [c.toUpper] ∧ isBlank c = false := fun c hc =>
    upperChar_of_isUpper (hname _ (hword ▸ List.mem_map_of_mem hc))
  have htrim : trim t.toList = word := by
    rw [ht, trim_blanks_append hbefore, trim_append_blanks hafter]
    exact trim_eq_self (fun c hc => (hletters c (List.mem_of_mem_head? hc)).2)
      (fun c hc => (hletters c (List.mem_of_mem_getLast? hc)).2)
  rw [← String.toList_inj, toList_upper, strip, String.toList_ofList, htrim, ← hword,
    List.map_eq_flatMap, List.flatMap_def, List.flatMap_def,
    List.map_congr_left fun c hc => (hletters c hc).1]

end SemanticLayer.Text
