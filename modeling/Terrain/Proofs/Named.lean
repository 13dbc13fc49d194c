import Mathlib.Data.Finset.Card
import Terrain.Named

/-!
# Things put by name, one after the other

Putting things under names that are all different puts them side by side. A name that comes again
takes no new place, and what came under it before is no longer found.

* `putAll_of_nodup`: things under different names stay as they are.
* `length_putAll`: how many things there are.
* `get?_putAll_append`: what is put last under a name is found.
* `sort_eq_of_perm`: names are sorted alike, in whatever order they come.
-/

namespace Terrain.Named

variable {α : Type} {m es : Named α} {name : String} {a : α}

/-! ## 1. Putting -/

/-- The collection with things put under their names, one after the other. -/
def putAll (m es : Named α) : Named α := es.foldl (fun m e => m.put e.1 e.2) m

theorem putAll_append (m es fs : Named α) :
    m.putAll (es ++ fs) = (m.putAll es).putAll fs := List.foldl_append

theorem names_append : names (m ++ es) = m.names ++ es.names := List.map_append

theorem put_of_not_mem (h : name ∉ m.names) (a : α) : m.put name a = m ++ [(name, a)] := by
  induction m with
  | nil => rfl
  | cons e m ih =>
    have hne : e.1 ≠ name := fun he => h (he ▸ List.mem_cons_self)
    rw [put, if_neg hne, ih fun hm => h (List.mem_cons_of_mem _ hm), List.cons_append]

/-- A thing under a name that is there already takes no new place. -/
theorem names_put_of_mem (h : name ∈ m.names) (a : α) : (m.put name a).names = m.names := by
  induction m with
  | nil => cases h
  | cons e m ih =>
    unfold put
    split
    · rename_i he
      rw [← he]
      rfl
    · rename_i he
      have hm : name ∈ names m := (List.mem_cons.1 h).resolve_left fun hn => he hn.symm
      exact congrArg (e.1 :: ·) (ih hm)

theorem length_names (m : Named α) : m.names.length = m.length := List.length_map _

/-- **Things under different names are put side by side.** -/
theorem putAll_of_nodup : ∀ {es m : Named α}, (m.names ++ es.names).Nodup →
    m.putAll es = m ++ es
  | [], m, _ => (List.append_nil m).symm
  | e :: es, m, h => by
    have hnot : e.1 ∉ m.names := fun hm =>
      List.disjoint_of_nodup_append h hm List.mem_cons_self
    have hnodup : (names (m ++ [(e.1, e.2)]) ++ names es).Nodup := by
      rw [names_append, List.append_assoc]
      exact h
    change (m.put e.1 e.2).putAll es = _
    rw [put_of_not_mem hnot, putAll_of_nodup hnodup, List.append_assoc]
    rfl

theorem mem_names_put {other : String} :
    other ∈ (m.put name a).names ↔ other ∈ m.names ∨ other = name := by
  by_cases hm : name ∈ m.names
  · rw [names_put_of_mem hm]
    exact ⟨.inl, fun hor => hor.elim id fun he => he ▸ hm⟩
  · rw [put_of_not_mem hm, names_append, List.mem_append]
    exact or_congr_right List.mem_singleton

theorem nodup_names_put (h : m.names.Nodup) : (m.put name a).names.Nodup := by
  by_cases hm : name ∈ m.names
  · rwa [names_put_of_mem hm]
  · rw [put_of_not_mem hm, names_append]
    exact h.append (List.nodup_singleton name) (by simpa [names] using hm)

theorem mem_names_putAll {other : String} : ∀ {es m : Named α},
    other ∈ (m.putAll es).names ↔ other ∈ m.names ∨ other ∈ es.names
  | [], m => by simp [putAll, names]
  | e :: es, m => by
    change other ∈ ((m.put e.1 e.2).putAll es).names ↔ _
    rw [mem_names_putAll, mem_names_put, or_assoc]
    exact or_congr_right List.mem_cons.symm

theorem nodup_names_putAll : ∀ {es m : Named α}, m.names.Nodup → (m.putAll es).names.Nodup
  | [], _, h => h
  | e :: es, m, h => by
    change ((m.put e.1 e.2).putAll es).names.Nodup
    exact nodup_names_putAll (nodup_names_put h)

/-- **There are as many things as names.** -/
theorem length_putAll (es : Named α) :
    (putAll [] es).length = es.names.toFinset.card := by
  have hnodup : (putAll [] es).names.Nodup := nodup_names_putAll List.nodup_nil
  rw [← length_names, ← List.toFinset_card_of_nodup hnodup]
  congr 1
  ext name
  rw [List.mem_toFinset, List.mem_toFinset, mem_names_putAll]
  exact or_iff_right (by simp [names])

/-! ## 2. Finding -/

/-- **What is found under a name**, if no name comes twice. -/
theorem get?_eq_some_iff (h : m.names.Nodup) : m.get? name = some a ↔ (name, a) ∈ m := by
  induction m with
  | nil => exact ⟨nofun, nofun⟩
  | cons e m ih =>
    obtain ⟨hnot, hm⟩ := List.nodup_cons.1 h
    by_cases he : e.1 = name
    · have hget : get? (e :: m) name = some e.2 := by simp [get?, he]
      rw [hget]
      constructor
      · intro ha
        rw [← Option.some.inj ha, ← he]
        exact List.mem_cons_self
      · intro hmem
        rcases List.mem_cons.1 hmem with rfl | hmem
        · rfl
        · have hname : name ∈ m.map (·.1) := List.mem_map_of_mem hmem
          exact absurd (show e.1 ∈ m.map (·.1) by rwa [he]) hnot
    · have hget : get? (e :: m) name = get? m name := by simp [get?, he]
      rw [hget, ih hm, List.mem_cons]
      exact ⟨.inr, fun hor => hor.resolve_left fun hn => he (by rw [← hn])⟩

/-- A name under which something is found is there. -/
theorem mem_names_of_get? (h : m.get? name = some a) : name ∈ m.names := by
  obtain ⟨e, he, -⟩ := Option.map_eq_some_iff.1 h
  have hname : e.1 = name := by simpa using List.find?_some he
  exact List.mem_map.2 ⟨e, List.mem_of_find?_eq_some he, hname⟩

theorem get?_putAll_of_not_mem : ∀ {es m : Named α}, name ∉ es.names →
    (m.putAll es).get? name = m.get? name
  | [], _, _ => rfl
  | e :: es, m, h => by
    have hne : name ≠ e.1 := fun he => h (he ▸ List.mem_cons_self)
    change ((m.put e.1 e.2).putAll es).get? name = _
    rw [get?_putAll_of_not_mem fun hm => h (List.mem_cons_of_mem _ hm), get?_put_of_ne m hne]

/-- **What is put last under a name is found.** -/
theorem get?_putAll_append {before after : Named α} (h : name ∉ after.names) :
    (m.putAll (before ++ (name, a) :: after)).get? name = some a := by
  unfold putAll
  rw [List.foldl_append, List.foldl_cons]
  exact (get?_putAll_of_not_mem h).trans (get?_put_self _ _ _)

/-! ## 3. Order -/

/-- Names that are sorted stand in order. -/
theorem pairwise_sort (names : List String) : (sort names).Pairwise fun a b => ¬ b < a := by
  have hsorted : (sort names).Pairwise fun a b => (!decide (b < a)) = true := by
    refine List.pairwise_mergeSort ?_ ?_ _
    · intro a b c hab hbc
      simp only [Bool.not_eq_true', decide_eq_false_iff_not, String.not_lt] at *
      exact String.le_trans hab hbc
    · intro a b
      simp only [Bool.or_eq_true, Bool.not_eq_true', decide_eq_false_iff_not, String.not_lt]
      exact String.le_total a b
  exact hsorted.imp (by simp)

/-- Different names that are sorted stand in strict order. -/
theorem pairwise_lt_sort {names : List String} (h : names.Nodup) :
    (sort names).Pairwise (· < ·) := by
  have hnodup : (sort names).Nodup := (List.mergeSort_perm _ _).nodup_iff.2 h
  exact ((pairwise_sort names).and hnodup).imp fun h => Std.lt_of_le_of_ne h.1 h.2

/-- **Names are sorted alike**, in whatever order they come. -/
theorem sort_eq_of_perm {names others : List String} (h : names.Perm others) :
    sort names = sort others := by
  have hperm : (sort names).Perm (sort others) :=
    (List.mergeSort_perm _ _).trans (h.trans (List.mergeSort_perm _ _).symm)
  exact hperm.eq_of_pairwise (fun a b _ _ hab hba => String.le_antisymm hab hba)
    (pairwise_sort names) (pairwise_sort others)

/-- Things that come in the order of their names are in order. -/
theorem sorted_eq_self (h : m.names.Pairwise fun a b => ¬ b < a) : m.sorted = m := by
  refine List.mergeSort_of_pairwise ?_
  have hpairs := List.pairwise_map.1 h
  exact hpairs.imp (by simp)

end Terrain.Named
