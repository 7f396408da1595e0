/-
Items grouped by a key.

A table that is filled by adding each item to what its key holds is the table of the groups: every
key where it first came, with the items that have it, in their order.  One addition to a table of
groups gives the table of groups of a longer list (`append_groups`), so the table may be filled
item by item or in stretches of one key, and a key may come back later.
-/
import Mathlib.Algebra.BigOperators.Group.List.Lemmas
import Mathlib.Algebra.GroupWithZero.Nat
import Mathlib.Data.Finset.Card
import Lineage.Proofs.Assoc

namespace Lineage.Assoc

variable {κ α β : Type} [DecidableEq κ]

/-! ### Distinct members -/

@[simp] lemma mem_distinct {k : κ} {ks : List κ} : k ∈ distinct ks ↔ k ∈ ks := by
  induction ks with
  | nil => simp [distinct]
  | cons l ks ih =>
      by_cases h : k = l
      · simp [distinct, h]
      · simp [distinct, h, ih]

/-- The distinct members come in the order of their first places. -/
lemma pairwise_distinct (ks : List κ) :
    (distinct ks).Pairwise fun k l => ks.idxOf k < ks.idxOf l := by
  induction ks with
  | nil => simp [distinct]
  | cons j ks ih =>
      have hlater : ∀ k, k ≠ j → (j :: ks).idxOf k = ks.idxOf k + 1 :=
        fun k hk => List.idxOf_cons_ne ks (Ne.symm hk)
      rw [distinct, List.pairwise_cons]
      constructor
      · intro k hk
        have hne : k ≠ j := by simpa using (List.mem_filter.1 hk).2
        rw [List.idxOf_cons_self, hlater k hne]
        omega
      · refine (ih.filter _).imp_of_mem fun {k l} hk hl hlt => ?_
        have hkne : k ≠ j := by simpa using (List.mem_filter.1 hk).2
        have hlne : l ≠ j := by simpa using (List.mem_filter.1 hl).2
        rw [hlater k hkne, hlater l hlne]
        omega

lemma nodup_distinct (ks : List κ) : (distinct ks).Nodup :=
  (pairwise_distinct ks).imp fun hlt heq => by
    subst heq
    exact Nat.lt_irrefl _ hlt

lemma length_distinct (ks : List κ) : (distinct ks).length = ks.toFinset.card := by
  have hsame : (distinct ks).toFinset = ks.toFinset := by
    ext k
    simp
  rw [← hsame, List.toFinset_card_of_nodup (nodup_distinct ks)]

/-- More of one key adds it at the end, unless it is there already. -/
lemma distinct_append_same (ks ls : List κ) {key : κ} (hne : ls ≠ []) (hls : ∀ l ∈ ls, l = key) :
    distinct (ks ++ ls) = if key ∈ ks then distinct ks else distinct ks ++ [key] := by
  have hsame : distinct ls = [key] := by
    cases ls with
    | nil => exact absurd rfl hne
    | cons l ls =>
        have hnone : (distinct ls).filter (· ≠ key) = [] := by
          rw [List.filter_eq_nil_iff]
          intro k hk
          simpa using hls k (List.mem_cons_of_mem l (mem_distinct.1 hk))
        rw [distinct, hls l List.mem_cons_self, hnone]
  induction ks with
  | nil => simpa [distinct] using hsame
  | cons k ks ih =>
      rw [List.cons_append, distinct, distinct, ih]
      by_cases hkey : key = k
      · -- the key is the first member, and is struck out of all that follows
        subst hkey
        by_cases hmem : key ∈ ks <;> simp [hmem]
      · by_cases hmem : key ∈ ks <;> simp [hmem, hkey]

/-! ### Adding to a table -/

/-- Adding to a key that is there changes its own entry only. -/
lemma append_of_mem {table : List (κ × List α)} (hnodup : (table.map Prod.fst).Nodup) {key : κ}
    (hkey : key ∈ table.map Prod.fst) (items : List α) :
    append key items table =
      table.map fun entry => (entry.1, entry.2 ++ if entry.1 = key then items else []) := by
  induction table with
  | nil => simp at hkey
  | cons entry rest ih =>
      obtain ⟨k, v⟩ := entry
      obtain ⟨hnot, hrest⟩ := List.nodup_cons.1 hnodup
      by_cases hk : k = key
      · subst hk
        have hothers : rest.map (fun entry =>
            (entry.1, entry.2 ++ if entry.1 = k then items else [])) = rest := by
          refine (List.map_congr_left fun entry hentry => ?_).trans (List.map_id rest)
          have hne : entry.1 ≠ k := fun h => hnot (List.mem_map.2 ⟨entry, hentry, h⟩)
          simp [hne]
        simp [append, hothers]
      · have hin : key ∈ rest.map Prod.fst := by
          rcases List.mem_cons.1 hkey with h | h
          · exact absurd h.symm hk
          · exact h
        simp [append, hk, ih hrest hin]

/-- Adding to a key that is not there puts its entry at the end. -/
lemma append_of_notMem {table : List (κ × List α)} {key : κ} (hkey : key ∉ table.map Prod.fst)
    (items : List α) : append key items table = table ++ [(key, items)] := by
  induction table with
  | nil => rfl
  | cons entry rest ih =>
      obtain ⟨k, v⟩ := entry
      rw [List.map_cons, List.mem_cons, not_or] at hkey
      rw [append, if_neg (Ne.symm hkey.1), ih hkey.2, List.cons_append]

/-- Adding to a table commutes with changing its items one by one. -/
lemma append_map (f : α → β) (key : κ) (new : List α) (table : List (κ × List α)) :
    append key (new.map f) (table.map fun entry => (entry.1, entry.2.map f)) =
      (append key new table).map fun entry => (entry.1, entry.2.map f) := by
  induction table with
  | nil => rfl
  | cons entry rest ih =>
      obtain ⟨k, v⟩ := entry
      by_cases hk : k = key
      · simp [append, hk]
      · simp [append, hk, ih]

/-! ### Groups -/

/-- The items of a list by their keys: each key where it first came, with its items in order. -/
def groups (key : α → κ) (items : List α) : List (κ × List α) :=
  (distinct (items.map key)).map fun k => (k, items.filter (key · = k))

variable {key : α → κ}

lemma keys_groups (items : List α) :
    (groups key items).map Prod.fst = distinct (items.map key) := by
  simp [groups, Function.comp_def]

/-- Adding items of one key to the groups of a list gives the groups of the longer list. -/
lemma append_groups (items : List α) {new : List α} {k : κ} (hne : new ≠ [])
    (hnew : ∀ x ∈ new, key x = k) :
    append k new (groups key items) = groups key (items ++ new) := by
  have hkeys : distinct ((items ++ new).map key) =
      if k ∈ items.map key then distinct (items.map key)
      else distinct (items.map key) ++ [k] := by
    rw [List.map_append]
    exact distinct_append_same _ _ (by simpa using hne) (by simpa using hnew)
  have hfilter : ∀ l, (items ++ new).filter (key · = l) =
      items.filter (key · = l) ++ if l = k then new else [] := by
    intro l
    rw [List.filter_append]
    congr 1
    by_cases hl : l = k
    · subst hl
      rw [if_pos rfl, List.filter_eq_self]
      simpa using hnew
    · rw [if_neg hl, List.filter_eq_nil_iff]
      intro x hx
      simpa [hnew x hx] using Ne.symm hl
  by_cases hmem : k ∈ items.map key
  · rw [append_of_mem (by rw [keys_groups]; exact nodup_distinct _)
        (by rw [keys_groups]; exact mem_distinct.2 hmem),
      groups, groups, hkeys, if_pos hmem, List.map_map]
    exact List.map_congr_left fun l _ => by rw [Function.comp_apply, hfilter]
  · -- no item before had the key, so its entry holds the new items alone
    have hnone : items.filter (key · = k) = [] := by
      rw [List.filter_eq_nil_iff]
      intro x hx h
      exact hmem (List.mem_map.2 ⟨x, hx, by simpa using h⟩)
    rw [append_of_notMem (by rw [keys_groups, mem_distinct]; exact hmem),
      groups, groups, hkeys, if_neg hmem, List.map_append, List.map_singleton, hfilter, hnone,
      if_pos rfl, List.nil_append]
    congr 1
    refine List.map_congr_left fun l hl => ?_
    have hne : l ≠ k := fun h => hmem (h ▸ mem_distinct.1 hl)
    rw [hfilter, if_neg hne, List.append_nil]

/-- A table that is filled item by item, with what `f` makes of each, has the items' groups. -/
lemma foldl_append_eq_groups (f : α → β) (items : List α) :
    items.foldl (fun table x => append (key x) [f x] table) [] =
      (groups key items).map fun entry => (entry.1, entry.2.map f) := by
  induction items using List.reverseRecOn with
  | nil => rfl
  | append_singleton items x ih =>
      have hone : append (key x) [x] (groups key items) = groups key (items ++ [x]) :=
        append_groups items (List.cons_ne_nil x []) (by simp)
      rw [List.foldl_append, ih, List.foldl_cons, List.foldl_nil, ← hone]
      exact append_map f (key x) [x] (groups key items)

lemma snd_of_mem_groups {items : List α} {entry : κ × List α} (h : entry ∈ groups key items) :
    entry.2 = items.filter (key · = entry.1) := by
  obtain ⟨k, -, rfl⟩ := List.mem_map.1 h
  rfl

lemma snd_ne_nil_of_mem_groups {items : List α} {entry : κ × List α}
    (h : entry ∈ groups key items) : entry.2 ≠ [] := by
  obtain ⟨k, hk, rfl⟩ := List.mem_map.1 h
  obtain ⟨x, hx, hxk⟩ := List.mem_map.1 (mem_distinct.1 hk)
  exact List.ne_nil_of_mem (List.mem_filter.2 ⟨hx, by simpa using hxk⟩)

/-- The group of a key holds the items that have it. -/
lemma getD_find?_groups (items : List α) (k : κ) :
    (find? k (groups key items)).getD [] = items.filter (key · = k) := by
  cases hfind : find? k (groups key items) with
  | some group => exact snd_of_mem_groups (mem_of_find?_eq_some hfind)
  | none =>
      have hkey : k ∉ items.map key := by
        rw [← mem_distinct, ← keys_groups, ← isSome_find?_iff, hfind]
        exact Bool.false_ne_true
      rw [Option.getD_none, eq_comm, List.filter_eq_nil_iff]
      intro x hx h
      exact hkey (List.mem_map.2 ⟨x, hx, of_decide_eq_true h⟩)

/-- No item is lost, and none comes twice. -/
lemma sum_length_groups (items : List α) :
    ((groups key items).map fun entry => entry.2.length).sum = items.length := by
  have hperm : (distinct (items.map key)).Perm (items.map key).dedup :=
    (List.perm_ext_iff_of_nodup (nodup_distinct _) (List.nodup_dedup _)).2 fun k => by simp
  have hlength : ∀ k, (items.filter (key · = k)).length = (items.map key).count k := by
    intro k
    rw [← List.countP_eq_length_filter, List.count, List.countP_map]
    rfl
  calc ((groups key items).map fun entry => entry.2.length).sum
      = ((distinct (items.map key)).map fun k => (items.map key).count k).sum := by
        simp only [groups, List.map_map, Function.comp_def, hlength]
    _ = ((items.map key).dedup.map fun k => (items.map key).count k).sum :=
        (hperm.map _).sum_eq
    _ = items.length := by
        rw [List.sum_map_count_dedup_eq_length, List.length_map]

end Lineage.Assoc
