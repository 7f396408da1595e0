/-
What a table tells about its keys after each of its operations.
-/
import Mathlib.Tactic.Lemma
import Mathlib.Data.List.Induction
import Lineage.Assoc

namespace Lineage.Assoc

variable {κ α : Type} [DecidableEq κ]

lemma find?_insert (key k : κ) (value : α) (table : List (κ × α)) :
    find? k (insert key value table) = if key = k then some value else find? k table := by
  induction table with
  | nil => simp [insert, find?]
  | cons entry rest ih =>
      obtain ⟨k', v⟩ := entry
      by_cases hkey : k' = key
      · subst hkey
        by_cases hk : k' = k <;> simp [insert, find?, hk]
      · rw [insert, if_neg hkey, find?, find?, ih]
        -- an entry before the key's own keeps its place in the search
        by_cases hk : k' = k
        · subst hk
          simp [Ne.symm hkey]
        · simp [hk]

lemma find?_erase (key k : κ) (table : List (κ × α)) :
    find? k (erase key table) = if key = k then none else find? k table := by
  induction table with
  | nil => simp [erase, find?]
  | cons entry rest ih =>
      obtain ⟨k', v⟩ := entry
      rw [erase] at ih ⊢
      by_cases hkey : k' = key
      · subst hkey
        rw [List.filter_cons_of_neg (by simp), ih, find?]
        by_cases hk : k' = k <;> simp [hk]
      · rw [List.filter_cons_of_pos (by simpa using hkey), find?, find?, ih]
        by_cases hk : k' = k
        · subst hk
          simp [Ne.symm hkey]
        · simp [hk]

lemma find?_append (key k : κ) (items : List α) (table : List (κ × List α)) :
    find? k (append key items table) =
      if key = k then some ((find? k table).getD [] ++ items) else find? k table := by
  induction table with
  | nil => simp [append, find?]
  | cons entry rest ih =>
      obtain ⟨k', v⟩ := entry
      by_cases hkey : k' = key
      · subst hkey
        by_cases hk : k' = k <;> simp [append, find?, hk]
      · rw [append, if_neg hkey, find?, find?, ih]
        by_cases hk : k' = k
        · subst hk
          simp [Ne.symm hkey]
        · simp [hk]

lemma ofList_append_singleton (pairs : List (κ × α)) (pair : κ × α) :
    ofList (pairs ++ [pair]) = insert pair.1 pair.2 (ofList pairs) := by
  simp [ofList]

/-- A key that is set by pairs, one after the other, has the value of the last pair that sets it. -/
lemma find?_foldl_insert (k : κ) (table pairs : List (κ × α)) :
    find? k (pairs.foldl (fun table pair => insert pair.1 pair.2 table) table) =
      ((pairs.reverse.find? (·.1 = k)).map Prod.snd).or (find? k table) := by
  induction pairs using List.reverseRecOn with
  | nil => rfl
  | append_singleton pairs pair ih =>
      rw [List.foldl_append, List.foldl_cons, List.foldl_nil, find?_insert, ih]
      by_cases hk : pair.1 = k <;> simp [hk]

/-- A table of pairs gives a key the value of the last pair that has it. -/
lemma find?_ofList (k : κ) (pairs : List (κ × α)) :
    find? k (ofList pairs) = (pairs.reverse.find? (·.1 = k)).map Prod.snd := by
  rw [ofList, find?_foldl_insert, find?, Option.or_none]

lemma lookup_eq_find? [BEq κ] [LawfulBEq κ] (k : κ) (table : List (κ × α)) :
    table.lookup k = find? k table := by
  induction table with
  | nil => rfl
  | cons entry rest ih =>
      obtain ⟨k', v⟩ := entry
      rw [List.lookup_cons, find?, ih]
      by_cases hk : k' = k
      · simp [hk]
      · have hne : (k == k') = false := beq_false_of_ne (Ne.symm hk)
        simp [hk, hne]

lemma mem_of_find?_eq_some {key : κ} {value : α} {table : List (κ × α)}
    (h : find? key table = some value) : (key, value) ∈ table := by
  induction table with
  | nil => simp [find?] at h
  | cons entry rest ih =>
      obtain ⟨k, v⟩ := entry
      by_cases hk : k = key
      · rw [find?, if_pos hk, Option.some.injEq] at h
        simp [hk, h]
      · rw [find?, if_neg hk] at h
        exact List.mem_cons_of_mem _ (ih h)

/-! ### Each key once -/

lemma isSome_find?_iff {key : κ} {table : List (κ × α)} :
    (find? key table).isSome = true ↔ key ∈ table.map Prod.fst := by
  induction table with
  | nil => simp [find?]
  | cons entry rest ih =>
      obtain ⟨k, v⟩ := entry
      by_cases hkey : k = key
      · simp [find?, hkey]
      · rw [find?, if_neg hkey, ih, List.map_cons, List.mem_cons]
        simp [Ne.symm hkey]

lemma mem_keys_insert {key k : κ} {value : α} {table : List (κ × α)} :
    k ∈ (insert key value table).map Prod.fst ↔ k = key ∨ k ∈ table.map Prod.fst := by
  induction table with
  | nil => simp [insert]
  | cons entry rest ih =>
      obtain ⟨k', v⟩ := entry
      by_cases hkey : k' = key
      · subst hkey
        simp [insert]
      · rw [insert, if_neg hkey, List.map_cons, List.map_cons, List.mem_cons, List.mem_cons, ih]
        tauto

lemma nodup_keys_insert {table : List (κ × α)} (h : (table.map Prod.fst).Nodup) (key : κ)
    (value : α) : ((insert key value table).map Prod.fst).Nodup := by
  induction table with
  | nil => simp [insert]
  | cons entry rest ih =>
      obtain ⟨k', v⟩ := entry
      obtain ⟨hnot, hrest⟩ := List.nodup_cons.1 h
      by_cases hkey : k' = key
      · rw [insert, if_pos hkey]
        exact List.nodup_cons.2 ⟨hnot, hrest⟩
      · rw [insert, if_neg hkey]
        refine List.nodup_cons.2 ⟨fun hmem => ?_, ih hrest⟩
        rcases mem_keys_insert.1 hmem with heq | hmem
        · exact hkey heq
        · exact hnot hmem

lemma nodup_keys_erase {table : List (κ × α)} (h : (table.map Prod.fst).Nodup) (key : κ) :
    ((erase key table).map Prod.fst).Nodup :=
  h.sublist (List.filter_sublist.map Prod.fst)

lemma length_insert_le (key : κ) (value : α) (table : List (κ × α)) :
    (insert key value table).length ≤ table.length + 1 := by
  induction table with
  | nil => simp [insert]
  | cons entry rest ih =>
      by_cases hkey : entry.1 = key
      · simp [insert, hkey]
      · simp only [insert, if_neg hkey, List.length_cons]
        omega

lemma nodup_keys_ofList (pairs : List (κ × α)) : ((ofList pairs).map Prod.fst).Nodup := by
  induction pairs using List.reverseRecOn with
  | nil => simp [ofList]
  | append_singleton pairs pair ih =>
      rw [ofList_append_singleton]
      exact nodup_keys_insert ih pair.1 pair.2

end Lineage.Assoc
