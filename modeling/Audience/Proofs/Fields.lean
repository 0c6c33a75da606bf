import Audience.Fields
import Mathlib.Data.List.Nodup
import Mathlib.Data.String.Basic

/-!
# Keys in order

`Fields.put` adds one key and keeps the keys in strictly increasing order, so `Fields.ofList` lists
the keys of its pairs in that order, each of them once. Fields in this order are told by their
content alone (`eq_of_perm`), and pairs without a repeated key are only reordered (`ofList_perm`).
-/

namespace Audience.Fields

variable {α : Type} {key k : String} {value : α} {fields : Fields α}

theorem keys_cons (p : String × α) (fields : Fields α) :
    keys (p :: fields) = p.1 :: fields.keys := rfl

/-- A key is there if it has a value. -/
theorem isSome_get?_iff : (get? k fields).isSome = true ↔ k ∈ fields.keys := by
  induction fields with
  | nil => simp [get?, keys]
  | cons p fields ih =>
    obtain ⟨k', v⟩ := p
    rw [get?, keys_cons, List.mem_cons]
    split
    · rename_i heq
      exact iff_of_true rfl (.inl heq.symm)
    · rename_i hne
      rw [ih, or_iff_right (Ne.symm hne)]

/-- Putting a key changes what that key has, and no other. -/
theorem get?_put :
    get? k (put key value fields) = if k = key then some value else get? k fields := by
  induction fields with
  | nil =>
    rw [put, get?, get?]
    exact if_congr eq_comm rfl rfl
  | cons p fields ih =>
    obtain ⟨k', v⟩ := p
    unfold put
    split
    · rename_i heq
      rw [get?, get?, heq]
      by_cases hk : k = key
      · rw [if_pos hk.symm, if_pos hk]
      · rw [if_neg (Ne.symm hk), if_neg hk, if_neg (Ne.symm hk)]
    · rename_i hne
      split
      · rw [get?]
        exact if_congr eq_comm rfl rfl
      · rw [get?, get?, ih]
        by_cases hk : k' = k
        · rw [if_pos hk, if_pos hk, if_neg (hk ▸ hne)]
        · rw [if_neg hk, if_neg hk]

theorem put_put (value' : α) : put key value' (put key value fields) = put key value' fields := by
  have hhead : ∀ fields : Fields α, put key value' ((key, value) :: fields) = (key, value') :: fields :=
    fun fields => by rw [put, if_pos rfl]
  induction fields with
  | nil => exact hhead []
  | cons p fields ih =>
    obtain ⟨k, v⟩ := p
    by_cases hk : k = key
    · rw [put, if_pos hk, hhead, put, if_pos hk]
    · by_cases hlt : key < k
      · rw [put, if_neg hk, if_pos hlt, hhead, put, if_neg hk, if_pos hlt]
      · rw [put, if_neg hk, if_neg hlt, put, if_neg hk, if_neg hlt, ih, put, if_neg hk, if_neg hlt]

theorem mem_keys_put : k ∈ (put key value fields).keys ↔ k = key ∨ k ∈ fields.keys := by
  induction fields with
  | nil => rw [put, keys_cons, List.mem_cons]
  | cons p fields ih =>
    obtain ⟨k', v⟩ := p
    unfold put
    split
    · rename_i heq
      rw [keys_cons, keys_cons, List.mem_cons, List.mem_cons, heq, or_self_left]
    · split
      · rw [keys_cons, List.mem_cons]
      · rw [keys_cons, keys_cons, List.mem_cons, List.mem_cons, ih, or_left_comm]

theorem pairwise_keys_put (h : fields.keys.Pairwise (· < ·)) :
    (put key value fields).keys.Pairwise (· < ·) := by
  induction fields with
  | nil => exact List.pairwise_singleton _ _
  | cons p fields ih =>
    obtain ⟨k', v⟩ := p
    obtain ⟨hhead, htail⟩ := List.pairwise_cons.1 h
    unfold put
    split
    · rename_i heq
      exact List.pairwise_cons.2 ⟨fun k hk => heq ▸ hhead k hk, htail⟩
    · rename_i hne
      split
      · rename_i hlt
        refine List.pairwise_cons.2 ⟨fun k hk => ?_, h⟩
        rcases List.mem_cons.1 hk with rfl | hk
        · exact hlt
        · exact hlt.trans (hhead k hk)
      · rename_i hlt
        refine List.pairwise_cons.2 ⟨fun k hk => ?_, ih htail⟩
        rcases mem_keys_put.1 hk with rfl | hk
        · exact lt_of_le_of_ne (not_lt.1 hlt) hne
        · exact hhead k hk

theorem mem_keys_foldl_put {pairs : List (String × α)} :
    k ∈ (pairs.foldl (fun fields p => put p.1 p.2 fields) fields).keys ↔
      k ∈ fields.keys ∨ k ∈ pairs.map (·.1) := by
  induction pairs generalizing fields with
  | nil => simp
  | cons p pairs ih =>
    rw [List.foldl_cons, ih, mem_keys_put, List.map_cons, List.mem_cons, or_comm (a := k = p.1),
      or_assoc]

theorem pairwise_keys_foldl_put {pairs : List (String × α)} (h : fields.keys.Pairwise (· < ·)) :
    (pairs.foldl (fun fields p => put p.1 p.2 fields) fields).keys.Pairwise (· < ·) := by
  induction pairs generalizing fields with
  | nil => exact h
  | cons p pairs ih => exact ih (pairwise_keys_put h)

theorem mem_keys_ofList {pairs : List (String × α)} :
    k ∈ (ofList pairs).keys ↔ k ∈ pairs.map (·.1) := by
  rw [ofList, mem_keys_foldl_put]
  exact or_iff_right (List.not_mem_nil)

theorem pairwise_keys_ofList (pairs : List (String × α)) :
    (ofList pairs).keys.Pairwise (· < ·) :=
  pairwise_keys_foldl_put List.Pairwise.nil

/-! ## Order and content -/

/-- Fields in order are told by their content alone. -/
theorem eq_of_perm {fields' : Fields α} (h : fields.Perm fields')
    (hsorted : fields.keys.Pairwise (· < ·)) (hsorted' : fields'.keys.Pairwise (· < ·)) :
    fields = fields' := by
  have hle : fields.Pairwise fun a b => a.1 < b.1 := List.pairwise_map.1 hsorted
  have hle' : fields'.Pairwise fun a b => a.1 < b.1 := List.pairwise_map.1 hsorted'
  apply List.Perm.eq_of_pairwise _ hle hle' h
  intro a b _ _ hab hba
  exact absurd (hab.trans hba) (lt_irrefl _)

theorem put_perm (h : key ∉ fields.keys) :
    (put key value fields).Perm ((key, value) :: fields) := by
  induction fields with
  | nil => exact List.Perm.refl _
  | cons p fields ih =>
    obtain ⟨k', v⟩ := p
    rw [keys_cons, List.mem_cons, not_or] at h
    unfold put
    rw [if_neg (Ne.symm h.1)]
    split
    · exact List.Perm.refl _
    · exact ((ih h.2).cons _).trans (List.Perm.swap _ _ _)

theorem foldl_put_perm {pairs : List (String × α)}
    (h : (fields.keys ++ pairs.map (·.1)).Nodup) :
    (pairs.foldl (fun fields p => put p.1 p.2 fields) fields).Perm (fields ++ pairs) := by
  induction pairs generalizing fields with
  | nil => simp
  | cons p pairs ih =>
    have hmoved : (p.1 :: (fields.keys ++ pairs.map (·.1))).Nodup :=
      List.perm_middle.nodup_iff.1 h
    have hnew : p.1 ∉ fields.keys := fun hmem =>
      (List.nodup_cons.1 hmoved).1 (List.mem_append_left _ hmem)
    have hput : (put p.1 p.2 fields).Perm (p :: fields) := put_perm hnew
    have hkeys : (put p.1 p.2 fields).keys.Perm (p.1 :: fields.keys) := hput.map _
    have hnodup : ((put p.1 p.2 fields).keys ++ pairs.map (·.1)).Nodup :=
      (hkeys.append_right _).nodup_iff.2 hmoved
    exact (ih hnodup).trans ((hput.append_right pairs).trans List.perm_middle.symm)

/-- Pairs without a repeated key are listed in order, and that is all. -/
theorem ofList_perm {pairs : List (String × α)} (h : (pairs.map (·.1)).Nodup) :
    (ofList pairs).Perm pairs :=
  foldl_put_perm h

theorem pairwise_keys_erase (h : fields.keys.Pairwise (· < ·)) :
    (erase key fields).keys.Pairwise (· < ·) := by
  have hsub : (erase key fields).Sublist fields := by
    clear h
    induction fields with
    | nil => exact List.Sublist.refl _
    | cons p fields ih =>
      unfold erase
      split
      · exact List.sublist_cons_self _ _
      · exact ih.cons_cons _
  exact h.sublist (hsub.map _)

end Audience.Fields
