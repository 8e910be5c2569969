import DocQuery.Proofs.Reordering
import Mathlib.Data.List.Induction

/-!
What the operations on fields do at a key, in view of all members.

* `Fields.skips`: an operation on one key leaves the members before that key as they are;
* `Fields.Absent` and `Fields.Between` (**edits**): what every operation hands back and leaves,
  where no member has the key and where a member between others has it;
* `Fields.absent_or_between` (**main statement**): for fields without repeated keys it is one or the
  other;
* `Fields.distinct_insert` and its companions: no operation repeats a key;
* `Fields.get?_ofList`: members that are collected leave the last value of each key.
-/

namespace DocQuery.Fields

variable {α : Type} {fields before : Fields α} {key : String}

/-! ### Members before a key -/

/-- What looks for a key does not change the members before it. -/
lemma skips {f : Fields α → Fields α}
    (hf : ∀ k v rest, k ≠ key → f ((k, v) :: rest) = (k, v) :: f rest) (h : key ∉ before.keys)
    (rest : Fields α) : f (before ++ rest) = before ++ f rest := by
  induction before with
  | nil => rfl
  | cons member before ih =>
    obtain ⟨hne, hbefore⟩ := List.ne_and_not_mem_of_not_mem_cons h
    exact (hf _ _ _ hne.symm).trans (congrArg (member :: ·) (ih hbefore))

lemma insert_append (h : key ∉ before.keys) (rest : Fields α) (value : α) :
    insert (before ++ rest) key value = before ++ insert rest key value :=
  skips (f := fun fields => insert fields key value) (fun _ _ _ hne => if_neg hne) h rest

lemma erase_append (h : key ∉ before.keys) (rest : Fields α) :
    erase (before ++ rest) key = before ++ erase rest key :=
  skips (f := fun fields => erase fields key) (fun _ _ _ hne => if_neg hne) h rest

lemma replace_append (h : key ∉ before.keys) (rest : Fields α) (value : α) :
    replace (before ++ rest) key value = before ++ replace rest key value :=
  skips (f := fun fields => replace fields key value) (fun _ _ _ hne => if_neg hne) h rest

lemma get?_append (h : key ∉ before.keys) (rest : Fields α) :
    get? (before ++ rest) key = get? rest key := by
  induction before with
  | nil => rfl
  | cons member before ih =>
    obtain ⟨hne, hbefore⟩ := List.ne_and_not_mem_of_not_mem_cons h
    exact (if_neg hne.symm).trans (ih hbefore)

/-! ### Operations at a key -/

/-- What the operations do at a key that no member has. -/
structure Absent (fields : Fields α) (key : String) : Prop where
  get? : fields.get? key = none
  exchange : ∀ value, fields.exchange key value = (none, fields ++ [(key, value)])
  insertFirst : ∀ value, fields.insertFirst key value = (key, value) :: fields
  withdraw : fields.withdraw key = (none, fields)
  replace : ∀ value, fields.replace key value = fields

/-- What the operations do at a key that the member between some others has. -/
structure Between (fields before : Fields α) (key : String) (old : α) (after : Fields α) :
    Prop where
  members : fields = before ++ (key, old) :: after
  get? : fields.get? key = some old
  exchange : ∀ value, fields.exchange key value = (some old, before ++ (key, value) :: after)
  insertFirst : ∀ value, fields.insertFirst key value = (key, value) :: (before ++ after)
  withdraw : fields.withdraw key = (some old, before ++ after)
  replace : ∀ value, fields.replace key value = before ++ (key, value) :: after

lemma get?_of_notMem (h : key ∉ fields.keys) : fields.get? key = none := by
  simpa using get?_append h []

lemma erase_of_notMem (h : key ∉ fields.keys) : fields.erase key = fields := by
  simpa [erase] using erase_append h []

lemma filter_ne_of_notMem (h : key ∉ fields.keys) : fields.filter (·.1 ≠ key) = fields := by
  refine List.filter_eq_self.mpr fun member hmember => decide_eq_true ?_
  rintro rfl
  exact h (List.mem_map_of_mem hmember)

lemma insertFirst_of_notMem (h : key ∉ fields.keys) (value : α) :
    fields.insertFirst key value = (key, value) :: fields := by
  rw [insertFirst, filter_ne_of_notMem h]

lemma absent (h : key ∉ fields.keys) : fields.Absent key := by
  refine ⟨get?_of_notMem h, fun value => ?_, insertFirst_of_notMem h, ?_, fun value => ?_⟩
  · have hinsert := insert_append h [] value
    rw [List.append_nil] at hinsert
    rw [exchange_eq, get?_of_notMem h, hinsert]
    rfl
  · rw [withdraw_eq, get?_of_notMem h, erase_of_notMem h]
  · simpa [replace] using replace_append h [] value

lemma between {old : α} {after : Fields α} (hbefore : key ∉ before.keys)
    (hafter : key ∉ after.keys) : Between (before ++ (key, old) :: after) before key old after := by
  have hget : get? (before ++ (key, old) :: after) key = some old := by
    rw [get?_append hbefore, get?, if_pos rfl]
  refine ⟨rfl, hget, fun value => ?_, fun value => ?_, ?_, fun value => ?_⟩
  · rw [exchange_eq, hget, insert_append hbefore, insert, if_pos rfl]
  · rw [insertFirst, List.filter_append, List.filter_cons_of_neg (by simp),
      filter_ne_of_notMem hbefore, filter_ne_of_notMem hafter]
  · rw [withdraw_eq, hget, erase_append hbefore, erase, if_pos rfl]
  · rw [replace_append hbefore, replace, if_pos rfl]

/-- A key among distinct ones has one member, between those before and those after it. -/
lemma exists_members (h : fields.Distinct) (hkey : key ∈ fields.keys) :
    ∃ (before : Fields α) (old : α) (after : Fields α), fields = before ++ (key, old) :: after
      ∧ key ∉ before.keys ∧ key ∉ after.keys := by
  obtain ⟨⟨_, old⟩, hmember, rfl⟩ := List.mem_map.mp hkey
  obtain ⟨before, after, rfl⟩ := List.append_of_mem hmember
  rw [Distinct, keys, List.map_append, List.map_cons, List.nodup_middle, List.nodup_cons,
    List.mem_append, not_or] at h
  exact ⟨before, old, after, rfl, h.1.1, h.1.2⟩

/-- **Edits keep the order.**  A new key comes last, or first if it is put in front; the value of a
key that is there is handed back, and replaced or removed where it stands. -/
theorem absent_or_between (h : fields.Distinct) (key : String) :
    fields.Absent key ∨ ∃ before old after, fields.Between before key old after := by
  by_cases hkey : key ∈ fields.keys
  · obtain ⟨before, old, after, rfl, hbefore, hafter⟩ := exists_members h hkey
    exact .inr ⟨before, old, after, between hbefore hafter⟩
  · exact .inl (absent hkey)

/-! ### Distinct keys -/

lemma keys_insert (fields : Fields α) (key : String) (value : α) :
    (fields.insert key value).keys
      = if key ∈ fields.keys then fields.keys else fields.keys ++ [key] := by
  induction fields with
  | nil => rfl
  | cons member rest ih =>
    obtain ⟨k, v⟩ := member
    by_cases hkey : k = key
    · simp [insert, keys, hkey]
    · have hkeys : keys ((k, v) :: insert rest key value) = k :: keys (insert rest key value) := rfl
      have hmem : key ∈ keys ((k, v) :: rest) ↔ key ∈ keys rest := by
        simp [keys, Ne.symm hkey]
      rw [insert, if_neg hkey, hkeys, ih]
      simp only [hmem]
      split <;> rfl

lemma distinct_insert (h : fields.Distinct) (key : String) (value : α) :
    (fields.insert key value).Distinct := by
  rw [Distinct, keys_insert]
  split_ifs with hkey
  · exact h
  · rw [← List.concat_eq_append]
    exact h.concat hkey

lemma distinct_insertFirst (h : fields.Distinct) (key : String) (value : α) :
    (fields.insertFirst key value).Distinct :=
  List.nodup_cons.mpr ⟨by simp, h.sublist (List.filter_sublist.map _)⟩

lemma erase_eq_filter (h : fields.Distinct) (key : String) :
    fields.erase key = fields.filter (·.1 ≠ key) := by
  by_cases hkey : key ∈ fields.keys
  · obtain ⟨before, old, after, rfl, hbefore, hafter⟩ := exists_members h hkey
    rw [erase_append hbefore, erase, if_pos rfl, List.filter_append,
      List.filter_cons_of_neg (by simp), filter_ne_of_notMem hbefore, filter_ne_of_notMem hafter]
  · rw [erase_of_notMem hkey, filter_ne_of_notMem hkey]

lemma distinct_erase (h : fields.Distinct) (key : String) : (fields.erase key).Distinct := by
  rw [erase_eq_filter h]
  exact h.sublist (List.filter_sublist.map _)

lemma keys_replace (fields : Fields α) (key : String) (value : α) :
    (fields.replace key value).keys = fields.keys := by
  induction fields with
  | nil => rfl
  | cons member rest ih =>
    obtain ⟨k, v⟩ := member
    by_cases hkey : k = key
    · simp [replace, keys, hkey]
    · rw [replace, if_neg hkey]
      exact congrArg (k :: ·) ih

lemma distinct_replace (h : fields.Distinct) (key : String) (value : α) :
    (fields.replace key value).Distinct := by
  rw [Distinct, keys_replace]
  exact h

/-! ### Values after a removal and after a collection -/

lemma get?_erase (h : fields.Distinct) (key other : String) :
    (fields.erase key).get? other = if key = other then none else fields.get? other := by
  split_ifs with heq
  · subst heq
    rw [erase_eq_filter h]
    exact get?_of_notMem (by simp [keys])
  · clear h
    induction fields with
    | nil => rfl
    | cons member rest ih => grind [erase, get?]

lemma ofList_concat (members : List (String × α)) (member : String × α) :
    ofList (members ++ [member]) = (ofList members).insert member.1 member.2 :=
  List.foldl_concat ..

lemma distinct_ofList (members : List (String × α)) : (ofList members).Distinct := by
  induction members using List.reverseRecOn with
  | nil => exact List.nodup_nil
  | append_singleton members member ih =>
    rw [ofList_concat]
    exact distinct_insert ih member.1 member.2

/-- A key has the last of the values that it is given. -/
lemma get?_ofList (members : List (String × α)) (key : String) :
    (ofList members).get? key = ((members.filter (·.1 = key)).map (·.2)).getLast? := by
  induction members using List.reverseRecOn with
  | nil => rfl
  | append_singleton members member ih =>
    rw [ofList_concat, get?_insert, ih, List.filter_append, List.map_append]
    split_ifs with hkey
    · simp [hkey]
    · simp [hkey]

end DocQuery.Fields
