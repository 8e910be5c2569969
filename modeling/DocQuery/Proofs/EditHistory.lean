import DocQuery.Proofs.FieldEdits
import DocQuery.Proofs.ValueEquality
import Mathlib.Data.Set.Card

/-!
Fields after a history of edits are what the history says of each key, in an order that every edit
keeps.

* `Edit` and `Edit.applyAll`: edits of an object, and the fields after a history of them;
* `Edit.lifetime` (**lifetimes**): the values that a history wrote for a key since it was last
  absent, in which the edits of other keys have no part;
* `Fields.Records`: fields without a repeated key that have, for each key, the last value of its
  lifetime;
* `Edit.distinct_apply` and `Edit.get?_apply`: one more edit repeats no key, and makes of the value
  of a key what it makes of its lifetime;
* `Edit.applyAll_records_history` (**main statement**): every history leads to fields that record
  it, edits keep the order, and objects are equal if and only if their histories left equal values.
-/

namespace DocQuery

/-- An edit of the fields of an object.  Members are collected into fields of their own, and a value
is written in place of another only where there is one. -/
inductive Edit (α : Type) where
  | collect (members : List (String × α))
  | insert (key : String) (value : α)
  | insertFirst (key : String) (value : α)
  | remove (key : String)
  | write (key : String) (value : α)

namespace Edit

variable {α : Type}

/-! ### Histories -/

/-- The fields after an edit. -/
def apply (fields : Fields α) : Edit α → Fields α
  | .collect members => .ofList members
  | .insert key value => (fields.exchange key value).2
  | .insertFirst key value => fields.insertFirst key value
  | .remove key => (fields.withdraw key).2
  | .write key value => fields.replace key value

/-- The fields after a history of edits, oldest first, of an object that had none. -/
def applyAll (history : List (Edit α)) : Fields α := history.foldl apply []

/-- The values that were written for a key since it was last absent, after one more edit. -/
def extend (key : String) (written : List α) : Edit α → List α
  | .collect members => (members.filter (·.1 = key)).map (·.2)
  | .insert other value => if other = key then written ++ [value] else written
  | .insertFirst other value => if other = key then written ++ [value] else written
  | .remove other => if other = key then [] else written
  | .write other value => if other = key ∧ written ≠ [] then written ++ [value] else written

/-- The values that a history wrote for a key since it was last absent, oldest first. -/
def lifetime (key : String) (history : List (Edit α)) : List α :=
  history.foldl (extend key) []

variable {fields : Fields α} {history : List (Edit α)}

lemma applyAll_concat (history : List (Edit α)) (edit : Edit α) :
    applyAll (history ++ [edit]) = apply (applyAll history) edit := List.foldl_concat ..

lemma lifetime_concat (key : String) (history : List (Edit α)) (edit : Edit α) :
    lifetime key (history ++ [edit]) = extend key (lifetime key history) edit :=
  List.foldl_concat ..

/-! ### One edit -/

/-- No edit repeats a key. -/
lemma distinct_apply (h : fields.Distinct) (edit : Edit α) : (apply fields edit).Distinct := by
  cases edit with
  | collect members => exact Fields.distinct_ofList members
  | insert key value =>
    rw [apply, Fields.exchange_eq]
    exact Fields.distinct_insert h key value
  | insertFirst key value => exact Fields.distinct_insertFirst h key value
  | remove key =>
    rw [apply, Fields.withdraw_eq]
    exact Fields.distinct_erase h key
  | write key value => exact Fields.distinct_replace h key value

/-- One more edit makes of the value of a key what it makes of its lifetime. -/
lemma get?_apply (h : fields.Distinct) {key : String} {written : List α}
    (hget : fields.get? key = written.getLast?) (edit : Edit α) :
    (apply fields edit).get? key = (extend key written edit).getLast? := by
  cases edit with
  | collect members => exact Fields.get?_ofList members key
  | insert other value =>
    rw [apply, Fields.exchange_eq, Fields.get?_insert, extend]
    split_ifs with hkey
    · exact List.getLast?_concat.symm
    · exact hget
  | insertFirst other value =>
    rw [apply, Fields.get?_insertFirst, extend]
    split_ifs with hkey
    · exact List.getLast?_concat.symm
    · exact hget
  | remove other =>
    rw [apply, Fields.withdraw_eq, Fields.get?_erase h, extend]
    split_ifs with hkey
    · rfl
    · exact hget
  | write other value =>
    have hpresent : other = key ∧ fields.contains other = true ↔ other = key ∧ written ≠ [] := by
      refine and_congr_right ?_
      rintro rfl
      rw [Fields.contains, hget, List.getLast?_isSome]
    rw [apply, Fields.get?_replace, extend]
    simp only [hpresent]
    split_ifs with hkey
    · exact List.getLast?_concat.symm
    · exact hget

/-! ### A whole history -/

/-- The invariant of a history: no key is repeated, and each has the last value of its lifetime. -/
lemma distinct_and_get?_applyAll (history : List (Edit α)) :
    (applyAll history).Distinct
      ∧ ∀ key, (applyAll history).get? key = (lifetime key history).getLast? := by
  induction history using List.reverseRecOn with
  | nil => exact ⟨List.nodup_nil, fun _ => rfl⟩
  | append_singleton history edit ih =>
    obtain ⟨hdistinct, hget⟩ := ih
    rw [applyAll_concat]
    refine ⟨distinct_apply hdistinct edit, fun key => ?_⟩
    rw [lifetime_concat]
    exact get?_apply hdistinct (hget key) edit

end Edit

/-- Fields record a history: they have exactly the keys that it left a value for, each once and with
the last value that was written. -/
structure Fields.Records {α : Type} (fields : Fields α) (history : List (Edit α)) : Prop where
  distinct : fields.keys.Nodup
  value : ∀ key, fields.get? key = (Edit.lifetime key history).getLast?
  present : ∀ key, key ∈ fields.keys ↔ Edit.lifetime key history ≠ []
  contains : ∀ key, fields.contains key = true ↔ Edit.lifetime key history ≠ []
  length : fields.length = {key | Edit.lifetime key history ≠ []}.ncard
  isEmpty : fields.isEmpty = true ↔ ∀ key, Edit.lifetime key history = []

namespace Edit

lemma records_applyAll {α : Type} (history : List (Edit α)) :
    (applyAll history).Records history := by
  obtain ⟨hdistinct, hget⟩ := distinct_and_get?_applyAll history
  have hpresent (key : String) : key ∈ (applyAll history).keys ↔ lifetime key history ≠ [] := by
    rw [Fields.mem_keys_iff, hget, ← Option.isSome_iff_exists, List.getLast?_isSome]
  refine ⟨hdistinct, hget, hpresent, fun key => ?_, ?_, ?_⟩
  · rw [← hpresent, Fields.contains, Fields.mem_keys_iff, Option.isSome_iff_exists]
  · have hset : {key | lifetime key history ≠ []}
        = ((applyAll history).keys.toFinset : Set String) := by
      ext key
      simp [hpresent]
    rw [hset, Set.ncard_coe_finset, List.toFinset_card_of_nodup hdistinct, Fields.keys,
      List.length_map]
  · have hkeys : (applyAll history).isEmpty = true ↔ (applyAll history).keys = [] := by
      rw [List.isEmpty_iff, Fields.keys, List.map_eq_nil_iff]
    rw [hkeys, List.eq_nil_iff_forall_not_mem]
    exact forall_congr' fun key => by rw [hpresent, not_not]

end Edit

/-- Objects whose members have distinct keys are equal if and only if they have the same keys, with
equal values. -/
lemma Value.beq_object_iff_of_distinct {xs ys : Fields Value} (hxs : xs.Distinct)
    (hys : ys.Distinct) :
    ((.object xs : Value) == .object ys) = true ↔ (∀ key, key ∈ xs.keys ↔ key ∈ ys.keys)
      ∧ ∀ key v w, xs.get? key = some v → ys.get? key = some w → (v == w) = true := by
  have hobject : ((.object xs : Value) == .object ys) = true
      ↔ Fields.Corresponds (fun v w => beq v w = true) xs ys := beq_object_iff hxs
  have hkeys : xs.keys.Perm ys.keys ↔ ∀ key, key ∈ xs.keys ↔ key ∈ ys.keys :=
    List.perm_ext_iff_of_nodup hxs hys
  rw [hobject, ← hkeys]
  exact ⟨fun h => ⟨h.keys, h.values⟩, fun h => ⟨h.1, h.2⟩⟩

namespace Edit

/-- **Objects are maps that keep the order of insertion.**  Every history of edits leads to fields
that record it.  At a key that they lack, an insertion appends a member and a removal changes
nothing.  At a key that they have, both hand back its value, and put the new one in its place or
close the gap.  A key that is put in front leaves the others in their order.  Two objects are equal
if and only if their histories left the same keys with equal values. -/
theorem applyAll_records_history (history : List (Edit Value)) :
    (applyAll history).Records history
      ∧ (∀ key, (applyAll history).Absent key
        ∨ ∃ before old after, (applyAll history).Between before key old after)
      ∧ ∀ other : List (Edit Value),
        ((.object (applyAll history) : Value) == .object (applyAll other)) = true
          ↔ (∀ key, key ∈ (applyAll history).keys ↔ key ∈ (applyAll other).keys)
            ∧ ∀ key v w, (applyAll history).get? key = some v →
              (applyAll other).get? key = some w → (v == w) = true := by
  have hrecords := records_applyAll history
  exact ⟨hrecords, Fields.absent_or_between hrecords.distinct, fun other =>
    Value.beq_object_iff_of_distinct hrecords.distinct (records_applyAll other).distinct⟩

/-- Edits of every kind, among them a write to a key that was removed, which then comes back. -/
def rearrangement : List (Edit Value) :=
  [.collect [("a", .bool true), ("b", .null), ("a", .bool false)],
    .insertFirst "c" (.string "x"), .remove "b", .write "b" .null, .insert "b" (.array []),
    .write "c" .null]

theorem rearrangement_recorded :
    applyAll rearrangement = [("c", .null), ("a", .bool false), ("b", .array [])]
      ∧ lifetime "c" rearrangement = [.string "x", .null]
      ∧ (applyAll rearrangement).Records rearrangement
      ∧ ((.object (applyAll rearrangement) : Value)
        == .object (applyAll [.insert "a" (.bool false), .insert "b" (.array []),
          .insert "c" .null])) = true := by
  obtain ⟨hrecords, -, hequal⟩ := applyAll_records_history rearrangement
  have hfields : applyAll rearrangement = [("c", .null), ("a", .bool false), ("b", .array [])] :=
    rfl
  refine ⟨hfields, rfl, hrecords, (hequal _).mpr ⟨fun key => ?_, fun key v w hv hw => ?_⟩⟩
  · have hkeys : ["c", "a", "b"].Perm ["a", "b", "c"] := by decide
    exact hkeys.mem_iff
  · have hmember := (Fields.get?_eq_some_iff hrecords.distinct).mp hv
    rw [hfields] at hmember
    simp only [List.mem_cons, Prod.mk.injEq, List.not_mem_nil, or_false] at hmember
    rcases hmember with ⟨rfl, rfl⟩ | ⟨rfl, rfl⟩ | ⟨rfl, rfl⟩ <;> cases hw <;> rfl

end Edit

end DocQuery
