import DocQuery.Proofs.SelectorParts

/-!
The first fault of a selector that is not valid, in the order of the document.

* `Role.Accepts`: a part is valid by itself in its role;
* `Role.Faultless`: a part is not at fault itself, whatever is inside it;
* `Role.FirstFault` (**the place**): the steps to a part at fault, before which everything is valid;
* `Role.FirstFault.not_accepts`: only a tree that is not valid has one;
* `Role.FirstFault.unique` (**main statement**): it has one at most.
-/

namespace DocQuery

namespace Role

variable {config : QueryConfig} {operators : Nat} {role : Role} {json : Json} {steps : List Step}

/-! ### Valid parts and faultless parts -/

/-- A tree with some operators around it is valid by itself in its role. -/
def Accepts (config : QueryConfig) (operators : Nat) (role : Role) (json : Json) : Prop :=
  role.Valid json ∧ role.Fits config operators json

/-- A part that is not at fault itself, whatever is inside it: it has the shape that its role asks
for, and it keeps the limits. -/
def Faultless (config : QueryConfig) (operators : Nat) : Role → Json → Prop
  | .selector _, json => operators ≤ config.maxSelectorDepth ∧ ∃ members, json = .object members
  | .selectors _, json => ∃ items, json = .array items ∧ items ≠ []
  | .condition path, _ => operators ≤ config.maxSelectorDepth ∧ path.depth ≤ config.maxPathDepth
  | .operand operator, json => operator.Takes json ∧ operator.OperandFits config json
  | .data, _ => False

/-- A valid part is not at fault itself. -/
lemma Accepts.faultless (h : role.Accepts config operators json) :
    role.Faultless config operators json := by
  obtain ⟨hvalid, hfits⟩ := h
  cases role with
  | selector inItem =>
    refine ⟨le_of_selectorFits hfits, ?_⟩
    cases hvalid with
    | object => exact ⟨_, rfl⟩
  | selectors inItem =>
    obtain ⟨items, hitems, hnonempty, -⟩ := hvalid
    exact ⟨items, hitems, hnonempty⟩
  | condition path => exact ⟨hfits.1, hfits.2.1⟩
  | operand operator => exact ⟨hvalid, hfits.2⟩
  | data => exact hvalid

/-- What stands in the entries of a valid object is valid by itself. -/
lemma Accepts.of_member {members : Fields Json} (hentries : role.HasEntries)
    (h : role.Accepts config operators (.object members)) {member : String × Json}
    (hmember : member ∈ members) :
    (role.child (.key member.1)).Accepts config (operators + operatorsAround [.key member.1])
      member.2 :=
  ⟨valid_child_of_entries hentries h.1 hmember, ((fits_object_iff h.1).mp h.2).2 member hmember⟩

/-- The items of a valid array of selectors are valid by themselves. -/
lemma Accepts.of_item {inItem : Bool} {items : List Json}
    (h : (selectors inItem).Accepts config operators (.array items)) {item : Json}
    (hitem : item ∈ items) : (selector inItem).Accepts config operators item := by
  obtain ⟨⟨_, ⟨rfl⟩, -, hvalid⟩, hfits⟩ := h
  exact ⟨hvalid item hitem, hfits items rfl item hitem⟩

/-! ### First faults -/

/-- The steps to the first fault of a tree.  What they lead to is at fault itself, the objects and
arrays on the way are not, and everything earlier in them is valid by itself, where an entry by
itself is an object of one entry. -/
inductive FirstFault (config : QueryConfig) : Nat → Role → Json → List Step → Prop
  | here {operators : Nat} {role : Role} {json : Json}
      (fault : ¬ role.Faultless config operators json) : FirstFault config operators role json []
  | key {operators : Nat} {role : Role} {members before after : Fields Json}
      {member : String × Json} {steps : List Step} (entries : role.HasEntries)
      (outside : role.Faultless config operators (.object members))
      (split : members = before ++ member :: after)
      (earlier : ∀ entry ∈ before, role.Accepts config operators (.object [entry]))
      (inside : FirstFault config (operators + operatorsAround [.key member.1])
        (role.child (.key member.1)) member.2 steps) :
      FirstFault config operators role (.object members) (.key member.1 :: steps)
  | index {operators : Nat} {inItem : Bool} {items before after : List Json} {item : Json}
      {steps : List Step} (split : items = before ++ item :: after)
      (earlier : ∀ other ∈ before, (selector inItem).Accepts config operators other)
      (inside : FirstFault config operators (selector inItem) item steps) :
      FirstFault config operators (selectors inItem) (.array items)
        (.index before.length :: steps)

namespace FirstFault

/-- The steps to a first fault lead to a part of the tree. -/
lemma exists_hasPart (h : FirstFault config operators role json steps) :
    ∃ part, json.HasPart steps part := by
  induction h with
  | here fault => exact ⟨_, .here⟩
  | key entries outside split earlier inside ih =>
    obtain ⟨part, hpart⟩ := ih
    exact ⟨part, .key (by simp [split]) hpart⟩
  | index split earlier inside ih =>
    obtain ⟨part, hpart⟩ := ih
    exact ⟨part, .index (by simp [split]) hpart⟩

/-- A tree with a fault is not valid. -/
lemma not_accepts (h : FirstFault config operators role json steps) :
    ¬ role.Accepts config operators json := by
  induction h with
  | here fault => exact fun haccepts => fault haccepts.faultless
  | key entries outside split earlier inside ih =>
    exact fun haccepts => ih (haccepts.of_member entries (by simp [split]))
  | index split earlier inside ih =>
    exact fun haccepts => ih (haccepts.of_item (by simp [split]))

/-- An entry with a fault inside is not valid by itself. -/
lemma not_accepts_entry {member : String × Json} (hentries : role.HasEntries)
    (h : FirstFault config (operators + operatorsAround [.key member.1])
      (role.child (.key member.1)) member.2 steps) :
    ¬ role.Accepts config operators (.object [member]) :=
  fun haccepts => h.not_accepts (haccepts.of_member hentries (List.mem_singleton_self member))

lemma faultless_of_split {inItem : Bool} {items before after : List Json} {item : Json}
    (h : items = before ++ item :: after) :
    (selectors inItem).Faultless config operators (.array items) :=
  ⟨items, rfl, h ▸ List.append_ne_nil_of_right_ne_nil _ (List.cons_ne_nil _ _)⟩

/-- Where a list is split at two elements, one of them comes before the other, or they are one. -/
lemma split_cases {α : Type} {before after before' after' : List α} {a a' : α}
    (h : before ++ a :: after = before' ++ a' :: after') :
    a ∈ before' ∨ a' ∈ before ∨ (before = before' ∧ a = a') := by
  obtain ⟨between, rfl, heq⟩ | ⟨between, rfl, heq⟩ := List.append_eq_append_iff.mp h
  · cases between with
    | nil =>
      cases heq
      exact .inr (.inr ⟨(List.append_nil _).symm, rfl⟩)
    | cons first rest =>
      cases heq
      exact .inl (by simp)
  · cases between with
    | nil =>
      cases heq
      exact .inr (.inr ⟨List.append_nil _, rfl⟩)
    | cons first rest =>
      cases heq
      exact .inr (.inl (by simp))

/-- **A tree has one first fault at most.** -/
theorem unique {steps' : List Step} (h : FirstFault config operators role json steps)
    (h' : FirstFault config operators role json steps') : steps = steps' := by
  induction h generalizing steps' with
  | here fault =>
    cases h' with
    | here => rfl
    | key entries outside => exact absurd outside fault
    | index split => exact absurd (faultless_of_split split) fault
  | @key _ role members before after member steps entries outside split earlier inside ih =>
    cases h' with
    | here fault => exact absurd outside fault
    | @key _ _ _ before' after' member' steps' _ _ split' earlier' inside' =>
      obtain hmem | hmem | ⟨-, rfl⟩ := split_cases (split.symm.trans split')
      · exact absurd (earlier' member hmem) (not_accepts_entry entries inside)
      · exact absurd (earlier member' hmem) (not_accepts_entry entries inside')
      · rw [ih inside']
  | @index _ inItem items before after item steps split earlier inside ih =>
    cases h' with
    | here fault => exact absurd (faultless_of_split split) fault
    | @index _ _ _ before' after' item' steps' split' earlier' inside' =>
      obtain hmem | hmem | ⟨rfl, rfl⟩ := split_cases (split.symm.trans split')
      · exact absurd (earlier' item hmem) inside.not_accepts
      · exact absurd (earlier item' hmem) inside'.not_accepts
      · rw [ih inside']

end FirstFault

end Role

end DocQuery
