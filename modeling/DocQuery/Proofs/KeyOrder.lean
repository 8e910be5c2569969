import DocQuery.Proofs.ReorderedSelectors
import DocQuery.Query.OfJson

/-!
The order of keys and the choice between synonyms do not matter in a query.

* `Query.Respelled` (**respelling**): two queries that are equal up to the order of their keys, at
  every depth, and up to `where` for `selector` and `projection` for `fields`;
* `Query.Alike`: the same answer on documents that are equal up to the order of keys;
* `Query.agree_ofJsonWith` (**main statement**): respelled queries are read alike or rejected both.
-/

namespace DocQuery

/-! ### Sort keys and paths -/

variable {config : QueryConfig} {place place' : Location} {json json' : Json}

namespace Direction

lemma ofJson?_congr (h : json.Reordered json') : ofJson? json = ofJson? json' := by
  cases h <;> rfl

lemma agree_ofJson (h : json.Reordered json') :
    Agree (· = ·) (ofJson json place) (ofJson json' place') := by
  rw [ofJson, ofJson, ofJson?_congr h]
  cases ofJson? json' with
  | none => exact .failed _ _
  | some direction => exact .done rfl

end Direction

lemma agree_countOfJson (h : json.Reordered json') :
    Agree (· = ·) (countOfJson json place) (countOfJson json' place) := by
  cases h with
  | number n =>
    unfold countOfJson
    split
    · exact .done rfl
    · exact .failed _ _
  | _ => exact .failed _ _

lemma FieldPath.agree_ofItems {items items' : List Json}
    (h : List.Forall₂ Tree.Reordered items items') (i : Nat) :
    Agree (· = ·) (FieldPath.ofItems config place i items)
      (FieldPath.ofItems config place i items') := by
  induction h generalizing i with
  | nil => exact .done rfl
  | cons hitem _ ih =>
    cases hitem with
    | string text =>
      refine (Selector.agree_ofKey config text).bind ?_
      rintro path _ rfl
      refine (ih (i + 1)).bind ?_
      rintro paths _ rfl
      exact .done rfl
    | _ => exact .failed _ _

namespace SortKey

variable {members members' : Fields Json}

lemma isSpelledOut_congr (hlength : members.length = members'.length)
    (h : ∀ key, Option.Rel Tree.Reordered (members.get? key) (members'.get? key)) :
    isSpelledOut members = isSpelledOut members' := by
  have hdirection : members.contains "direction" = members'.contains "direction" := by
    have hsome := h "direction"
    unfold Fields.contains
    generalize members.get? "direction" = a, members'.get? "direction" = a' at hsome
    cases hsome <;> rfl
  unfold isSpelledOut
  rw [hlength, hdirection]
  have hpath := h "path"
  generalize members.get? "path" = a, members'.get? "path" = a' at hpath
  cases hpath with
  | none => rfl
  | some hjson => simp only [Direction.ofJson?_congr hjson]

lemma agree_ofSpelledOut
    (h : ∀ key, Option.Rel Tree.Reordered (members.get? key) (members'.get? key)) :
    Agree (· = ·) (ofSpelledOut config place members) (ofSpelledOut config place' members') := by
  unfold ofSpelledOut
  rw [Tree.asString?_congr (h "path")]
  cases (members'.get? "path").bind Tree.asString? with
  | none => exact .failed _ _
  | some text =>
    have hdirection := h "direction"
    generalize members.get? "direction" = a, members'.get? "direction" = a' at hdirection
    have hrest (direction : Direction) :
        Agree (· = ·)
          (FieldPath.ofKey config text place >>= fun path => .ok (SortKey.mk path direction))
          (FieldPath.ofKey config text place' >>= fun path => .ok (SortKey.mk path direction)) := by
      refine (Selector.agree_ofKey config text).bind ?_
      rintro path _ rfl
      exact .done rfl
    cases hdirection with
    | none => exact hrest .ascending
    | some hjson =>
      refine (Direction.agree_ofJson hjson).bind ?_
      rintro direction _ rfl
      exact hrest direction

lemma agree_ofJson (h : json.Reordered json') :
    Agree (· = ·) (ofJson config place json) (ofJson config place' json') := by
  cases h with
  | string text =>
    refine (Selector.agree_ofKey config text).bind ?_
    rintro path _ rfl
    exact .done rfl
  | @object members members' hdistinct hkeys hvalues =>
    have hlength : members.length = members'.length := by
      simpa [Fields.keys] using hkeys.length_eq
    have hget := Fields.rel_get? hkeys hvalues
    have hspelled := isSpelledOut_congr hlength hget
    unfold ofJson
    dsimp only
    rw [hspelled]
    split
    · exact agree_ofSpelledOut hget
    · -- Both have as many members; with a single one it stands under the same key.
      rcases members with _ | ⟨⟨key, json⟩, _ | ⟨second, rest⟩⟩ <;>
        rcases members' with _ | ⟨⟨key', json'⟩, _ | ⟨second', rest'⟩⟩ <;>
        try cases hlength
      · exact .failed _ _
      · cases List.singleton_perm_singleton.mp hkeys
        have hjson : json.Reordered json' := hvalues key json json' (by simp [Fields.get?])
          (by simp [Fields.get?])
        refine (Selector.agree_ofKey config key).bind ?_
        rintro path _ rfl
        refine (Direction.agree_ofJson hjson).bind ?_
        rintro direction _ rfl
        exact .done rfl
      · exact .failed _ _
  | _ => exact .failed _ _

lemma agree_ofItems {items items' : List Json} (h : List.Forall₂ Tree.Reordered items items')
    (i : Nat) :
    Agree (· = ·) (ofItems config place i items) (ofItems config place i items') := by
  induction h generalizing i with
  | nil => exact .done rfl
  | cons hitem _ ih =>
    refine (agree_ofJson hitem).bind ?_
    rintro key _ rfl
    refine (ih (i + 1)).bind ?_
    rintro keys _ rfl
    exact .done rfl

end SortKey

namespace Query

/-! ### Respelled queries -/

/-- The key that a key of a query stands for. -/
def canonicalKey (key : String) : String :=
  match key with
  | "where" => "selector"
  | "projection" => "fields"
  | key => key

/-- Two queries are equal up to the order of the keys of their objects, at every depth, and up to
the choice between a key and its synonym; no object in them repeats a key. -/
inductive Respelled : Json → Json → Prop
  | object {members middle members' : Fields Json} (distinct : members.Distinct)
      (distinct' : members'.Distinct) (perm : members.Perm middle)
      (respelled : List.Forall₂ (fun member member' =>
        canonicalKey member.1 = canonicalKey member'.1 ∧ member.2.Reordered member'.2)
        middle members') :
      Respelled (.object members) (.object members')
  | other {json json' : Json} (kind : json.kind ≠ .object) (reordered : json.Reordered json') :
      Respelled json json'

/-- Two queries have the same projection, sort keys, skip and limit, and on documents that are equal
up to the order of keys they have the same matches and the same order. -/
structure Alike (query query' : Query) : Prop where
  projection : query.projection = query'.projection
  sort : query.sort = query'.sort
  skip : query.skip = query'.skip
  limit : query.limit = query'.limit
  selector : ∀ doc doc' : Document, doc.Reordered doc' →
    (query.selector.isMatch doc = true ↔ query'.selector.isMatch doc' = true)
  order : ∀ doc doc' : Document, doc.Reordered doc' → ∀ other,
    Document.order query.sort doc other = Document.order query'.sort doc' other
      ∧ Document.order query.sort other doc = Document.order query'.sort other doc'

/-! ### Keys of queries -/

variable {members members' : Fields Json} {key synonym : String}

lemma canonicalKey_mem_topLevelKeys : canonicalKey key ∈ topLevelKeys ↔ key ∈ topLevelKeys := by
  unfold canonicalKey
  split <;> simp [topLevelKeys]

/-- A key and the other key that stands for it, or a key that has no synonym and is its own. -/
def Spellings (key synonym : String) : Prop :=
  ∀ other, canonicalKey other = key ↔ other = key ∨ other = synonym

lemma spellings_selector : Spellings "selector" "where" := by
  intro other
  unfold canonicalKey
  split <;> simp_all

lemma spellings_fields : Spellings "fields" "projection" := by
  intro other
  unfold canonicalKey
  split <;> simp_all

lemma spellings_self (hkey : key ∉ ["selector", "where", "fields", "projection"]) :
    Spellings key key := by
  intro other
  unfold canonicalKey
  split <;> simp_all [eq_comm]

lemma count_map_canonicalKey (hspellings : Spellings key synonym) (hne : key ≠ synonym)
    (keys : List String) :
    (keys.map canonicalKey).count key = keys.count key + keys.count synonym := by
  induction keys with
  | nil => rfl
  | cons other rest ih =>
    have hother := hspellings other
    rw [List.map_cons, List.count_cons, List.count_cons, List.count_cons, ih]
    by_cases hkey : other = key
    · subst hkey
      simp [hother, hne]
      omega
    · by_cases hsynonym : other = synonym
      · subst hsynonym
        simp [hother, hkey]
        omega
      · simp [hother, hkey, hsynonym]

/-- A key stands beside its synonym when two keys stand for it. -/
lemma both_iff (hdistinct : members.Distinct) (hspellings : Spellings key synonym)
    (hne : key ≠ synonym) :
    (key ∈ members.keys ∧ synonym ∈ members.keys)
      ↔ (members.keys.map canonicalKey).count key = 2 := by
  rw [count_map_canonicalKey hspellings hne, List.Nodup.count hdistinct, List.Nodup.count hdistinct]
  split <;> split <;> simp_all

lemma contains_iff : members.contains key = true ↔ key ∈ members.keys := by
  rw [Fields.contains, Option.isSome_iff_exists, Fields.mem_keys_iff]

/-- The value of a key that does not stand beside its synonym is that of the member which stands for
the key. -/
lemma valueOf?_eq_some_iff (hdistinct : members.Distinct) (hspellings : Spellings key synonym)
    (hsingle : ¬ (key ∈ members.keys ∧ synonym ∈ members.keys)) (value : Json) :
    valueOf? members key synonym = some value
      ↔ ∃ member ∈ members, canonicalKey member.1 = key ∧ member.2 = value := by
  have hmember (name : String) : members.get? name = some value ↔ (name, value) ∈ members :=
    Fields.get?_eq_some_iff hdistinct
  rw [valueOf?, Option.or_eq_some_iff, hmember, hmember]
  constructor
  · rintro (hmem | ⟨_, hmem⟩)
    · exact ⟨_, hmem, (hspellings key).mpr (.inl rfl), rfl⟩
    · exact ⟨_, hmem, (hspellings synonym).mpr (.inr rfl), rfl⟩
  · rintro ⟨⟨name, _⟩, hmem, hname, rfl⟩
    rcases (hspellings name).mp hname with rfl | rfl
    · exact .inl hmem
    · refine .inr ⟨Option.eq_none_iff_forall_ne_some.mpr fun value hvalue => hsingle ?_, hmem⟩
      exact ⟨Fields.mem_keys_iff.mpr ⟨value, hvalue⟩, List.mem_map_of_mem hmem⟩

/-- A key without a synonym has the value of the member that stands for it. -/
lemma get?_eq_some_iff (hdistinct : members.Distinct) (hspellings : Spellings key key)
    (value : Json) :
    members.get? key = some value
      ↔ ∃ member ∈ members, canonicalKey member.1 = key ∧ member.2 = value := by
  have hkey (name : String) : canonicalKey name = key ↔ name = key := by
    rw [hspellings, or_self]
  simp only [Fields.get?_eq_some_iff hdistinct, hkey]
  constructor
  · exact fun hmem => ⟨_, hmem, rfl, rfl⟩
  · rintro ⟨⟨_, _⟩, hmem, rfl, rfl⟩
    exact hmem

/-! ### Respelled members -/

/-- What the members of two respelled queries have in common. -/
structure SameMembers (members members' : Fields Json) : Prop where
  distinct : members.Distinct
  distinct' : members'.Distinct
  keys : (members.keys.map canonicalKey).Perm (members'.keys.map canonicalKey)
  matched : Matched (fun member member' =>
    canonicalKey member.1 = canonicalKey member'.1 ∧ member.2.Reordered member'.2) members members'

/-- What is read off the members that stand for a key is the same up to the order of keys. -/
lemma SameMembers.rel {a b : Option Json} (h : SameMembers members members')
    (ha : ∀ value, a = some value
      ↔ ∃ member ∈ members, canonicalKey member.1 = key ∧ member.2 = value)
    (hb : ∀ value, b = some value
      ↔ ∃ member ∈ members', canonicalKey member.1 = key ∧ member.2 = value) :
    Option.Rel Tree.Reordered a b := by
  cases a with
  | none =>
    cases b with
    | none => exact .none
    | some value' =>
      obtain ⟨member', hmember', hkey, rfl⟩ := (hb value').mp rfl
      obtain ⟨member, hmember, heq, hvalue⟩ := h.matched.right member' hmember'
      have := (ha member.2).mpr ⟨member, hmember, heq.trans hkey, rfl⟩
      cases this
  | some value =>
    obtain ⟨member, hmember, hkey, rfl⟩ := (ha value).mp rfl
    obtain ⟨member', hmember', heq, hvalue⟩ := h.matched.left member hmember
    rw [(hb member'.2).mpr ⟨member', hmember', heq ▸ hkey, rfl⟩]
    exact .some hvalue

/-- Respelled objects have the same members up to the order and spelling of keys. -/
lemma sameMembers_of_forall₂ {middle : Fields Json} (hdistinct : members.Distinct)
    (hdistinct' : members'.Distinct) (hperm : members.Perm middle)
    (hrespelled : List.Forall₂ (fun member member' =>
      canonicalKey member.1 = canonicalKey member'.1 ∧ member.2.Reordered member'.2)
      middle members') : SameMembers members members' where
  distinct := hdistinct
  distinct' := hdistinct'
  keys := by
    have hmiddle : List.Forall₂ (· = ·) (middle.keys.map canonicalKey)
        (members'.keys.map canonicalKey) := by
      simp only [Fields.keys, List.map_map, List.forall₂_map_left_iff, List.forall₂_map_right_iff]
      exact hrespelled.imp fun _ _ h => h.1
    rw [List.forall₂_eq_eq_eq] at hmiddle
    exact hmiddle ▸ (hperm.map _).map _
  matched := by
    have hmatched := Matched.of_forall₂ hrespelled
    constructor
    · exact fun member hmember => hmatched.left member (hperm.mem_iff.mp hmember)
    · intro member' hmember'
      obtain ⟨member, hmember, h⟩ := hmatched.right member' hmember'
      exact ⟨member, hperm.mem_iff.mpr hmember, h⟩

lemma exists_checkKeys_eq_ok_iff :
    (∃ u, checkKeys members = .ok u)
      ↔ ∀ key ∈ members.keys.map canonicalKey, key ∈ topLevelKeys := by
  have hfind : (∃ u, checkKeys members = .ok u)
      ↔ members.keys.find? (· ∉ topLevelKeys) = none := by
    unfold checkKeys
    cases members.keys.find? (· ∉ topLevelKeys) <;> simp
  rw [hfind, List.find?_eq_none, List.forall_mem_map]
  simp [canonicalKey_mem_topLevelKeys]

lemma agree_checkKeys (h : SameMembers members members') :
    Agree (fun _ _ => True) (checkKeys members) (checkKeys members') := by
  refine Agree.iff_forall.mpr ⟨?_, fun _ _ _ _ => trivial⟩
  rw [exists_checkKeys_eq_ok_iff, exists_checkKeys_eq_ok_iff]
  exact forall_congr' fun key => by rw [h.keys.mem_iff]

/-- Whether a key stands beside its synonym is seen in the number of keys that stand for it. -/
lemma agree_checkSynonym (h : SameMembers members members') (hspellings : Spellings key synonym)
    (hne : key ≠ synonym) :
    Agree (fun _ _ => Option.Rel Tree.Reordered (valueOf? members key synonym)
      (valueOf? members' key synonym)) (checkSynonym members key synonym)
      (checkSynonym members' key synonym) := by
  have hboth := both_iff h.distinct hspellings hne
  have hboth' := both_iff h.distinct' hspellings hne
  rw [h.keys.count_eq, ← hboth'] at hboth
  unfold checkSynonym
  simp only [Bool.and_eq_true, contains_iff, hboth]
  split_ifs with hconflict
  · exact .failed _ _
  · refine .done (h.rel (valueOf?_eq_some_iff h.distinct hspellings ?_)
      (valueOf?_eq_some_iff h.distinct' hspellings hconflict))
    rwa [hboth]

lemma agree_optional {α : Type} {read read' : Json → Except QueryError α} {a b : Option Json}
    (h : Option.Rel Tree.Reordered a b)
    (hread : ∀ json json', Tree.Reordered json json' → Agree (· = ·) (read json) (read' json')) :
    Agree (· = ·) (optional read a) (optional read' b) := by
  cases h with
  | none => exact .done rfl
  | some hjson => exact (hread _ _ hjson).map fun _ _ => congrArg some

lemma agree_projectionOfJson (h : json.Reordered json') :
    Agree (· = ·) (projectionOfJson config json) (projectionOfJson config json') := by
  unfold projectionOfJson
  cases h with
  | @array items items' hlength hitems =>
    dsimp only
    rw [hlength]
    split
    · exact .failed _ _
    · exact FieldPath.agree_ofItems (Tree.forall₂_of_getElem? hlength hitems) 0
  | _ => exact .failed _ _

lemma agree_sortOfJson (h : json.Reordered json') :
    Agree (· = ·) (sortOfJson config json) (sortOfJson config json') := by
  unfold sortOfJson
  cases h with
  | @array items items' hlength hitems =>
    dsimp only
    rw [hlength]
    split
    · exact .failed _ _
    · exact SortKey.agree_ofItems (Tree.forall₂_of_getElem? hlength hitems) 0
  | _ => exact .failed _ _

/-! ### Main statement -/

lemma agree_ofMembers (h : SameMembers members members') :
    Agree Alike (ofMembers config members) (ofMembers config members') := by
  unfold ofMembers
  refine (agree_checkKeys h).bind fun _ _ _ => ?_
  refine (agree_checkSynonym h spellings_selector (by decide)).bind fun _ _ hselector => ?_
  refine (agree_checkSynonym h spellings_fields (by decide)).bind fun _ _ hprojection => ?_
  have hget (key : String) (hkey : key ∉ ["selector", "where", "fields", "projection"]) :
      Option.Rel Tree.Reordered (members.get? key) (members'.get? key) :=
    h.rel (get?_eq_some_iff h.distinct (spellings_self hkey))
      (get?_eq_some_iff h.distinct' (spellings_self hkey))
  generalize valueOf? members "selector" "where" = a, valueOf? members' "selector" "where" = a'
    at hselector
  cases hselector with
  | none => exact .failed _ _
  | some hjson =>
    refine ((Selector.readAlike_of_reordered hjson).selector ..).bind
      fun selector selector' hs => ?_
    refine (agree_optional hprojection fun _ _ => agree_projectionOfJson).bind ?_
    rintro projection _ rfl
    refine (agree_optional (hget "sort" (by decide)) fun _ _ => agree_sortOfJson).bind ?_
    rintro sort _ rfl
    refine (agree_optional (hget "skip" (by decide)) fun _ _ => agree_countOfJson).bind ?_
    rintro skip _ rfl
    refine (agree_optional (hget "limit" (by decide)) fun _ _ => agree_countOfJson).bind ?_
    rintro limit _ rfl
    exact .done {
      projection := rfl
      sort := rfl
      skip := rfl
      limit := rfl
      selector := fun doc doc' hdoc => by
        rw [Selector.isMatch, Selector.isMatch, hs _ _ hdoc.fieldAt]
      order := fun doc doc' hdoc other => Document.order_congr hdoc _ other }

/-- **The order of keys and the choice between synonyms do not matter: respelled queries are
rejected both, or they are read as queries that agree on everything.** -/
theorem agree_ofJsonWith (config : QueryConfig) (h : Respelled json json') :
    Agree Alike (ofJsonWith config json) (ofJsonWith config json') := by
  cases h with
  | object hdistinct hdistinct' hperm hrespelled =>
    exact agree_ofMembers (sameMembers_of_forall₂ hdistinct hdistinct' hperm hrespelled)
  | other hkind hreordered =>
    cases hreordered with
    | object => exact absurd rfl hkind
    | _ => exact .failed _ _

/-- Asks for the sizes of boxes of some sizes, large ones first. -/
def boxes : Json :=
  .object [
    ("selector", .object [
      ("kind", .string "box"),
      ("size", .object [
        ("$gte", .number (.int 2)),
        ("$ne", .object [("width", .number (.int 1)), ("height", .number (.int 2))])])]),
    ("fields", .array [.string "size"]),
    ("sort", .array [.object [("path", .string "size"), ("direction", .string "desc")]])]

/-- The same query with the keys of every object the other way round and with both synonyms. -/
def respelledBoxes : Json :=
  .object [
    ("sort", .array [.object [("direction", .string "desc"), ("path", .string "size")]]),
    ("projection", .array [.string "size"]),
    ("where", .object [
      ("size", .object [
        ("$ne", .object [("height", .number (.int 2)), ("width", .number (.int 1))]),
        ("$gte", .number (.int 2))]),
      ("kind", .string "box")])]

lemma boxes_respelled : Respelled boxes respelledBoxes := by
  refine .object (by decide) (by decide) (List.reverse_perm _).symm
    (.cons ⟨rfl, ?sort⟩ (.cons ⟨rfl, ?fields⟩ (.cons ⟨rfl, ?selector⟩ .nil)))
  case fields => exact Tree.reordered_self_iff.mpr ⟨trivial, trivial⟩
  case sort =>
    refine .array rfl fun i x y hx hy => ?_
    cases i with
    | zero =>
      cases hx
      cases hy
      exact .of_perm (by decide) (List.reverse_perm _).symm
        (.cons ⟨rfl, .string _⟩ (.cons ⟨rfl, .string _⟩ .nil))
    | succ i => cases hx
  case selector =>
    refine .of_perm (by decide) (List.reverse_perm _).symm
      (.cons ⟨rfl, ?size⟩ (.cons ⟨rfl, .string _⟩ .nil))
    refine .of_perm (by decide) (List.reverse_perm _).symm
      (.cons ⟨rfl, ?literal⟩ (.cons ⟨rfl, .number _⟩ .nil))
    exact .of_perm (by decide) (List.reverse_perm _).symm
      (.cons ⟨rfl, .number _⟩ (.cons ⟨rfl, .number _⟩ .nil))

theorem boxes_agree :
    Respelled boxes respelledBoxes ∧ (ofJson boxes).isOk = true
      ∧ Agree Alike (ofJson boxes) (ofJson respelledBoxes) :=
  ⟨boxes_respelled, by decide +kernel, agree_ofJsonWith .standard boxes_respelled⟩

end Query

end DocQuery
