import DocQuery.Proofs.ReorderedSelectors
import DocQuery.Proofs.SpelledSelectors
import DocQuery.Query.OfJson

/-!
The spelling of whole numbers, as integers or as doubles, does not matter in a query but for numbers
beyond `2 ^ 53` in `$mod`.

* `Json.SameNumbers` (**respelling**): two trees are the same when their whole numbers are spelled
  as integers;
* `Query.SameOperands`: two queries are the same but for the signs of zeros in their operands;
* `Query.agree_or_refused` (**main statement**): queries with the same numbers are read alike or
  rejected both, unless one of them has a large `$mod` test and the other is refused for a `$mod`
  operand;
* `Query.doubleModulus_refused`: the exception occurs.
-/

namespace DocQuery

/-! ### Trees with the same numbers -/

namespace Json

/-- Two trees are the same up to the spelling of whole numbers. -/
def SameNumbers (json json' : Json) : Prop := json.withIntegers = json'.withIntegers

lemma sameNumbers_number_iff {a b : JsonNumber} :
    SameNumbers (.number a) (.number b) ↔ a = b ∨ ∃ n, a.Denotes n ∧ b.Denotes n := by
  rw [← JsonNumber.asInteger_eq_iff, ← Tree.number.injEq]
  rfl

lemma sameNumbers_array_iff {items items' : List Json} :
    SameNumbers (.array items) (.array items') ↔ List.Forall₂ SameNumbers items items' := by
  rw [SameNumbers, withIntegers_array, withIntegers_array, Tree.array.injEq,
    ← List.forall₂_eq_eq_eq, List.forall₂_map_left_iff, List.forall₂_map_right_iff]
  rfl

lemma sameNumbers_object_iff {members members' : Fields Json} :
    SameNumbers (.object members) (.object members')
      ↔ List.Forall₂ (fun member member' => member.1 = member'.1 ∧ SameNumbers member.2 member'.2)
        members members' := by
  rw [SameNumbers, withIntegers_object, withIntegers_object, Tree.object.injEq,
    membersWithIntegers, membersWithIntegers, ← List.forall₂_eq_eq_eq,
    List.forall₂_map_left_iff, List.forall₂_map_right_iff]
  simp only [Prod.mk.injEq, SameNumbers]

end Json

/-! ### Queries -/

variable {config : QueryConfig} {place : Location}

lemma countOfJson_withIntegers (json : Json) :
    countOfJson json.withIntegers place = countOfJson json place := by
  cases json with
  | number n =>
    change countOfJson (.number n.asInteger) place = countOfJson (.number n) place
    simp only [countOfJson, Tree.asNumber?, Option.bind_some, JsonNumber.count?_asInteger]
  | _ => rfl

lemma FieldPath.ofItems_withIntegers (items : List Json) (i : Nat) :
    FieldPath.ofItems config place i (items.map Json.withIntegers)
      = FieldPath.ofItems config place i items := by
  induction items generalizing i with
  | nil => rfl
  | cons item rest ih =>
    cases item with
    | string text =>
      change FieldPath.ofItems config place i (.string text :: rest.map Json.withIntegers) = _
      rw [FieldPath.ofItems, FieldPath.ofItems, ih]
    | _ => rfl

namespace Direction

lemma ofJson?_withIntegers (json : Json) : ofJson? json.withIntegers = ofJson? json := by
  cases json <;> rfl

lemma ofJson_withIntegers (json : Json) :
    ofJson json.withIntegers place = ofJson json place := by
  rw [ofJson, ofJson, ofJson?_withIntegers]

end Direction

namespace SortKey

lemma isSpelledOut_withIntegers (members : Fields Json) :
    isSpelledOut (Json.membersWithIntegers members)
      = isSpelledOut members := by
  simp only [isSpelledOut, Json.contains_membersWithIntegers, Json.get?_membersWithIntegers,
    Json.length_membersWithIntegers]
  cases members.get? "path" with
  | none => rfl
  | some json => simp only [Option.map_some, Direction.ofJson?_withIntegers]

lemma ofSpelledOut_withIntegers (members : Fields Json) :
    ofSpelledOut config place (Json.membersWithIntegers members)
      = ofSpelledOut config place members := by
  have hstring (json : Option Json) :
      (json.map Json.withIntegers).bind Tree.asString? = json.bind Tree.asString? := by
    rcases json with _ | ⟨_ | _ | _ | _ | _ | _⟩ <;> rfl
  rw [ofSpelledOut, ofSpelledOut, Json.get?_membersWithIntegers, Json.get?_membersWithIntegers,
    hstring]
  cases members.get? "direction" with
  | none => rfl
  | some json => simp only [Option.map_some, Direction.ofJson_withIntegers]

lemma ofJson_withIntegers (json : Json) :
    ofJson config place json.withIntegers = ofJson config place json := by
  cases json with
  | object members =>
    rw [Json.withIntegers_object]
    unfold ofJson
    dsimp only
    rw [isSpelledOut_withIntegers, ofSpelledOut_withIntegers]
    match members with
    | [] => rfl
    | [member] =>
      simp only [Json.membersWithIntegers, List.map_cons, List.map_nil,
        Direction.ofJson_withIntegers]
    | _ :: _ :: _ => rfl
  | _ => rfl

lemma ofItems_withIntegers (items : List Json) (i : Nat) :
    ofItems config place i (items.map Json.withIntegers) = ofItems config place i items := by
  induction items generalizing i with
  | nil => rfl
  | cons item rest ih => rw [List.map_cons, ofItems, ofItems, ofJson_withIntegers, ih]

end SortKey

namespace Query

lemma projectionOfJson_withIntegers (json : Json) :
    projectionOfJson config json.withIntegers = projectionOfJson config json := by
  cases json with
  | array items =>
    rw [Json.withIntegers_array, projectionOfJson, projectionOfJson, List.length_map,
      FieldPath.ofItems_withIntegers]
  | _ => rfl

lemma sortOfJson_withIntegers (json : Json) :
    sortOfJson config json.withIntegers = sortOfJson config json := by
  cases json with
  | array items =>
    rw [Json.withIntegers_array, sortOfJson, sortOfJson, List.length_map,
      SortKey.ofItems_withIntegers]
  | _ => rfl

lemma optional_map {α : Type} {read : Json → Except QueryError α} {f : Json → Json}
    (h : ∀ json, read (f json) = read json) (json : Option Json) :
    optional read (json.map f) = optional read json := by
  cases json with
  | none => rfl
  | some json => exact congrArg (Except.map some) (h json)

/-- Two queries have the same projection, sort keys, skip and limit, and selectors with the same
operands but for the signs of zeros. -/
structure SameOperands (query query' : Query) : Prop where
  projection : query.projection = query'.projection
  sort : query.sort = query'.sort
  skip : query.skip = query'.skip
  limit : query.limit = query'.limit
  selector : query.selector.SameOperands query'.selector

/-- Queries with the same operands match the same documents. -/
theorem SameOperands.isMatch_eq {query query' : Query} (h : query.SameOperands query')
    (doc : Document) : query.selector.isMatch doc = query'.selector.isMatch doc := by
  rw [← Selector.isMatch_dropZeroSigns, h.selector, Selector.isMatch_dropZeroSigns]

lemma same_ofMembers (members : Fields Json) :
    SameUnlessRefused SameOperands (fun query => query.selector.HasLargeModulo)
      (ofMembers config members)
      (ofMembers config (Json.membersWithIntegers members)) := by
  have hkeys : checkKeys (Json.membersWithIntegers members) = checkKeys members := by
    rw [checkKeys, checkKeys, Json.keys_membersWithIntegers]
  have hsynonym (key synonym : String) :
      checkSynonym (Json.membersWithIntegers members) key synonym
        = checkSynonym members key synonym := by
    rw [checkSynonym, checkSynonym, Json.contains_membersWithIntegers,
      Json.contains_membersWithIntegers]
  have hvalue (key synonym : String) :
      valueOf? (Json.membersWithIntegers members) key synonym
        = (valueOf? members key synonym).map Json.withIntegers := by
    rw [valueOf?, valueOf?, Json.get?_membersWithIntegers, Json.get?_membersWithIntegers,
      Option.map_or]
  have hcount (name : String) (json : Option Json) :
      optional (countOfJson · (.named name)) (json.map Json.withIntegers)
        = optional (countOfJson · (.named name)) json :=
    optional_map countOfJson_withIntegers json
  simp only [ofMembers, hkeys, hsynonym, hvalue, Json.get?_membersWithIntegers, hcount,
    optional_map projectionOfJson_withIntegers, optional_map sortOfJson_withIntegers]
  refine .after _ fun _ => .after _ fun _ => .after _ fun _ => ?_
  cases valueOf? members "selector" "where" with
  | none => exact .failed _
  | some json =>
    refine ((Selector.sameReadings json).selector ..).bind (fun selector selector' hs => ?_) ?_
    · refine .after _ fun projection => .after _ fun sort => .after _ fun skip => ?_
      refine .after _ fun limit => .done ⟨rfl, rfl, rfl, rfl, hs⟩
    · intro selector query hlarge hquery
      simp only [bind_eq_ok_iff] at hquery
      obtain ⟨_, _, _, _, _, _, _, _, hquery⟩ := hquery
      cases hquery
      exact hlarge

lemma same_ofJsonWith (config : QueryConfig) (json : Json) :
    SameUnlessRefused SameOperands (fun query => query.selector.HasLargeModulo)
      (ofJsonWith config json) (ofJsonWith config json.withIntegers) := by
  cases json with
  | object members =>
    rw [Json.withIntegers_object]
    exact same_ofMembers members
  | _ => exact .failed _

/-! ### Main statement -/

/-- One reading is a query with a large `$mod` test, and the other is refused for the operand of a
`$mod`. -/
def RefusedForModulo (accepted refused : Except QueryError Query) : Prop :=
  ∃ query place, accepted = .ok query ∧ query.selector.HasLargeModulo
    ∧ refused = .error (.invalidShape place .operandNotPair)

lemma SameOperands.symm {query query' : Query} (h : query.SameOperands query') :
    query'.SameOperands query where
  projection := h.projection.symm
  sort := h.sort.symm
  skip := h.skip.symm
  limit := h.limit.symm
  selector := Eq.symm h.selector

lemma SameOperands.trans {query query' query'' : Query} (h : query.SameOperands query')
    (h' : query'.SameOperands query'') : query.SameOperands query'' where
  projection := h.projection.trans h'.projection
  sort := h.sort.trans h'.sort
  skip := h.skip.trans h'.skip
  limit := h.limit.trans h'.limit
  selector := Eq.trans h.selector h'.selector

variable {json json' : Json}

/-- **The spelling of numbers does not matter: queries with the same numbers are rejected both, or
they are read as queries with the same operands, unless one of them has a `$mod` number beyond
`2 ^ 53` and the other is refused for the operand of a `$mod`.** -/
theorem agree_or_refused (config : QueryConfig) (h : json.SameNumbers json') :
    Agree SameOperands (ofJsonWith config json) (ofJsonWith config json')
      ∨ RefusedForModulo (ofJsonWith config json) (ofJsonWith config json')
      ∨ RefusedForModulo (ofJsonWith config json') (ofJsonWith config json) := by
  have hjson := same_ofJsonWith config json
  have hjson' := same_ofJsonWith config json'
  rw [← show json.withIntegers = json'.withIntegers from h] at hjson'
  generalize ofJsonWith config json = x, ofJsonWith config json' = x',
    ofJsonWith config json.withIntegers = y at hjson hjson'
  cases hjson with
  | failed e => cases hjson' <;> exact .inl (.failed _ _)
  | @done query integers hsame =>
    cases hjson' with
    | done hsame' => exact .inl (.done (hsame.trans hsame'.symm))
    | refused place hlarge =>
      have hquery := hsame.selector.hasLargeModulo_iff.mpr (hlarge integers rfl)
      exact .inr (.inl ⟨query, place, rfl, hquery, rfl⟩)
  | refused place hlarge =>
    cases hjson' with
    | @done query' integers hsame' =>
      have hquery := hsame'.selector.hasLargeModulo_iff.mpr (hlarge integers rfl)
      exact .inr (.inr ⟨query', place, rfl, hquery, rfl⟩)
    | _ => exact .inl (.failed _ _)

/-- Asks for the second page of the baskets with an odd number of items, one or two of them apples,
of three sizes; `number` spells its numbers. -/
def baskets (number : Int → JsonNumber) : Json :=
  .object [
    ("selector", .object [
      ("apples", .object [("$in", .array [.number (number 1), .number (number 2)])]),
      ("sizes", .object [("$size", .number (number 3))]),
      ("items", .object [("$mod", .array [.number (number 2), .number (number 1)])])]),
    ("skip", .number (number 10)),
    ("limit", .number (number 10))]

/-- The same query with its numbers spelled as doubles. -/
def basketsInDoubles : Json := baskets fun n => .double (.ofInt n)

theorem baskets_agree :
    (baskets .int).SameNumbers basketsInDoubles ∧ (ofJson (baskets .int)).isOk = true
      ∧ Agree SameOperands (ofJson (baskets .int)) (ofJson basketsInDoubles) := by
  have hsame : (baskets .int).SameNumbers basketsInDoubles := rfl
  have hints : (ofJson (baskets .int)).isOk = true := by decide +kernel
  have hdoubles : (ofJson basketsInDoubles).isOk = true := by decide +kernel
  refine ⟨hsame, hints, ?_⟩
  obtain hagree | ⟨_, _, _, _, hrefused⟩ | ⟨_, _, _, _, hrefused⟩ :=
    agree_or_refused .standard hsame
  · exact hagree
  · rw [ofJson, hrefused] at hdoubles
    cases hdoubles
  · rw [ofJson, hrefused] at hints
    cases hints

/-- Asks for the multiples of a number. -/
def multiples (number : JsonNumber) : Json :=
  .object [("selector", .object [("n", .object [
    ("$mod", .array [.number number, .number (.int 0)])])])]

theorem doubleModulus_refused :
    (multiples (.int 9007199254740994)).SameNumbers (multiples (.double (.ofInt 9007199254740994)))
      ∧ (ofJson (multiples (.int 9007199254740994))).isOk = true
      ∧ (ofJson (multiples (.double (.ofInt 9007199254740994)))).isOk = false :=
  ⟨rfl, by decide +kernel, by decide +kernel⟩

end Query

end DocQuery
