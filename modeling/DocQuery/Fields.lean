/-!
Ordered fields: the members of an object as a list of keys with their values, in the order in
which the keys first came.  Every operation here keeps the keys pairwise distinct.

* `Fields.get?`: the value of a key;
* `Fields.insert`: replaces a value in place, or appends a new key;
* `Fields.insertFirst`: moves a key to the front with a new value;
* `Fields.erase`: removes a key and keeps the order of the others;
* `Fields.exchange` and `Fields.withdraw`: insertion and removal that hand back the value which the
  key had;
* `Fields.ofList`: the last value of each key, at its first position.
-/

namespace DocQuery

/-- The members of an object, in order. -/
abbrev Fields (α : Type) := List (String × α)

namespace Fields

variable {α : Type}

/-- The keys, in order. -/
def keys (fields : Fields α) : List String := fields.map (·.1)

/-- The value of a key. -/
def get? : Fields α → String → Option α
  | [], _ => none
  | (k, v) :: rest, key => if k = key then some v else get? rest key

/-- A key that has a value. -/
def contains (fields : Fields α) (key : String) : Bool := (fields.get? key).isSome

/-- Gives a key a value: in place if the key is there, else at the end. -/
def insert : Fields α → String → α → Fields α
  | [], key, value => [(key, value)]
  | (k, v) :: rest, key, value =>
    if k = key then (k, value) :: rest else (k, v) :: insert rest key value

/-- Replaces the value of a key that is there; no other field changes. -/
def replace : Fields α → String → α → Fields α
  | [], _, _ => []
  | (k, v) :: rest, key, value =>
    if k = key then (k, value) :: rest else (k, v) :: replace rest key value

/-- Puts a key in front with a value; an older entry of the key goes away. -/
def insertFirst (fields : Fields α) (key : String) (value : α) : Fields α :=
  (key, value) :: fields.filter (·.1 ≠ key)

/-- Removes a key. -/
def erase : Fields α → String → Fields α
  | [], _ => []
  | (k, v) :: rest, key => if k = key then rest else (k, v) :: erase rest key

/-- Gives a key a value as `insert` does, and hands back the value that it had. -/
def exchange : Fields α → String → α → Option α × Fields α
  | [], key, value => (none, [(key, value)])
  | (k, v) :: rest, key, value =>
    if k = key then (some v, (k, value) :: rest)
    else
      let (old, after) := exchange rest key value
      (old, (k, v) :: after)

/-- Removes a key as `erase` does, and hands back the value that it had. -/
def withdraw : Fields α → String → Option α × Fields α
  | [], _ => (none, [])
  | (k, v) :: rest, key =>
    if k = key then (some v, rest)
    else
      let (old, after) := withdraw rest key
      (old, (k, v) :: after)

/-- The fields that result from inserting the members of a list one after the other. -/
def ofList (members : List (String × α)) : Fields α :=
  members.foldl (fun fields (k, v) => insert fields k v) []

/-- Fields without a repeated key. -/
def Distinct (fields : Fields α) : Prop := fields.keys.Nodup

/-! ### What each operation does to the value of a key -/

@[simp]
theorem get?_nil (key : String) : get? ([] : Fields α) key = none := rfl

theorem get?_insert (fields : Fields α) (key other : String) (value : α) :
    (fields.insert key value).get? other
      = if key = other then some value else fields.get? other := by
  induction fields with
  | nil => simp [insert, get?]
  | cons member rest ih => grind [insert, get?]

theorem get?_replace (fields : Fields α) (key other : String) (value : α) :
    (fields.replace key value).get? other
      = if key = other ∧ fields.contains key then some value else fields.get? other := by
  induction fields with
  | nil => simp [replace, contains]
  | cons member rest ih => grind [replace, get?, contains]

theorem get?_insertFirst (fields : Fields α) (key other : String) (value : α) :
    (fields.insertFirst key value).get? other
      = if key = other then some value else fields.get? other := by
  by_cases h : key = other
  · simp [insertFirst, get?, h]
  · simp only [insertFirst, get?, h, if_false]
    induction fields with
    | nil => rfl
    | cons member rest ih => grind [get?]

/-! ### What is handed back -/

theorem exchange_eq (fields : Fields α) (key : String) (value : α) :
    fields.exchange key value = (fields.get? key, fields.insert key value) := by
  induction fields with
  | nil => rfl
  | cons member rest ih => grind [exchange, get?, insert]

theorem withdraw_eq (fields : Fields α) (key : String) :
    fields.withdraw key = (fields.get? key, fields.erase key) := by
  induction fields with
  | nil => rfl
  | cons member rest ih => grind [withdraw, get?, erase]

end Fields

end DocQuery
