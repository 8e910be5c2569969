/-!
The limits that queries have to keep and the threshold for slow ones.

* `Setting`: the settings by name;
* `QueryConfig.get` and `QueryConfig.set`: reading and changing one setting;
* `QueryConfig.standard`: the settings that hold unless others are chosen.
-/

namespace DocQuery

/-- The settings of queries. -/
inductive Setting where
  | maxSelectorDepth
  | maxPathDepth
  | maxInSet
  | maxSortFields
  | maxProjectionFields
  | slowQueryMs
deriving DecidableEq

namespace Setting

/-- Every setting, in the order in which they are listed. -/
def all : List Setting :=
  [.maxSelectorDepth, .maxPathDepth, .maxInSet, .maxSortFields, .maxProjectionFields, .slowQueryMs]

/-- The name of a setting. -/
def name : Setting → String
  | .maxSelectorDepth => "max_selector_depth"
  | .maxPathDepth => "max_path_depth"
  | .maxInSet => "max_in_set"
  | .maxSortFields => "max_sort_fields"
  | .maxProjectionFields => "max_projection_fields"
  | .slowQueryMs => "slow_query_ms"

end Setting

/-- Limits of queries. -/
structure QueryConfig where
  /-- How deep logical and array operators may be nested in a selector. -/
  maxSelectorDepth : Nat
  /-- How many segments a path may have. -/
  maxPathDepth : Nat
  /-- How many values a set operator may list. -/
  maxInSet : Nat
  maxSortFields : Nat
  maxProjectionFields : Nat
  /-- Queries that take at least so many milliseconds are slow. -/
  slowQueryMs : Nat
deriving DecidableEq

namespace QueryConfig

/-- The settings that hold unless others are chosen. -/
def standard : QueryConfig where
  maxSelectorDepth := 32
  maxPathDepth := 32
  maxInSet := 1000
  maxSortFields := 8
  maxProjectionFields := 64
  slowQueryMs := 500

/-- The value of a setting. -/
def get (config : QueryConfig) : Setting → Nat
  | .maxSelectorDepth => config.maxSelectorDepth
  | .maxPathDepth => config.maxPathDepth
  | .maxInSet => config.maxInSet
  | .maxSortFields => config.maxSortFields
  | .maxProjectionFields => config.maxProjectionFields
  | .slowQueryMs => config.slowQueryMs

/-- Gives a setting another value. -/
def set (config : QueryConfig) (setting : Setting) (value : Nat) : QueryConfig :=
  match setting with
  | .maxSelectorDepth => { config with maxSelectorDepth := value }
  | .maxPathDepth => { config with maxPathDepth := value }
  | .maxInSet => { config with maxInSet := value }
  | .maxSortFields => { config with maxSortFields := value }
  | .maxProjectionFields => { config with maxProjectionFields := value }
  | .slowQueryMs => { config with slowQueryMs := value }

theorem get_set (config : QueryConfig) (setting other : Setting) (value : Nat) :
    (config.set setting value).get other = if setting = other then value else config.get other := by
  cases setting <;> cases other <;> rfl

/-- The settings as diagnostics show them. -/
def diagnostic (config : QueryConfig) : String :=
  let shown := Setting.all.map fun setting => s!"{setting.name}: " ++ toString (config.get setting)
  "QueryConfig \x7b " ++ ", ".intercalate shown ++ " \x7d"

end QueryConfig

end DocQuery
