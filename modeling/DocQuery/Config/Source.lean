import DocQuery.Config
import DocQuery.Event
import DocQuery.Power
import DocQuery.Toml
import DocQuery.Unicode.Property

/-!
Where settings come from: a TOML file, the environment, and the standard configuration, in this
order of precedence.

* `Overrides`: the settings that a source gives, and `Overrides.apply`;
* `Overrides.ofToml?` and `Overrides.ofEnvironment`: the two sources;
* `QueryConfig.load`: the configuration from all sources.
-/

namespace DocQuery

/-- The settings that a source gives; the others are left to other sources. -/
abbrev Overrides := Setting → Option Nat

/-- The environment: the values of its variables. -/
abbrev Environment := List (String × String)

/-- The settings are numbers of 64 bits. -/
def Setting.bound : Nat := twoPow 64

namespace Overrides

/-- The settings of the first source, and those of the second where the first is silent. -/
def orElse (first second : Overrides) : Overrides := fun setting =>
  (first setting).or (second setting)

/-- A configuration with the settings of a source put in place. -/
def apply (overrides : Overrides) (config : QueryConfig) : QueryConfig :=
  Setting.all.foldl
    (fun config setting => config.set setting ((overrides setting).getD (config.get setting)))
    config

/-! ### Files -/

/-- Whether what stands under the name of a setting can be its value, if anything does. -/
def isValid (table : TomlTable) (setting : Setting) : Bool :=
  match table.get? setting.name with
  | none => true
  | some (.value (.integer n)) => 0 ≤ n ∧ n < Setting.bound
  | some _ => false

/-- The settings that a table gives. -/
def ofTable (table : TomlTable) : Overrides := fun setting =>
  match table.get? setting.name with
  | some (.value (.integer n)) => some n.toNat
  | _ => none

/-- The settings that a TOML text gives; none if the text or one of its settings is not valid.
Other keys do not matter. -/
def ofToml? (text : String) : Option Overrides :=
  match Toml.read text with
  | some table => if Setting.all.all (isValid table) then some (ofTable table) else none
  | none => none

/-! ### The environment -/

/-- The variable that gives a setting. -/
def variableName : Setting → String
  | .maxSelectorDepth => "CBLITE_MANGO_MAX_SELECTOR_DEPTH"
  | .maxPathDepth => "CBLITE_MANGO_MAX_PATH_DEPTH"
  | .maxInSet => "CBLITE_MANGO_MAX_IN_SET"
  | .maxSortFields => "CBLITE_MANGO_MAX_SORT_FIELDS"
  | .maxProjectionFields => "CBLITE_MANGO_MAX_PROJECTION_FIELDS"
  | .slowQueryMs => "CBLITE_MANGO_SLOW_QUERY_MS"

/-- The characters of a text without white space at its ends. -/
def trimmed (cs : List Char) : List Char :=
  let inner := cs.dropWhile Unicode.Property.isWhiteSpace
  (inner.reverse.dropWhile Unicode.Property.isWhiteSpace).reverse

/-- The number that a text denotes: decimal digits after an optional plus sign, with white space
around them. -/
def number? (text : String) : Option Nat :=
  let digits :=
    match trimmed text.toList with
    | '+' :: rest => rest
    | cs => cs
  if digits.isEmpty || !digits.all Char.isDigit then none
  else
    let n := digits.foldl (fun n c => 10 * n + (c.toNat - '0'.toNat)) 0
    if n < Setting.bound then some n else none

/-- The settings that an environment gives; variables that hold no number are passed over. -/
def ofEnvironment (environment : Environment) : Overrides := fun setting =>
  (Fields.get? environment (variableName setting)).bind number?

end Overrides

/-! ### Loading -/

/-- What stands at the place where a configuration file is expected. -/
inductive ConfigFile where
  /-- No file is expected. -/
  | notGiven
  | unreadable
  | text (content : String)

/-- Why a configuration cannot be loaded. -/
inductive ConfigError where
  | unreadableFile
  | invalidToml
deriving DecidableEq

namespace QueryConfig

/-- The configuration of a TOML text. -/
def ofToml (text : String) : Except ConfigError QueryConfig :=
  match Overrides.ofToml? text with
  | some overrides => .ok (overrides.apply standard)
  | none => .error .invalidToml

/-- The configuration of an environment. -/
def ofEnvironment (environment : Environment) : QueryConfig :=
  (Overrides.ofEnvironment environment).apply standard

/-- The settings that a file gives. -/
def fileOverrides : ConfigFile → Except ConfigError Overrides
  | .notGiven => .ok fun _ => none
  | .unreadable => .error .unreadableFile
  | .text content =>
    match Overrides.ofToml? content with
    | some overrides => .ok overrides
    | none => .error .invalidToml

/-- The configuration from a file and an environment. -/
def load (file : ConfigFile) (environment : Environment) : Except ConfigError QueryConfig :=
  (fileOverrides file).map fun overrides =>
    (overrides.orElse (Overrides.ofEnvironment environment)).apply standard

/-- What is logged when a configuration is loaded. -/
def loadEvents (file : ConfigFile) (environment : Environment) : List Event :=
  match load file environment with
  | .ok config => [.configLoaded config]
  | .error _ => []

end QueryConfig

end DocQuery
