import DocQuery.Config.Source

/-!
The configuration of logging: everything goes to one file and the summaries of executions to
another one.

* `LevelFilter`: how much is logged;
* `LogConfig.ofLevel`: the configuration for a level;
* `LogSetup`: what configuring does.
-/

namespace DocQuery

/-- The least important level that is logged, or nothing at all. -/
inductive LevelFilter where
  | off
  | upTo (level : LogLevel)
deriving DecidableEq

namespace LevelFilter

/-- The name of a filter. -/
def name : LevelFilter → String
  | .off => "OFF"
  | .upTo level => level.name

/-- The filter that a text names, whatever the case of its Latin letters; any other text names the
informative level. -/
def ofText (text : String) : LevelFilter :=
  match text.toLower with
  | "off" => .off
  | "error" => .upTo .error
  | "warn" => .upTo .warn
  | "debug" => .upTo .debug
  | "trace" => .upTo .trace
  | _ => .upTo .info

/-- The filter of an optional text. -/
def ofText? (text : Option String) : LevelFilter := ofText (text.getD "info")

end LevelFilter

/-- What happens to the lines of one target. -/
structure TargetLog where
  target : String
  filter : LevelFilter
  /-- The lines go to the common files as well. -/
  additive : Bool
  appenders : List String

/-- A configuration of logging. -/
structure LogConfig where
  filter : LevelFilter
  /-- Where lines go unless their target says otherwise. -/
  rootAppenders : List String
  targets : List TargetLog
  /-- All appenders; each writes a file of its name. -/
  appenders : List String

namespace LogConfig

/-- The configuration for a level. -/
def ofLevel (level : Option String) : LogConfig where
  filter := .ofText? level
  rootAppenders := ["app"]
  targets := [⟨metricsTarget, .ofText? level, false, ["metrics"]⟩]
  appenders := ["app", "metrics"]

/-- The files that a configuration writes. -/
def files (config : LogConfig) : List String := config.appenders.map (· ++ ".log")

end LogConfig

/-- What configuring logging has done. -/
structure LogSetup where
  failed : Bool
  /-- The files that it has opened. -/
  files : List String
  events : List Event

namespace LogSetup

/-- Configures logging for a level, in a program that logs already. -/
def ofLevel (level : Option String) : LogSetup :=
  ⟨false, (LogConfig.ofLevel level).files, [.loggingKept]⟩

/-- The same with the level from the environment. -/
def ofEnvironment (environment : Environment) : LogSetup :=
  ofLevel (Fields.get? environment "CBLITE_MANGO_LOG_LEVEL")

/-- Configures logging from a file that is not there. -/
def ofMissingFile : LogSetup := ⟨true, [], []⟩

end LogSetup

end DocQuery
