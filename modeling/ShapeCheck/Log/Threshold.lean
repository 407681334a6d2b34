import ShapeCheck.Log.Entry

/-!
# The threshold of the log

Only entries of at least a certain severity are written, or none at all.  The threshold is settled
once: by the first configuration, or else by the first question that needs it, which takes it from
the environment.

Main statements: `configure_resolve`, `config_resolve` and `admits_mono`.
-/

namespace ShapeCheck

/-- The name of the environment variable that holds the level. -/
def logVariable : String :=
  "TYPE_CHECKER_LOG"

/-- Why a configuration is refused. -/
inductive LogConfigError where
  /-- The level of the environment is not a known one. -/
  | unknownLevel (raw : String)
  /-- The document is not a configuration. -/
  | malformed
  /-- The threshold is settled already. -/
  | alreadyResolved
deriving DecidableEq

namespace LogConfigError

def code : LogConfigError → String
  | unknownLevel _ | malformed => "TYPE_CHECKER_LOG_CONFIG_INVALID"
  | alreadyResolved => "TYPE_CHECKER_LOG_ALREADY_CONFIGURED"

def message : LogConfigError → String
  | unknownLevel raw =>
      "Invalid logger configuration: " ++ logVariable ++ "=\x27" ++ raw ++
        "\x27 is not one of trace, info, warn, error, fatal, off"
  | malformed => "Invalid logger configuration: Invalid logger config JSON"
  | alreadyResolved =>
      "Logger threshold already resolved; configure before the first log call"

end LogConfigError

/-- The configuration of the log: the least severity that is written, if any is. -/
structure LogConfig where
  floor : Option Severity
deriving DecidableEq

namespace LogConfig

/-- Warnings and worse are written. -/
def standard : LogConfig :=
  ⟨some .warn⟩

def off : LogConfig :=
  ⟨none⟩

/-- Reads the value of the environment variable: a level name, or `off` or `none`. -/
def ofVariable (raw : String) : Except LogConfigError LogConfig :=
  let level := (Text.trim raw).map Char.toLower
  if level = "off" ∨ level = "none" then
    .ok off
  else
    match Severity.parse (Text.trim raw) with
    | some severity => .ok ⟨some severity⟩
    | none => .error (.unknownLevel raw)

/-- The configuration of an environment, in which the variable may be unset. -/
def ofEnvironment (raw : Option String) : LogConfig :=
  match raw.map ofVariable with
  | some (.ok config) => config
  | _ => standard

/-- The configuration that a document stands for; a missing level is the standard one. -/
def ofWritten? (doc : Json.Written) : Option LogConfig := do
  match ← doc.soleField? "min_severity" with
  | some value => return ⟨← value.nullable? Severity.ofWritten?⟩
  | none => return standard

/-- Reads a configuration from a JSON text. -/
def ofJsonText (text : String) : Except LogConfigError LogConfig :=
  match (Json.read text).bind ofWritten? with
  | some config => .ok config
  | none => .error .malformed

/-- Whether an entry of the given severity is written. -/
def admits (config : LogConfig) (severity : Severity) : Bool :=
  match config.floor with
  | some least => least.rank ≤ severity.rank
  | none => false

def filter (config : LogConfig) (entries : List LogEntry) : List LogEntry :=
  entries.filter fun entry => config.admits entry.severity

/-- A graver entry is written whenever a lesser one is. -/
theorem admits_mono
    {config : LogConfig} {s t : Severity}
    (hle : s.rank ≤ t.rank)
    (h : config.admits s = true) :
    config.admits t = true := by
  unfold admits at h ⊢
  split at h
  · simp only [decide_eq_true_eq] at h ⊢
    exact Nat.le_trans h hle
  · exact absurd h (by simp)

end LogConfig

/-- The threshold of a running program. -/
inductive Threshold where
  | unresolved
  | resolved (config : LogConfig)
deriving DecidableEq

namespace Threshold

/-- The configuration in force, the environment deciding when nothing else has. -/
def config (environment : Option String) : Threshold → LogConfig
  | unresolved => .ofEnvironment environment
  | resolved config => config

/-- Settles the threshold. -/
def resolve (environment : Option String) (t : Threshold) : Threshold :=
  .resolved (t.config environment)

/-- Configures the log, unless its threshold is settled. -/
def configure (wanted : LogConfig) : Threshold → Except LogConfigError Threshold
  | unresolved => .ok (.resolved wanted)
  | resolved _ => .error .alreadyResolved

/-- Whether entries of the given severity are written; asking settles the threshold. -/
def enabled (environment : Option String) (severity : Severity) (t : Threshold) :
    Bool × Threshold :=
  ((t.config environment).admits severity, t.resolve environment)

/-- What is written of the given entries; the first entry settles the threshold, written or not. -/
def write (environment : Option String) (entries : List LogEntry) (t : Threshold) :
    List LogEntry × Threshold :=
  ((t.config environment).filter entries, if entries.isEmpty then t else t.resolve environment)

@[simp] theorem config_resolve (environment other : Option String) (t : Threshold) :
    (t.resolve environment).config other = t.config environment := by
  rfl

@[simp] theorem configure_resolve
    (wanted : LogConfig) (environment : Option String) (t : Threshold) :
    (t.resolve environment).configure wanted = .error .alreadyResolved := by
  rfl

end Threshold
end ShapeCheck
