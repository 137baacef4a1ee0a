import Workflow.Fields.Number
import Workflow.Settings.EnvFile

/-!
Settings of an engine and of the bundled tools, from fields or from environment variables.
-/
namespace Workflow

structure Settings where
  namePrefix : String
  logLevel : String
  workspace : String
  httpTimeout : Double
  summaryLimit : Nat

namespace Settings

open Fields in
/-- Fields that are absent keep their defaults. -/
def ofFields (fields : List (String × Value)) : Checked Settings :=
  let namePrefix := optional [] fields "prefix" "code_exec_" string
  let logLevel := optional [] fields "log_level" "WARNING" string
  let workspace := optional [] fields "workspace" "./workspace" string
  let httpTimeout := optional [] fields "http_timeout" (Double.ofInt 10) positiveDouble
  let summaryLimit := optional [] fields "summary_limit" 4000 positiveInteger
  match namePrefix, logLevel, workspace, httpTimeout, summaryLimit with
  | .ok namePrefix, .ok logLevel, .ok workspace, .ok httpTimeout, .ok summaryLimit =>
    .ok ⟨namePrefix, logLevel, workspace, httpTimeout, summaryLimit⟩
  | _, _, _, _, _ =>
    .error (namePrefix.problems ++ logLevel.problems ++ workspace.problems ++
      httpTimeout.problems ++ summaryLimit.problems)

def standard : Settings := ⟨"code_exec_", "WARNING", "./workspace", Double.ofInt 10, 4000⟩

/-- The variable that sets each field. -/
def variableNames : List (String × String) := [
  ("prefix", "TOOL_PROGRAM_PREFIX"), ("log_level", "TOOL_PROGRAM_LOG_LEVEL"),
  ("workspace", "TOOL_PROGRAM_WORKSPACE"), ("http_timeout", "TOOL_PROGRAM_HTTP_TIMEOUT"),
  ("summary_limit", "TOOL_PROGRAM_SUMMARY_LIMIT")]

/-- Why an environment gives no settings. -/
inductive SourceError where
  | file (cause : EnvFile.LoadError)
  | fields (problems : List Fields.Problem)
  deriving DecidableEq, Repr

def SourceError.message : SourceError → String
  | file cause => cause.message
  | fields problems => Fields.report problems

/-- Settings from the environment and the text of an environment file. -/
def ofEnvironment (environment : List (String × String)) (file : String) :
    Except SourceError Settings := do
  let loaded ← (EnvFile.load environment file).mapError .file
  let given := variableNames.filterMap fun (field, name) =>
    (loaded.lookup name).map fun text => (field, Value.str text)
  (ofFields given).mapError .fields

end Settings
end Workflow
