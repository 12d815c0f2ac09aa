import GaleraControl.Cluster.Definition
import GaleraControl.CommandLine
import GaleraControl.Yaml

/-!
# The program

Prints the definition of the cluster resource, or the settings that the
controller would run with.
-/

open GaleraControl

namespace GaleraControl.Settings

/-- The settings on one line. -/
def text (settings : Settings) : String :=
  "workers=" ++ toString settings.workers ++ " namespace="
    ++ settings.namespaceName.getD "<all>"

end GaleraControl.Settings

/-- Do what the arguments ask for. -/
def main (arguments : List String) : IO UInt32 := do
  match CommandLine.command arguments with
  | .ok .printDefinition =>
      IO.println (Yaml.write Cluster.definition)
      return 0
  | .ok (.control options) =>
      IO.println options.settings.text
      return 0
  | .error .helpRequested =>
      IO.println CommandLine.UsageError.helpRequested.message
      return 0
  | .error error =>
      IO.eprintln error.message
      return 2
