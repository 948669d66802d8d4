import PluginChain.CommandLine.Running
import PluginChain.Platforms.SharedObjects

/-!
# The program

Arguments, environment and files come from the process. The files that a command may read are read
before it runs. The process has no loader of its own to offer, so that a probe finds no shared
object.
-/

namespace PluginChain.CommandLine

/-- What the operating system says of a file that cannot be read. -/
def fileError : IO.Error → FileError
  | .noFileOrDirectory .. => .notFound
  | .inappropriateType .. => .isDirectory
  | error => .other error.toString

/-- Reads a file whose path is UTF-8. -/
def readPath (path : Path) : IO (Except FileError (Array UInt8)) := do
  match Text.Utf8.decode? path with
  | none => return .error .notFound
  | some name =>
    try
      let content ← IO.FS.readBinFile name
      return .ok content.data
    catch error => return .error (fileError error)

/-- The values of the variables that the program looks at. -/
def readEnvironment : IO Environment := do
  let names := [Environment.primaryVariable, Environment.assetsVariable, Environment.configVariable]
  let values ← names.filterMapM fun name => do
    return (← IO.getEnv name).map fun value => (name, Text.Utf8.encode value)
  return fun name => values.lookup name

/-- The files that an invocation reads. -/
def Invocation.paths (invocation : Invocation) : List Path :=
  invocation.config.toList ++ match invocation.command with
    | .needed path => [path]
    | _ => []

/-- Runs the program in its process and yields the exit code. -/
def runInProcess (arguments : List String) : IO UInt32 := do
  let environment ← readEnvironment
  let wanted := match Invocation.ofArguments arguments environment with
    | .ok invocation => invocation.paths
    | .error _ => []
  let contents ← wanted.mapM fun path => return (path, ← readPath path)
  let surroundings : Surroundings :=
    { environment, fileAt := fun path => (contents.lookup path).getD (.error .notFound) }
  let host : Host SharedObjects.platform := { world := ({} : SharedObjects) }
  let (output, _) := (run surroundings arguments).run host
  IO.print output.out
  IO.eprint output.err
  return output.code

end PluginChain.CommandLine

/-- Runs the program. -/
def main (arguments : List String) : IO UInt32 :=
  PluginChain.CommandLine.runInProcess arguments
