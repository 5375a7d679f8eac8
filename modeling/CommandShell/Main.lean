/-
# The program

The outer layer: it collects the arguments, the environment, standard input and
the files that a session may look at, runs the program on them, and puts its
output, its files and its status back into the world.
-/

import CommandShell.CommandLine
import CommandShell.Interpreter.Standard

namespace CommandShell.Program

/-- What stands at a path on disk.  Reading a directory as a file is how a
directory is told. -/
def probe (path : Path) : IO (Option Node) := do
  try
    return some (.file (← IO.FS.readBinFile path.text).toList)
  catch fault =>
    match fault with
    | .inappropriateType _ code _ =>
      return if code.toNat = SystemError.isDirectory.number then some .directory else none
    | _ => return none

/-- The tree with everything on the way to a path taken from disk. -/
def collect (tree : FileTree) (path : Path) : IO FileTree := do
  let mut tree := tree
  for depth in List.range path.names.length do
    let front : Path := ⟨path.root, path.names.take (depth + 1)⟩
    if let .ok location := tree.resolve front then
      if let some node ← probe front then tree := tree.put location node
  return tree

/-- The paths that a call may look at. -/
def paths (call : CommandLine.Call) : List Path :=
  let init := (Config.initPath Config.packaged call.environment).toOption
  let root := call.environment.dataRoot.toOption
  let file := call.args.value? "-f"
  [Config.historyPath Config.packaged] ++ init.toList ++ (root.map CrashLog.path).toList ++
    (file.map Path.ofString).toList

/-- The path of a location. -/
def pathOf (location : Location) : String :=
  match location with
  | "/" :: names => "/" ++ "/".intercalate names
  | names => "/".intercalate names

/-- Writes to disk what a tree has and an earlier one had not. -/
def store (before after : FileTree) : IO Unit := do
  let changed := after.nodes.filter fun entry => before.get? entry.1 != some entry.2
  for (location, node) in changed.mergeSort fun a b => a.1.length ≤ b.1.length do
    match node with
    | .directory => IO.FS.createDirAll (pathOf location)
    | .file bytes => IO.FS.writeBinFile (pathOf location) ⟨bytes.toArray⟩

/-- What an event writes to standard output; lines that scripts print are among
it. -/
def outputText : Event → Text
  | .printed text => text ++ "\n"
  | event => CommandLine.outputText event

/-- A text as a stream takes it: surrogates are shown as escapes. -/
def shown : Text → String
  | .plain characters => characters
  | .broken before surrogate behind =>
    before ++ String.ofList (Text.escapeSurrogate surrogate) ++ shown behind

/-- The start-up script. -/
def startup : String :=
  ((Payload.decode Payload.embedded).toOption).getD ""

/-- The call that the process was started with. -/
def callOf (arguments : List String) (input : String) : IO CommandLine.Call := do
  let call : CommandLine.Call :=
    { args := ⟨"stashell" :: arguments⟩
      input
      environment :=
        { home := (← IO.getEnv "HOME").getD ""
          dataHome := ← IO.getEnv "STASHELL_DATA_HOME"
          plainEditing := some "1"
          logLevel := ← IO.getEnv "STASHELL_LOG_LEVEL" }
      processors := none
      files := {}
      table := .standard startup CommandLine.release }
  return { call with files := ← (paths call).foldlM collect {} }

/-- Runs the program.  Standard input is read to its end before the session
begins. -/
def runProcess (arguments : List String) : IO UInt32 := do
  let input ← (← IO.getStdin).readToEnd
  let call ← callOf arguments input
  let report := CommandLine.run call
  (← IO.getStdout).putStr (shown (Text.join (report.log.map outputText)))
  (← IO.getStderr).putStr (shown report.errors)
  store call.files report.files
  match report.status with
  | .ok status => return status.toUInt32
  | .error failure =>
    (← IO.getStderr).putStr (failure.kind ++ ": " ++ shown failure.message ++ "\n")
    return 1

end CommandShell.Program

def main (arguments : List String) : IO UInt32 :=
  CommandShell.Program.runProcess arguments
