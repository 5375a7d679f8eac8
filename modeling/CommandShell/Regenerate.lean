/-
# Regenerating the embedded payload

Reads the start-up script of a source tree, encodes it, checks that the
fragments decode to what was read, and writes the module that holds them.
-/

import CommandShell.Event
import CommandShell.TextFile

namespace CommandShell.Regenerate

/-- The name of the script, below the source tree. -/
def scriptName : String := "tcl/init.tcl"

/-- The name of the module, below the source tree. -/
def moduleName : String := "src/stashell/tcl_inits.py"

/-- The fragments of a script, if they decode to it. -/
def fragmentsOf (script : String) : Option (List String) :=
  let fragments := Payload.encode Payload.fragmentBytes script
  match Payload.decode fragments with
  | .ok decoded => if decoded = script then some fragments else none
  | .error _ => none

/-- Regenerates the module of a source tree.  The answer is an exit status, with
what is said and the files afterwards. -/
def run (root : Path) (files : FileTree) : Except Failure Nat × List Event × FileTree :=
  match TextFile.read files (root.join (Path.ofString scriptName)) with
  | .error failure => (.error failure, [], files)
  | .ok script =>
    match fragmentsOf script with
    | none => (.ok 1, [.errorLine "Error: encoded payload does not round-trip"], files)
    | some fragments =>
      let text := Payload.renderModule fragments scriptName
      match TextFile.write files (root.join (Path.ofString moduleName)) text with
      | .error failure => (.error failure, [], files)
      | .ok written =>
        (.ok 0,
          [.output
            ("Wrote " ++ toString fragments.length ++ " fragments to " ++ moduleName)],
          written)

end CommandShell.Regenerate
