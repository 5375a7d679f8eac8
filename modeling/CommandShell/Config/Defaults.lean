/-
# Default settings

The settings that the shell ships with, and the reading of a file of defaults.
-/

import CommandShell.Config.Loader
import CommandShell.Config.Lookup

namespace CommandShell.Config

/-- The settings that the shell ships with. -/
def packaged : Mapping :=
  [("shell", .mapping
      [("history_file", .string ".history_sta"),
        ("init_file", .string "~/.sta"),
        ("prompt", .string "sta> ")]),
    ("ui", .mapping
      [("complete_while_typing", .bool false),
        ("theme", .mapping [("style", .mapping [])])])]

namespace Loader

variable (loader : Loader)

/-- The mapping that the value of a file of defaults stands for.  A value that
counts as false stands for the empty mapping; any other value that is not a
mapping is refused. -/
def defaultsOf (name : String) (value : loader.Loaded) : Except Failure loader.Loaded :=
  let data := if loader.truth value then value else loader.empty
  if loader.isMapping data then .ok data else .error (.notMapping name)

/-- Reads a file of defaults from a directory. -/
def loadDefaults (files : FileTree) (directory : Path) (name : String) :
    Except Failure loader.Loaded := do
  let path := directory.join (Path.ofString name)
  if ← TextFile.refuse (files.isThere path) then
    let bytes ← TextFile.refuse (files.read path)
    loader.defaultsOf name (← loader.load path.text bytes)
  else throw (.missingDefaults name directory.text)

end Loader

end CommandShell.Config
