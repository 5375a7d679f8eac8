/-
# The environment of a process

The few variables that the shell looks at, and what follows from them: where a
leading `~` leads and where the shell keeps its data.
-/

import CommandShell.Act
import CommandShell.TextFile

namespace CommandShell

/-- The variables that matter, and the accounts of the host with their home
directories. -/
structure Environment where
  home : String
  dataHome : Option String := none
  plainEditing : Option String := none
  logLevel : Option String := none
  accounts : List (String × String) := [("root", "/root")]
  deriving Repr

namespace Environment

/-- A home directory without slashes at its end; nothing but slashes, or
nothing at all, is the root. -/
def trimHome (home : String) : String :=
  let trimmed := (home.toList.reverse.dropWhile (· == '/')).reverse
  if trimmed.isEmpty then "/" else String.ofList trimmed

/-- The home directory that a name with a leading `~` stands for. -/
def homeOf (env : Environment) (name : String) : Option String :=
  let home := if name = "~" then some env.home
    else env.accounts.lookup (String.ofList (name.toList.drop 1))
  (home.map trimHome).filter fun home => home.toList.head? != some '~'

/-- A path with a leading `~` replaced by the home directory.  Only the first
name of a relative path counts, and no account has U+0000 in its name. -/
def expandHome (env : Environment) (path : Path) : Except Failure Path :=
  match path.root, path.names with
  | .relative, first :: rest =>
    if first.toList.head? = some '~' then
      if first.toList.contains '\x00' then .error (.file .nulInPath)
      else match env.homeOf first with
        | some home => .ok ((Path.ofString home).child rest)
        | none => .error .unknownHome
    else .ok path
  | _, _ => .ok path

/-- The directory for the data of applications: the variable for it if that is
set, else a fixed place under the home directory. -/
def dataRoot (env : Environment) : Except Failure Path :=
  match env.dataHome.filter (· != "") with
  | some root => .ok (Path.ofString root)
  | none => do
    let home ← env.expandHome ⟨.relative, ["~"]⟩
    return home.child [".local", "share"]

/-- The data root, made if it is missing. -/
def openDataRoot (env : Environment) : Act FileTree Path := do
  let root ← env.dataRoot
  let (made, files) := (← get).makeDirectories root
  set files
  TextFile.refuse made
  return root

end Environment

end CommandShell
