/-
# The bare interpreter

The scripts that a shell without an analysis engine knows: those it evaluates
while starting, the commands of its engine, and the exit command.
-/

import CommandShell.Interpreter

namespace CommandShell.ScriptTable

/-- A table in which the given start-up script succeeds, the banner names a
release, and a script that is not known is refused. -/
def standard (startup release : String) : ScriptTable where
  scripts :=
    [ (startup, [.result ""]),
      ("sta::show_splash",
        [ .print ("StaShell " ++ release),
          .print "Type exit or press Ctrl-D to leave the shell." ]),
      ("sta::define_sta_cmds", [.result ""]),
      ("namespace import sta::*", [.result ""]),
      ("version", [.call Engine.Query.version.name []]),
      ("thread_count", [.call Engine.Query.threads.name []]),
      ("exit", [.exit]) ]
  acceptsUnknown := false

end CommandShell.ScriptTable
