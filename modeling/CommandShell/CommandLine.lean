/-
# The command line

The program around a session: the flags that end it at once, the level of
diagnostics, the packaged settings, and the exit status.  A corrupt start-up
script is the one failure that becomes a status; every other failure that leaves
the session also leaves the program.
-/

import CommandShell.Config.Defaults
import CommandShell.Payload.Embedded
import CommandShell.Session

namespace CommandShell.CommandLine

/-- The release of the program. -/
def release : String := "2.0.17"

/-- What to do about a corrupt start-up script. -/
def regenerateHint : String :=
  "Try regenerating src/stashell/tcl_inits.py (scripts/encode_tcl_inits.py)."

/-- The help text. -/
def usage (program : String) : String :=
  "\n".intercalate
    [ "Usage: " ++ program ++
        " [-help] [-version] [-no_init] [-no_splash] [-x cmd] [-f cmd_file] [-threads count|max]",
      "  -help              show help and exit",
      "  -version           show version and exit",
      "  -no_init           do not read .sta init file",
      "  -no_splash         do not show the startup banner",
      "  -x cmd             evaluate cmd",
      "  -f cmd_file        source cmd_file",
      "  -threads count|max use count threads" ]

/-- The letters beyond ASCII whose capitals are ASCII letters: the long s, the
dotless i, the sharp s and the ligatures. -/
def rareCapitals : List (Char × List Char) :=
  [ ('\u017f', ['S']), ('\u0131', ['I']), ('\u00df', ['S', 'S']), ('\ufb00', ['F', 'F']),
    ('\ufb01', ['F', 'I']), ('\ufb02', ['F', 'L']), ('\ufb03', ['F', 'F', 'I']),
    ('\ufb04', ['F', 'F', 'L']), ('\ufb05', ['S', 'T']), ('\ufb06', ['S', 'T']) ]

/-- The capitals of a letter, as far as they are ASCII letters. -/
def capitals (c : Char) : List Char :=
  (rareCapitals.lookup c).getD [c.toUpper]

/-- The name of a level in capitals. -/
def levelName (name : String) : String :=
  String.ofList (name.toList.flatMap capitals)

/-- The layout of a log line, for each of three ways to mark its parts. -/
def logLayouts : List (String × String × String) :=
  [ ("%", "PercentStyle", "%(levelname)s:%(name)s:%(message)s"),
    ("\x7b", "StrFormatStyle", "\x7blevelname\x7d:\x7bname\x7d:\x7bmessage\x7d"),
    ("$", "StringTemplateStyle", "$\x7blevelname\x7d:$\x7bname\x7d:$\x7bmessage\x7d") ]

/-- A table of layouts as a report shows it. -/
def showLayouts (layouts : List (String × String × String)) : String :=
  let shown := layouts.map fun (mark, style, layout) =>
    Text.quoted mark ++ ": (<class 'logging." ++ style ++ "'>, " ++ Text.quoted layout ++ ")"
  "\x7b" ++ ", ".intercalate shown ++ "\x7d"

/-- Whether diagnostic lines are shown.  Two levels show them and all others,
unknown ones too, do not; two names stand for layouts and are no levels. -/
def showsDiagnostics (env : Environment) : Except Failure Bool :=
  match levelName (env.logLevel.getD "WARNING") with
  | "DEBUG" => .ok true
  | "NOTSET" => .ok true
  | "BASIC_FORMAT" => .error (.unknownLevel (Text.quoted "%(levelname)s:%(name)s:%(message)s"))
  | "_STYLES" => .error (.notLevel (showLayouts logLayouts))
  | _ => .ok false

/-- An argument list as a diagnostic line shows it; a list of one has a comma
behind its only word. -/
def showWords : List String → String
  | [word] => "(" ++ Text.quoted word ++ ",)"
  | words => "(" ++ ", ".intercalate (words.map fun (word : String) => Text.quoted word) ++ ")"

/-- How the program is called. -/
structure Call where
  args : LaunchArgs
  /-- What standard input holds. -/
  input : String := ""
  /-- Standard input is a terminal. -/
  terminal : Bool := false
  environment : Environment
  processors : Option Int
  files : FileTree
  table : ScriptTable := {}
  stamp : CrashLog.Stamp := {}

/-- What a call leaves behind. -/
structure Report where
  /-- The exit status, or the failure that ended the program. -/
  status : Except Failure Nat
  /-- What happened, oldest first. -/
  log : List Event
  /-- Diagnostic lines are shown. -/
  diagnostics : Bool
  files : FileTree

/-- The lines of standard input: what stands between its line feeds. -/
def readings (input : String) : List Reading :=
  (Text.records input.toList).map fun record => .line (String.ofList record)

/-- What a session is given by a call. -/
def setup (call : Call) : Setup :=
  { args := call.args
    config := Config.packaged
    payload := Payload.embedded
    environment := call.environment
    processors := call.processors
    stamp := call.stamp }

/-- The editor of a call. -/
def editor (call : Call) : Editor :=
  .fresh (Editor.kindFor call.terminal call.environment)
    (Config.completesWhileTyping Config.packaged) (readings call.input)

/-- The session of a call, before it begins. -/
def session (call : Call) : Session :=
  let fresh := Session.fresh call.table { version := release } (editor call) call.files
  { fresh with
    host.log := [.diagnostic .cli ("argv=" ++ showWords call.args.words)] }

/-- The status that a session's end stands for, and what is said about it. -/
def conclude : Except Failure Unit → Except Failure Nat × List Event
  | .ok () => (.ok 0, [])
  | .error (.bootstrap reason) =>
    (.ok 1,
      [.errorLine ("Error: bootstrap script: " ++ reason ++ "."),
        .errorLine ("       " ++ regenerateHint)])
  | .error failure => (.error failure, [])

/-- Runs the program. -/
def run (call : Call) : Report :=
  if call.args.hasFlag "-help" then ⟨.ok 0, [.output (usage call.args.program)], false, call.files⟩
  else if call.args.hasFlag "-version" then ⟨.ok 0, [.output release], false, call.files⟩
  else match showsDiagnostics call.environment with
    | .error failure => ⟨.error failure, [], false, call.files⟩
    | .ok diagnostics =>
      let (ended, last) := (Session.run (setup call)).perform (session call)
      let (status, closing) := conclude ended
      ⟨status, last.host.log ++ closing, diagnostics, last.files⟩

/-- What an event writes to standard output.  A prompt has no line ending. -/
def outputText : Event → Text
  | .output text => text ++ "\n"
  | .prompt text => text
  | _ => ""

/-- What an event writes to standard error. -/
def errorText (diagnostics : Bool) : Event → Text
  | .errorLine text => text ++ "\n"
  | .diagnostic topic text =>
    if diagnostics then "DEBUG stashell." ++ topic.name ++ ": " ++ text ++ "\n" else ""
  | _ => ""

namespace Report

/-- Standard output. -/
def output (report : Report) : Text :=
  Text.join (report.log.map outputText)

/-- Standard error. -/
def errors (report : Report) : Text :=
  Text.join (report.log.map (errorText report.diagnostics))

end Report

end CommandShell.CommandLine
