/-
# Failures

Everything that can go wrong, one constructor for each cause.  A failure has a
*kind*, the name under which reports and crash records mention it, and a
message.  Two families matter to callers: an *ordinary* failure is one that a
conversation survives, while an interrupt or a demand to leave passes through;
and a *system* failure is a fault of the file system.
-/

import CommandShell.FileTree
import CommandShell.Payload
import CommandShell.Phase
import CommandShell.Text.Encoding

namespace CommandShell

inductive Failure
  /-- An error of the command language. -/
  | script (message : Text)
  /-- The user interrupts. -/
  | interrupt (message : Text)
  /-- There is no more input. -/
  | endOfInput (message : Text)
  /-- Nothing is stored under this key. -/
  | missingKey (key : Text)
  /-- A cursor has no further name. -/
  | exhausted
  /-- A phase is entered out of order. -/
  | outOfOrder (target current : Phase)
  /-- The interpreter has been released. -/
  | finalized
  /-- The start-up script is corrupt or fails. -/
  | bootstrap (reason : Text)
  /-- A payload does not decode. -/
  | payload (defect : Payload.Defect)
  /-- Fragments of no bytes are asked for. -/
  | fragmentWidth
  /-- A thread count is neither `max` nor a positive number. -/
  | threadCount (value : Text)
  /-- A number is too long to be read. -/
  | longNumeral (digits : Nat)
  /-- A number is too long to be written. -/
  | longNumber
  /-- A command that takes no arguments is given some. -/
  | unexpectedArguments (handler : String) (count : Nat)
  /-- A file operation is refused. -/
  | file (refusal : Refusal)
  /-- A text file is not UTF-8. -/
  | undecodable (fault : Text.Utf8.Fault)
  /-- A text that is to be written holds surrogates. -/
  | unencodable (fault : EncodingFault)
  /-- A file of defaults is missing. -/
  | missingDefaults (name directory : String)
  /-- A file of defaults holds something else than a mapping. -/
  | notMapping (name : String)
  /-- The home directory is not known. -/
  | unknownHome
  /-- The name of a logging level stands for another text. -/
  | unknownLevel (shown : String)
  /-- The name of a logging level stands for something that is no text. -/
  | notLevel (shown : String)
  /-- Any other failure that a command or a reader raises. -/
  | other (kind : String) (message : Text)
  deriving DecidableEq, Repr

namespace Failure

/-- The most digits that a number is read or written with. -/
def digitLimit : Nat := 4300

/-- The name of a failure of the file system. -/
def systemKind : SystemError → String
  | .notFound => "FileNotFoundError"
  | .alreadyExists => "FileExistsError"
  | .notDirectory => "NotADirectoryError"
  | .isDirectory => "IsADirectoryError"
  | .nameTooLong => "OSError"

/-- The name under which a failure is reported. -/
def kind : Failure → String
  | .script _ => "TclError"
  | .interrupt _ => "KeyboardInterrupt"
  | .endOfInput _ => "EOFError"
  | .missingKey _ => "KeyError"
  | .exhausted => "StopIteration"
  | .outOfOrder _ _ => "RuntimeError"
  | .finalized => "RuntimeError"
  | .bootstrap _ => "BootstrapError"
  | .payload _ => "PayloadDecodeError"
  | .fragmentWidth => "ValueError"
  | .threadCount _ => "ThreadCountError"
  | .longNumeral _ => "ValueError"
  | .longNumber => "ValueError"
  | .unexpectedArguments _ _ => "TypeError"
  | .file .nulInPath => "ValueError"
  | .file (.system error _) => systemKind error
  | .undecodable _ => "UnicodeDecodeError"
  | .unencodable _ => "UnicodeEncodeError"
  | .missingDefaults _ _ => "FileNotFoundError"
  | .notMapping _ => "ValueError"
  | .unknownHome => "RuntimeError"
  | .unknownLevel _ => "ValueError"
  | .notLevel _ => "TypeError"
  | .other kind _ => kind

/-- What a failure says. -/
def message : Failure → Text
  | .script message => message
  | .interrupt message => message
  | .endOfInput message => message
  | .missingKey key => Text.quoted key
  | .exhausted => ""
  | .outOfOrder target current => "cannot enter " ++ target.label ++ " from " ++ current.label
  | .finalized => "Tcl evaluator has been finalized"
  | .bootstrap reason => reason
  | .payload defect => defect.message
  | .fragmentWidth => "fragment_bytes must be positive"
  | .threadCount value => value
  | .longNumeral digits =>
    "Exceeds the limit (" ++ toString digitLimit ++
      " digits) for integer string conversion: value has " ++ toString digits ++
      " digits; use sys.set_int_max_str_digits() to increase the limit"
  | .longNumber =>
    "Exceeds the limit (" ++ toString digitLimit ++
      " digits) for integer string conversion; use sys.set_int_max_str_digits() to increase " ++
      "the limit"
  | .unexpectedArguments handler count =>
    handler ++ "() takes 0 positional arguments but " ++ toString count ++
      (if count = 1 then " was given" else " were given")
  | .file refusal => refusal.message
  | .undecodable fault => fault.message
  | .unencodable fault => fault.message
  | .missingDefaults name directory =>
    "Missing defaults YAML: " ++ name ++ " (looked in " ++ directory ++ ")"
  | .notMapping name => "Defaults YAML " ++ name ++ " must load to a mapping/dict."
  | .unknownHome => "Could not determine home directory."
  | .unknownLevel shown => "Unknown level: " ++ shown
  | .notLevel shown => "Level not an integer or a valid string: " ++ shown
  | .other _ message => message

/-- The failure that a command or a reader raises by name. -/
def named (kind : String) (message : Text) : Failure :=
  match kind with
  | "TclError" => .script message
  | "KeyboardInterrupt" => .interrupt message
  | "EOFError" => .endOfInput message
  | "KeyError" => .missingKey message
  | "BootstrapError" => .bootstrap message
  | "ThreadCountError" => .threadCount message
  | _ => .other kind message

/-- The kinds that no conversation survives: they ask the program to stop. -/
def stoppingKinds : List String :=
  ["KeyboardInterrupt", "SystemExit", "GeneratorExit", "BaseException"]

/-- A failure that a conversation survives. -/
def isOrdinary : Failure → Bool
  | .interrupt _ => false
  | .other kind _ => !stoppingKinds.contains kind
  | _ => true

end Failure

end CommandShell
