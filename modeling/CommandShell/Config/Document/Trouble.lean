/-
# Troubles with a document

What can be wrong with the text of a configuration document, and how it is
reported.  A report names the file, says where in it the trouble was met, and
where the part began that was being read, if that is another place.
-/

import CommandShell.Failure

namespace CommandShell.Config.Document

open CommandShell.Text

/-- A place in a document: the characters before it, the lines before its own,
and the characters before it on its line. -/
structure Mark where
  index : Nat := 0
  line : Nat := 0
  column : Nat := 0
  deriving DecidableEq, Repr

/-- A place in a named file; lines and columns are counted from one. -/
def Mark.text (mark : Mark) (name : String) : String :=
  "  in \"" ++ name ++ "\", line " ++ toString (mark.line + 1) ++ ", column " ++
    toString (mark.column + 1)

/-- What holds other values. -/
inductive Enclosure
  | sequence
  | mapping
  deriving DecidableEq, Repr

/-- How reports name an enclosure. -/
def Enclosure.label : Enclosure → String
  | .sequence => "sequence"
  | .mapping => "mapping"

/-- What ends an enclosure. -/
def Enclosure.closing : Enclosure → String
  | .sequence => "]"
  | .mapping => "\x7d"

inductive Trouble
  /-- The bytes are not UTF-8. -/
  | undecodable (fault : Utf8.Fault)
  /-- A character that no document may hold. -/
  | unacceptable (c : Char) (position : Nat)
  /-- A character that begins nothing. -/
  | strayCharacter (c : Char) (place : Mark)
  /-- A quoted text is not closed. -/
  | unclosedText (start place : Mark)
  /-- A line of a quoted text looks like the border between two documents. -/
  | separatorInText (start place : Mark)
  /-- A backslash stands before a character that it does not escape. -/
  | unknownEscape (c : Char) (start place : Mark)
  /-- An escape has too few hexadecimal digits. -/
  | shortEscape (width : Nat) (c : Char) (start place : Mark)
  /-- Something else than a comma or the end follows a value. -/
  | notSeparated (enclosure : Enclosure) (found : String) (start place : Mark)
  /-- Something else stands where a value should. -/
  | noValue (top : Bool) (found : String) (place : Mark)
  /-- Something follows the value of the document. -/
  | afterValue (found : String) (place : Mark)
  /-- A notation that these documents do not use. -/
  | otherNotation (place : Mark)
  deriving DecidableEq, Repr

/-- A report on something met at a place while a part was read that began at
another. -/
def report (name doing : String) (start : Mark) (problem : String) (place : Mark) : String :=
  "\n".intercalate
    ([doing] ++
      (if start.line = place.line ∧ start.column = place.column then [] else [start.text name]) ++
      [problem, place.text name])

namespace Trouble

/-- The name under which a trouble is reported. -/
def kind : Trouble → String
  | .undecodable _ => "UnicodeDecodeError"
  | .unacceptable _ _ => "ReaderError"
  | .strayCharacter _ _ => "ScannerError"
  | .unclosedText _ _ => "ScannerError"
  | .separatorInText _ _ => "ScannerError"
  | .unknownEscape _ _ _ => "ScannerError"
  | .shortEscape _ _ _ _ => "ScannerError"
  | .notSeparated _ _ _ _ => "ParserError"
  | .noValue _ _ _ => "ParserError"
  | .afterValue _ _ => "ParserError"
  | .otherNotation _ => "ParserError"

/-- A character in quotes. -/
def shown (c : Char) : String :=
  quoted (String.singleton c)

/-- The report of a trouble with a named file. -/
def message (name : String) : Trouble → String
  | .undecodable fault => fault.message
  | .unacceptable c position =>
    "unacceptable character #x" ++ String.ofList (hexDigits 4 c.toNat) ++
      ": special characters are not allowed\n  in \"" ++ name ++ "\", position " ++
      toString position
  | .strayCharacter c place =>
    report name "while scanning for the next token" place
      ("found character " ++ shown c ++ " that cannot start any token") place
  | .unclosedText start place =>
    report name "while scanning a quoted scalar" start "found unexpected end of stream" place
  | .separatorInText start place =>
    report name "while scanning a quoted scalar" start "found unexpected document separator" place
  | .unknownEscape c start place =>
    report name "while scanning a double-quoted scalar" start
      ("found unknown escape character " ++ shown c) place
  | .shortEscape width c start place =>
    report name "while scanning a double-quoted scalar" start
      ("expected escape sequence of " ++ toString width ++ " hexadecimal numbers, but found " ++
        shown c) place
  | .notSeparated enclosure found start place =>
    report name ("while parsing a flow " ++ enclosure.label) start
      ("expected ',' or '" ++ enclosure.closing ++ "', but got " ++ quoted found) place
  | .noValue top found place =>
    report name ("while parsing a " ++ (if top then "block" else "flow") ++ " node") place
      ("expected the node content, but found " ++ quoted found) place
  | .afterValue found place =>
    "expected '<document start>', but found " ++ quoted found ++ "\n" ++ place.text name
  | .otherNotation place => "found an unexpected notation\n" ++ place.text name

/-- A trouble with a named file as a failure. -/
def failure (name : String) (trouble : Trouble) : Failure :=
  .other trouble.kind (trouble.message name)

end Trouble

end CommandShell.Config.Document
