/-
# Text files

Files read and written as UTF-8 text.  A strict reader refuses bytes that are
not UTF-8; a lenient one replaces them.  Both unify line endings, so a reader
never sees a carriage return.  Writing changes nothing.

A file is opened before it is written, and each text is encoded when its turn
comes.  A text with a surrogate cannot be encoded: what was written before it stays
in the file, and a file that was opened for it stays there.
-/

import CommandShell.Failure
import CommandShell.Text.Lines

namespace CommandShell.TextFile

open CommandShell.Text

/-- The text of bytes, with unified line endings. -/
def decode (bytes : List UInt8) : Except Failure String :=
  match Utf8.decode bytes with
  | .ok text => .ok (String.ofList (unifyNewlines text))
  | .error fault => .error (.undecodable fault)

/-- The text of bytes of which some may be damaged. -/
def decodeLossy (bytes : List UInt8) : List Char :=
  unifyNewlines (Utf8.decodeLossy bytes)

/-- The bytes of a string. -/
def encode (text : String) : List UInt8 :=
  Utf8.encode text.toList

/-- Writes texts one after another: the bytes that come out, up to the first text
that cannot be encoded, and how the writing ends. -/
def output : List Text → List UInt8 × Except Failure Unit
  | [] => ([], .ok ())
  | text :: rest =>
    match text.encode with
    | .ok bytes => (bytes ++ (output rest).1, (output rest).2)
    | .error fault => ([], .error (.unencodable fault))

/-- A refused file operation as a failure. -/
def refuse {α : Type} : Except Refusal α → Except Failure α
  | .ok value => .ok value
  | .error refusal => .error (.file refusal)

@[simp] theorem refuse_ok {α : Type} (value : α) : refuse (.ok value) = .ok value := rfl

@[simp] theorem refuse_error {α : Type} (refusal : Refusal) :
    refuse (.error refusal : Except Refusal α) = .error (.file refusal) := rfl

/-- Reads a text file strictly. -/
def read (files : FileTree) (path : Path) : Except Failure String := do
  let bytes ← refuse (files.read path)
  decode bytes

/-- Writes a text file. -/
def write (files : FileTree) (path : Path) (text : String) : Except Failure FileTree :=
  refuse (files.write path (encode text))

/-- How writing ends and the files afterwards, given how it ends if the file can be
opened. -/
def opened (files : FileTree) (ended : Except Failure Unit) :
    Except Refusal FileTree → Except Failure Unit × FileTree
  | .ok written => (ended, written)
  | .error refusal => (.error (.file refusal), files)

/-- Writes texts over a file. -/
def overwrite (files : FileTree) (path : Path) (texts : List Text) :
    Except Failure Unit × FileTree :=
  opened files (output texts).2 (files.write path (output texts).1)

/-- Writes texts to the end of a file. -/
def extend (files : FileTree) (path : Path) (texts : List Text) :
    Except Failure Unit × FileTree :=
  opened files (output texts).2 (files.append path (output texts).1)

end CommandShell.TextFile
