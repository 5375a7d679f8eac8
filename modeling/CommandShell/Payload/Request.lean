/-
# Requests for fragments

Encoding a script in fragments of a requested size.
-/

import CommandShell.Failure

namespace CommandShell.Payload

/-- The fragments of a script with at most so many bytes each.  A fragment has
at least one byte. -/
def encodeIn (bytes : Int) (script : String) : Except Failure (List String) :=
  if bytes < 1 then .error .fragmentWidth else .ok (encode bytes.toNat script)

/-- The script in a payload, where a defect is a failure. -/
def read (fragments : List String) : Except Failure String :=
  (decode fragments).mapError .payload

end CommandShell.Payload
