/-
# Texts as bytes

The encoding of a text, which fails at its first surrogate.  The report names the
run of surrogates that stands there: a single one is shown, a longer run is given by
its first and last position.
-/

import CommandShell.Text.Quoted

namespace CommandShell

/-- The first run of surrogates in a text: the number of characters before it, its
first surrogate, and how many more directly follow. -/
structure EncodingFault where
  position : Nat
  first : Surrogate
  more : Nat := 0
  deriving DecidableEq, Repr

/-- The report of a fault. -/
def EncodingFault.message (fault : EncodingFault) : String :=
  let what :=
    if fault.more = 0 then
      "character '" ++ String.ofList (Text.escapeSurrogate fault.first) ++ "' in position " ++
        toString fault.position
    else
      "characters in position " ++ toString fault.position ++ "-" ++
        toString (fault.position + fault.more)
  "'utf-8' codec can't encode " ++ what ++ ": surrogates not allowed"

namespace Text

/-- The number of surrogates that a text begins with. -/
def leadingSurrogates : Text → Nat
  | plain _ => 0
  | broken before _ behind => if before = "" then behind.leadingSurrogates + 1 else 0

/-- The bytes of a text. -/
def encode : Text → Except EncodingFault (List UInt8)
  | plain characters => .ok (Utf8.encode characters.toList)
  | broken before surrogate behind =>
    .error ⟨before.length, surrogate, behind.leadingSurrogates⟩

end Text

end CommandShell
