/-
# Texts

What the shell reads from its user, hands to its interpreter and reports may hold
*surrogates*: code points that are no characters and stand for bytes or units that
could not be decoded.  A text is strings of characters with single surrogates
between them, so a text without any is a string.

Only a string has an encoding as bytes.  Texts are needed for this one reason: a
text that has none can be entered, evaluated and reported like any other, but not
written to a file.
-/

namespace CommandShell

/-- A surrogate, by its distance from the first one. -/
abbrev Surrogate := Fin 0x800

/-- The code point of a surrogate. -/
def Surrogate.code (surrogate : Surrogate) : Nat :=
  0xd800 + surrogate

inductive Text
  /-- Characters and nothing else. -/
  | plain (characters : String)
  /-- The characters before the first surrogate, that surrogate, and what is
  behind it. -/
  | broken (before : String) (surrogate : Surrogate) (behind : Text)
  deriving DecidableEq, Repr

namespace Text

instance : Coe String Text := ⟨plain⟩

instance : Inhabited Text := ⟨""⟩

/-- The string that a text is, if it holds no surrogate. -/
def string? : Text → Option String
  | plain characters => some characters
  | broken _ _ _ => none

@[simp] theorem string?_plain (characters : String) :
    (plain characters).string? = some characters := rfl

/-- The characters of a text, without its surrogates. -/
def characters : Text → List Char
  | plain characters => characters.toList
  | broken before _ behind => before.toList ++ behind.characters

@[simp] theorem characters_plain (string : String) : (plain string).characters = string.toList :=
  rfl

/-- Characters put in front of a text. -/
def prepend (front : String) : Text → Text
  | plain characters => plain (front ++ characters)
  | broken before surrogate behind => broken (front ++ before) surrogate behind

/-- One text behind another. -/
def append : Text → Text → Text
  | plain characters, text => text.prepend characters
  | broken before surrogate behind, text => broken before surrogate (behind.append text)

instance : Append Text := ⟨append⟩

theorem plain_append (front : String) (text : Text) : plain front ++ text = text.prepend front :=
  rfl

@[simp] theorem plain_append_plain (front back : String) :
    plain front ++ plain back = plain (front ++ back) := rfl

@[simp] theorem broken_append (before : String) (surrogate : Surrogate) (behind text : Text) :
    broken before surrogate behind ++ text = broken before surrogate (behind ++ text) := rfl

theorem append_assoc (front middle back : Text) :
    front ++ middle ++ back = front ++ (middle ++ back) := by
  induction front with
  | plain before =>
      cases middle with
      | plain between => cases back <;> simp [plain_append, prepend, String.append_assoc]
      | broken between surrogate behind => rfl
  | broken before surrogate behind ih => simp [ih]

/-- Texts one behind another. -/
def join : List Text → Text
  | [] => ""
  | text :: rest => text ++ join rest

/-- Texts as lines, each ended by a line feed. -/
def endLines (lines : List Text) : Text :=
  join (lines.map fun line => line ++ "\n")

/-- What stands before the first character that fails a test. -/
def takeWhile (test : Char → Bool) : Text → Text
  | plain characters => plain (String.ofList (characters.toList.takeWhile test))
  | broken before surrogate behind =>
    if before.toList.all test then broken before surrogate (behind.takeWhile test)
    else plain (String.ofList (before.toList.takeWhile test))

/-- The characters before the first surrogate. -/
def front : Text → String
  | plain characters => characters
  | broken before _ _ => before

end Text

end CommandShell
