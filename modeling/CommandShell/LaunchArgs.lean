/-
# Launch arguments

The argument list that a program is started with.  Its first word is the name of
the program and is never matched.  Flags are words of their own, found by exact
match; the first occurrence counts, and words that mean nothing are left alone.
-/

namespace CommandShell

/-- An argument list, the program's name included. -/
structure LaunchArgs where
  words : List String
  deriving DecidableEq, Repr

namespace LaunchArgs

/-- The name of the program. -/
def program (args : LaunchArgs) : String :=
  args.words.headD "stashell"

/-- The words behind the program's name. -/
def arguments (args : LaunchArgs) : List String :=
  args.words.drop 1

/-- A word occurs among the arguments. -/
def hasFlag (args : LaunchArgs) (name : String) : Bool :=
  args.arguments.contains name

/-- The word behind the first occurrence of a name. -/
def valueIn (name : String) : List String → Option String
  | [] => none
  | word :: rest => if word = name then rest.head? else valueIn name rest

/-- The argument behind the first occurrence of a name, if one is there. -/
def value? (args : LaunchArgs) (name : String) : Option String :=
  valueIn name args.arguments

theorem hasFlag_iff (args : LaunchArgs) (name : String) :
    args.hasFlag name = true ↔ name ∈ args.arguments :=
  List.contains_iff_mem

/-- A name that does not occur has no value. -/
theorem valueIn_eq_none_of_not_mem {name : String} {words : List String} (h : name ∉ words) :
    valueIn name words = none := by
  induction words with
  | nil => rfl
  | cons word rest ih =>
    rw [List.mem_cons, not_or] at h
    rw [valueIn, if_neg (Ne.symm h.1), ih h.2]

end LaunchArgs

end CommandShell
