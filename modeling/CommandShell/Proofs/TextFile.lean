/-
# What is left by writing

Texts are put out one after another, up to the first that is no string.  So what a file
gets is the bytes of strings, and these are all the texts or those before the one at which
the writing failed.
-/

import CommandShell.Proofs.Text.Encoding
import CommandShell.TextFile

namespace CommandShell.TextFile

open CommandShell.Text

@[simp] theorem output_nil : output [] = ([], .ok ()) := rfl

theorem output_cons_plain (string : String) (texts : List Text) :
    output (string :: texts) =
      (string.toUTF8.data.toList ++ (output texts).1, (output texts).2) := by
  rw [output, encode_plain]

theorem output_cons_of_fault {text : Text} {fault : EncodingFault}
    (h : text.encode = .error fault) (texts : List Text) :
    output (text :: texts) = ([], .error (.unencodable fault)) := by
  rw [output, h]

/-- Strings in front of other texts go out first. -/
theorem output_append (strings : List String) (texts : List Text) :
    output (strings.map plain ++ texts) =
      ((String.join strings).toUTF8.data.toList ++ (output texts).1, (output texts).2) := by
  induction strings with
  | nil => rfl
  | cons string rest ih =>
      rw [List.map_cons, List.cons_append, output_cons_plain, ih, String.join_cons, bytes_append,
        List.append_assoc]

/-- Strings go out whole. -/
theorem output_plain (strings : List String) :
    output (strings.map plain) = ((String.join strings).toUTF8.data.toList, .ok ()) := by
  simpa using output_append strings []

/-- A single text goes out if it is a string, and nothing goes out otherwise. -/
theorem output_singleton (text : Text) :
    (output [text]).1 = (String.join text.string?.toList).toUTF8.data.toList := by
  cases text with
  | plain string => exact congrArg Prod.fst (output_plain [string])
  | broken before surrogate behind => rfl

theorem output_singleton_eq_ok_iff {text : Text} :
    (output [text]).2 = .ok () ↔ text.string?.isSome = true := by
  cases text with
  | plain string => simp [output, encode_plain]
  | broken before surrogate behind => exact ⟨nofun, nofun⟩

/-- The strings among texts, one text after another. -/
theorem join_cons_strings (text : Text) (texts : List Text) :
    (String.join ((text :: texts).filterMap string?)).toUTF8.data.toList =
      (output [text]).1 ++ (String.join (texts.filterMap string?)).toUTF8.data.toList := by
  cases text with
  | plain string =>
      rw [output_singleton, List.filterMap_cons_some (string?_plain string), String.join_cons,
        bytes_append]
      simp
  | broken before surrogate behind => rfl

/-- Texts are strings, or there is a first one among them that is none. -/
theorem strings_or_fault (texts : List Text) :
    (∃ strings : List String, texts = strings.map plain) ∨
      ∃ (strings : List String) (text : Text) (later : List Text) (fault : EncodingFault),
        texts = strings.map plain ++ text :: later ∧ text.encode = .error fault := by
  induction texts with
  | nil => exact .inl ⟨[], rfl⟩
  | cons text rest ih =>
      cases text with
      | broken before surrogate behind => exact .inr ⟨[], _, rest, _, rfl, rfl⟩
      | plain string =>
          rcases ih with ⟨strings, rfl⟩ | ⟨strings, text, later, fault, rfl, broken⟩
          · exact .inl ⟨string :: strings, rfl⟩
          · exact .inr ⟨string :: strings, text, later, fault, rfl, broken⟩

/-- Writing that fails at a text leaves the strings before it. -/
theorem output_of_fault (strings : List String) {text : Text} {fault : EncodingFault}
    (h : text.encode = .error fault) (later : List Text) :
    output (strings.map plain ++ text :: later) =
      ((String.join strings).toUTF8.data.toList, .error (.unencodable fault)) := by
  rw [output_append, output_cons_of_fault h, List.append_nil]

end CommandShell.TextFile
