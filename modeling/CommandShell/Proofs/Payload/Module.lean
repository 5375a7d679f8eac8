/-
# Modules that hold a payload

The module that is rendered for a payload is a heading and a list, one fragment a line.  It
can be read back line by line: behind the line that opens the list and before the one that
closes it, each line holds a fragment between quotes.  Nothing in a rendered module could
be taken for another line ending, so the fragments that are read are the ones that were
rendered.
-/

import CommandShell.Proofs.Payload.RoundTrip
import CommandShell.Proofs.Script.Segment

namespace CommandShell

namespace Text

/-- There is no line ending in the text. -/
def IsOneLine (text : List Char) : Prop :=
  ∀ c ∈ text, c ≠ '\n' ∧ c ≠ '\r'

instance (text : List Char) : Decidable (IsOneLine text) :=
  List.decidableBAll (fun c => c ≠ '\n' ∧ c ≠ '\r') text

theorem IsOneLine.append {front back : List Char} (h : IsOneLine front) (h' : IsOneLine back) :
    IsOneLine (front ++ back) :=
  List.forall_mem_append.mpr ⟨h, h'⟩

/-- Lines that are ended by line feeds hold no other line endings. -/
theorem not_mem_terminated {pieces : List (List Char)} (h : ∀ piece ∈ pieces, IsOneLine piece) :
    '\r' ∉ terminated pieces := by
  intro member
  obtain ⟨piece, isPiece, inPiece⟩ := List.mem_flatMap.mp member
  rcases List.mem_append.mp inPiece with inside | isFeed
  · exact (h piece isPiece _ inside).2 rfl
  · cases List.mem_singleton.mp isFeed

/-- Line feeds between pieces and one more are line feeds behind all of them. -/
theorem intercalate_concat_lineFeed {pieces : List (List Char)} (h : pieces ≠ []) :
    ['\n'].intercalate pieces ++ ['\n'] = terminated pieces := by
  obtain ⟨front, last, rfl⟩ := List.eq_nil_or_concat pieces |>.resolve_left h
  have split : terminated (front ++ [last]) = (terminated front ++ last) ++ ['\n'] := by
    simp [terminated]
  rw [List.concat_eq_append, intercalate_eq_dropLast_terminated, split, List.dropLast_concat]

end Text

namespace Payload

open CommandShell.Text

/-! ## Reading a module -/

/-- The line that opens the list of fragments. -/
def openingLine : List Char :=
  "TCL_INITS = (".toList

/-- The line that closes the list. -/
def closingLine : List Char :=
  ")".toList

/-- A line of the list: behind four blanks the fragment in quotes, and a comma. -/
def fragmentLine (fragment : List Char) : List Char :=
  "    \"".toList ++ fragment ++ "\",".toList

/-- The fragment on a line of the list, none if it is not such a line. -/
def fragmentOn? (line : List Char) : Option (List Char) :=
  let inside := (line.drop 5).dropLast.dropLast
  if line = fragmentLine inside then some inside else none

/-- The fragments in the text of a module: those on the lines between the one that opens the
list and the last one, which closes it. -/
def fragmentsIn? (text : String) : Option (List String) :=
  match (records text.toList).dropWhile (· != openingLine) with
  | [] => none
  | _ :: list =>
    if list.getLast? = some closingLine then
      (list.dropLast.mapM fragmentOn?).map fun fragments => fragments.map String.ofList
    else none

@[simp] theorem fragmentOn?_fragmentLine (fragment : List Char) :
    fragmentOn? (fragmentLine fragment) = some fragment := by
  have inside : ((fragmentLine fragment).drop 5).dropLast.dropLast = fragment := by
    have behind : (fragmentLine fragment).drop 5 = (fragment ++ ['"']) ++ [','] := by
      rw [List.append_assoc]
      rfl
    rw [behind, List.dropLast_concat, List.dropLast_concat]
  rw [fragmentOn?, inside, if_pos rfl]

/-! ## Rendered modules -/

/-- What stands above the list. -/
def heading (sourceName : String) : List String :=
  ["\"\"\"Encoded bootstrap script generated from " ++ sourceName ++ ".", "",
    "Do not edit: regenerate with scripts/encode_tcl_inits.py.", "\"\"\"", ""]

/-- The lines of the list. -/
def fragmentLines (fragments : List String) : List (List Char) :=
  fragments.map fun fragment => fragmentLine fragment.toList

/-- The lines of a module. -/
def moduleLines (fragments : List String) (sourceName : String) : List (List Char) :=
  (heading sourceName).map String.toList ++
    openingLine :: (fragmentLines fragments ++ [closingLine])

theorem mapM_fragmentLines (fragments : List String) :
    (fragmentLines fragments).mapM fragmentOn? = some (fragments.map String.toList) := by
  induction fragments with
  | nil => rfl
  | cons fragment rest ih =>
      rw [fragmentLines] at ih
      simp [fragmentLines, ih]

theorem toList_renderModule (fragments : List String) (sourceName : String) :
    (renderModule fragments sourceName).toList = terminated (moduleLines fragments sourceName) := by
  have filled : moduleLines fragments sourceName ≠ [] := by simp [moduleLines]
  have lines : (heading sourceName ++ "TCL_INITS = (" ::
      ((fragments.map fun fragment => "    \"" ++ fragment ++ "\",") ++ [")"])).map String.toList =
        moduleLines fragments sourceName := by
    simp only [moduleLines, fragmentLines, List.map_append, List.map_cons, List.map_map,
      Function.comp_def, String.toList_append]
    rfl
  have rendered : renderModule fragments sourceName = "\n".intercalate (heading sourceName ++
      "TCL_INITS = (" :: ((fragments.map fun fragment => "    \"" ++ fragment ++ "\",") ++
        [")"])) ++ "\n" := by
    simp only [renderModule, heading, List.cons_append, List.nil_append]
  rw [rendered, ← intercalate_concat_lineFeed filled, String.toList_append,
    String.toList_intercalate, lines]
  rfl

section Lines

variable {fragments : List String} {sourceName : String}

theorem isOneLine_moduleLines (name : IsOneLine sourceName.toList)
    (plain : ∀ fragment ∈ fragments, IsOneLine fragment.toList) :
    ∀ line ∈ moduleLines fragments sourceName, IsOneLine line := by
  intro line member
  rw [moduleLines, List.mem_append, List.mem_cons, List.mem_append] at member
  rcases member with inHeading | rfl | inList | isLast
  · simp only [heading, List.map_cons, List.map_nil, List.mem_cons, List.not_mem_nil,
      or_false] at inHeading
    rcases inHeading with rfl | rfl | rfl | rfl | rfl
    · rw [String.toList_append, String.toList_append]
      refine IsOneLine.append (IsOneLine.append ?_ name) ?_
      · decide
      · decide
    · decide
    · decide
    · decide
    · decide
  · decide
  · obtain ⟨fragment, isFragment, rfl⟩ := List.mem_map.mp inList
    refine IsOneLine.append (IsOneLine.append ?_ (plain fragment isFragment)) ?_
    · decide
    · decide
  · rw [List.mem_singleton.mp isLast]
    decide

theorem not_mem_renderModule (name : IsOneLine sourceName.toList)
    (plain : ∀ fragment ∈ fragments, IsOneLine fragment.toList) :
    '\r' ∉ (renderModule fragments sourceName).toList := by
  rw [toList_renderModule]
  exact not_mem_terminated (isOneLine_moduleLines name plain)

/-- The fragments of a rendered module can be read from it. -/
theorem fragmentsIn?_renderModule (name : IsOneLine sourceName.toList)
    (plain : ∀ fragment ∈ fragments, IsOneLine fragment.toList) :
    fragmentsIn? (renderModule fragments sourceName) = some fragments := by
  have oneLine := isOneLine_moduleLines name plain
  have noFeed : ∀ line ∈ moduleLines fragments sourceName, '\n' ∉ line := by
    intro line member feed
    exact (oneLine line member _ feed).1 rfl
  -- The first line begins with a quote, whatever the script is called.
  have above : ∀ line ∈ (heading sourceName).map String.toList,
      (line != openingLine) = true := by
    intro line member
    simp only [heading, List.map_cons, List.map_nil, List.mem_cons, List.not_mem_nil,
      or_false] at member
    rcases member with rfl | rfl | rfl | rfl | rfl
    · rw [String.toList_append, String.toList_append, List.append_assoc, bne_iff_ne]
      intro same
      have first : some '"' = some 'T' := congrArg List.head? same
      cases first
    · decide
    · decide
    · decide
    · decide
  have opened : (openingLine :: (fragmentLines fragments ++ [closingLine])).dropWhile
      (· != openingLine) = openingLine :: (fragmentLines fragments ++ [closingLine]) :=
    List.dropWhile_cons_of_neg (by simp)
  rw [fragmentsIn?, toList_renderModule, records_terminated noFeed, moduleLines,
    List.dropWhile_append_of_pos above, opened]
  simp only [List.getLast?_concat, if_true, List.dropLast_concat, mapM_fragmentLines]
  simp [Function.comp_def]

end Lines

/-- There is nothing but digits in a fragment. -/
theorem isOneLine_of_mem_encode {width : Nat} {script fragment : String}
    (h : fragment ∈ encode width script) : IsOneLine fragment.toList := by
  rw [encode_eq_map_fragmentOf] at h
  obtain ⟨run, -, rfl⟩ := List.mem_map.mp h
  intro c member
  rw [toList_fragmentOf] at member
  obtain ⟨b, -, inByte⟩ := List.mem_flatMap.mp member
  have digit := isDigit_of_mem_writeByte inByte
  constructor
  · rintro rfl
    exact absurd digit (by decide)
  · rintro rfl
    exact absurd digit (by decide)

end Payload

end CommandShell
