/-
# Styles of the rich editor

The rules that colour the completion menu and its scroll bar.  A configuration
may replace the style of a rule, which keeps its place, or add rules at the end.
-/

import CommandShell.Config.Lookup

namespace CommandShell.Editor

/-- A rule: the name of a part of the screen and its style. -/
abbrev StyleRule := String × String

/-- The rules that hold without a configuration. -/
def defaultStyle : List StyleRule :=
  [ ("completion-menu", "bg:#111111 #d0d0d0"),
    ("completion-menu.completion", "bg:#111111 #d0d0d0"),
    ("completion-menu.completion.current", "bg:#303030 #ffffff bold"),
    ("completion-menu.meta.completion", "bg:#111111 #808080"),
    ("completion-menu.meta.completion.current", "bg:#303030 #a0a0a0"),
    ("scrollbar.background", "bg:#202020"),
    ("scrollbar.button", "bg:#505050") ]

/-- Rules with the style of one part set: in place, or at the end. -/
def setStyle (rules : List StyleRule) (name style : String) : List StyleRule :=
  if rules.any (·.1 == name) then
    rules.map fun rule => if rule.1 = name then (name, style) else rule
  else rules ++ [(name, style)]

/-- Applies the entries of a mapping whose values are texts. -/
def applyOverrides (rules : List StyleRule) : Config.Mapping → List StyleRule
  | [] => rules
  | (name, .string style) :: rest => applyOverrides (setStyle rules name style) rest
  | _ :: rest => applyOverrides rules rest

/-- The overrides in a configuration; what is not a mapping overrides nothing. -/
def styleOverrides (config : Config.Mapping) : Config.Mapping :=
  ((Config.find? config "ui.theme.style").bind Config.Value.entries?).getD []

/-- The rules that hold, with a configuration or without one. -/
def style (config : Option Config.Mapping) : List StyleRule :=
  applyOverrides defaultStyle ((config.map styleOverrides).getD [])

end CommandShell.Editor
