/-
# Command names

The names that completion offers.  The table helps typing and says nothing about
which commands an interpreter accepts.
-/

namespace CommandShell.Completion

/-- The command names, in the order in which they are offered. -/
def commandNames : List String :=
  [ "all_clocks",
    "all_inputs",
    "all_outputs",
    "all_registers",
    "check_setup",
    "create_clock",
    "create_generated_clock",
    "create_voltage_area",
    "current_design",
    "current_instance",
    "define_corners",
    "get_clocks",
    "get_fanin",
    "get_fanout",
    "get_nets",
    "get_pins",
    "get_ports",
    "read_liberty",
    "read_parasitics",
    "read_sdc",
    "read_sdf",
    "read_spef",
    "read_verilog",
    "report_annotated_delay",
    "report_cell",
    "report_checks",
    "report_path",
    "report_slack",
    "set_input_delay",
    "write_sdc",
    "write_sdf" ]

/-- A name begins with what was typed. -/
def matchesStart (typed name : String) : Bool :=
  typed.toList.isPrefixOf name.toList

/-- The names of a table that begin with what was typed, in table order. -/
def candidates (names : List String) (typed : String) : List String :=
  names.filter (matchesStart typed)

/-- The names of a longer table are those of its two parts. -/
@[simp] theorem candidates_append (front back : List String) (typed : String) :
    candidates (front ++ back) typed = candidates front typed ++ candidates back typed :=
  List.filter_append _ _

/-- A source of completions: what was typed gives the names to offer. -/
abbrev Hook := String → List String

/-- Offers command names. -/
def builtin : Hook :=
  candidates commandNames

end CommandShell.Completion
