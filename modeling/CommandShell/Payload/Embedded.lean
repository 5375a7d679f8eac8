/-
# The embedded payload

The start-up script that the program carries: it opens the `sta` namespace with
the banner procedure and the procedure that exports every public command.
-/

import CommandShell.Payload

namespace CommandShell.Payload

/-- The fragments of the start-up script. -/
def embedded : List String :=
  [ "035032083116097083104101108108032098111111116115116114097112032115099114",
    "105112116046010035032069109098101100100101100032105110032115114099047115",
    "116097115104101108108047116099108095105110105116115046112121059032114101",
    "103101110101114097116101032119105116104010035032115099114105112116115047",
    "101110099111100101095116099108095105110105116115046112121032097102116101",
    "114032101100105116105110103046010010110097109101115112097099101032101118",
    "097108032115116097032123010032032035032080114111099115032116104097116032",
    "115116097121032112114105118097116101032116111032116104101032115116097032",
    "110097109101115112097099101046010032032118097114105097098108101032105110",
    "116101114110097108095099109100115032123115104111119095115112108097115104",
    "032100101102105110101095115116097095099109100115125010010032032112114111",
    "099032115104111119095115112108097115104032123125032123010032032032032112",
    "117116115032034083116097083104101108108032091058058115116097058058118101",
    "114115105111110093034010032032032032112117116115032034084121112101032101",
    "120105116032111114032112114101115115032067116114108045068032116111032108",
    "101097118101032116104101032115104101108108046034010032032125010010032032",
    "035032069120112111114116032101118101114121032112117098108105099032099111",
    "109109097110100032105110032116104101032110097109101115112097099101032115",
    "111032116104097116010032032035032034110097109101115112097099101032105109",
    "112111114116032115116097058058042034032109097107101115032105116032099097",
    "108108097098108101032117110113117097108105102105101100046010032032112114",
    "111099032100101102105110101095115116097095099109100115032123125032123010",
    "032032032032118097114105097098108101032105110116101114110097108095099109",
    "100115010032032032032102111114101097099104032099109100032091105110102111",
    "032099111109109097110100115032058058115116097058058042093032123010032032",
    "032032032032115101116032110097109101032091110097109101115112097099101032",
    "116097105108032036099109100093010032032032032032032105102032123091108115",
    "101097114099104032045101120097099116032036105110116101114110097108095099",
    "109100115032036110097109101093032061061032045049125032123010032032032032",
    "032032032032110097109101115112097099101032101120112111114116032036110097",
    "109101010032032032032032032125010032032032032125010032032125010125010" ]

end CommandShell.Payload
