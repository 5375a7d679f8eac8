import CommandShell.Completion.Completer
import CommandShell.Completion.Cursor
import CommandShell.Editor.Request
import CommandShell.Editor.Style
import CommandShell.Evaluator.Request
import CommandShell.Main
import CommandShell.Payload.Request
import CommandShell.Session.Request
import CommandShell.Proofs.Completion.Offers
import CommandShell.Proofs.Config.Defaults
import CommandShell.Proofs.Config.Lookup
import CommandShell.Proofs.CrashLog.Calls
import CommandShell.Proofs.Evaluator.ErrorCode
import CommandShell.Proofs.Evaluator.Lifecycle
import CommandShell.Proofs.Evaluator.Observation
import CommandShell.Proofs.History.Damage
import CommandShell.Proofs.History.RoundTrip
import CommandShell.Proofs.LaunchArgs
import CommandShell.Proofs.Payload.Defects
import CommandShell.Proofs.Regenerate
import CommandShell.Proofs.Script.Cut
import CommandShell.Proofs.Script.Segment
import CommandShell.Proofs.Session.Damage
import CommandShell.Proofs.Session.Editors
import CommandShell.Proofs.Session.Order
import CommandShell.Proofs.Session.Reports
import CommandShell.Proofs.Session.Shutdown
import CommandShell.Proofs.Session.StartUp
import CommandShell.Proofs.Session.ThreadCount
import CommandShell.Proofs.Session.ThreadHint
