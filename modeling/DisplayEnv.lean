import DisplayEnv.Main
import DisplayEnv.Session.Run
import DisplayEnv.Threads.Script
import DisplayEnv.Proofs.Display.TeardownOrder
import DisplayEnv.Proofs.Display.MainLoop
import DisplayEnv.Proofs.Display.Recovery
import DisplayEnv.Proofs.Events.Order
import DisplayEnv.Proofs.Events.Termination
import DisplayEnv.Proofs.Threads.MainDesignation
import DisplayEnv.Proofs.Threads.OwnDisplays
import DisplayEnv.Proofs.Cache.Histories
import DisplayEnv.Proofs.Cache.Ledger
import DisplayEnv.Proofs.Display.Inert
import DisplayEnv.Proofs.Display.Contents
import DisplayEnv.Proofs.Display.Extents
import DisplayEnv.Proofs.Display.Identity
import DisplayEnv.Proofs.Json.Grammar
import DisplayEnv.Proofs.Json.Pieces
import DisplayEnv.Proofs.Json.Lexemes
import DisplayEnv.Proofs.Json.Passing
import DisplayEnv.Proofs.Json.Spelling
import DisplayEnv.Proofs.Json.ReadBack
import DisplayEnv.Proofs.Json.Readers
import DisplayEnv.Proofs.Json.Records
import DisplayEnv.Proofs.Json.Faults
import DisplayEnv.Proofs.Config.RoundTrip
import DisplayEnv.Proofs.Config.Gaps
import DisplayEnv.Proofs.Config.Defaults
import DisplayEnv.Proofs.Files.Written
import DisplayEnv.Proofs.Monitors.Layouts
import DisplayEnv.Proofs.Monitors.Lookups
import DisplayEnv.Proofs.Monitors.Inquiries
import DisplayEnv.Proofs.Monitors.Memoized
import DisplayEnv.Proofs.Events.Unseen
import DisplayEnv.Proofs.Events.Alike
import DisplayEnv.Proofs.Events.Lockstep
import DisplayEnv.Proofs.Events.Failing
import DisplayEnv.Proofs.Probe.Steps
import DisplayEnv.Proofs.Probe.LookedUp
import DisplayEnv.Proofs.Probe.Ends
import DisplayEnv.Proofs.Probe.Session
import DisplayEnv.Proofs.Probe.Argument
import DisplayEnv.Proofs.Threads.MainAccess
import DisplayEnv.Proofs.Threads.Independence
import DisplayEnv.Proofs.Probe.WholeRun
import DisplayEnv.Proofs.Display.Beside
import DisplayEnv.Proofs.Display.Kinds
import DisplayEnv.Proofs.Images.ReadOnce
import DisplayEnv.Proofs.Pumps.Worked
import DisplayEnv.Proofs.Pumps.Accounts
import DisplayEnv.Proofs.Pumps.Programs
import DisplayEnv.Proofs.Bridges.OneMap
import DisplayEnv.Proofs.Pumps.Drained
import DisplayEnv.Proofs.Events.Heedless
import DisplayEnv.Proofs.Pumps.Wakes
import DisplayEnv.Proofs.Images.Loading
import DisplayEnv.Proofs.Rectangles
import DisplayEnv.Proofs.Monitors.Normalized
import DisplayEnv.Proofs.Descriptors
import DisplayEnv.Proofs.Display.Totals
import DisplayEnv.Proofs.Bridges.Identifiers
import DisplayEnv.Proofs.Events.Windows
