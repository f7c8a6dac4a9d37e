import FixedWindow.Fleet
import FixedWindow.Main
import FixedWindow.Proofs.CacheWrites
import FixedWindow.Proofs.Check
import FixedWindow.Proofs.CommandLine.Reports
import FixedWindow.Proofs.Eviction
import FixedWindow.Proofs.Fleet.Book
import FixedWindow.Proofs.Fleet.Denial
import FixedWindow.Proofs.Fleet.Failure
import FixedWindow.Proofs.Fleet.FastPath
import FixedWindow.Proofs.Fleet.Flapping
import FixedWindow.Proofs.Fleet.GlobalCap
import FixedWindow.Proofs.Fleet.Interference
import FixedWindow.Proofs.Fleet.Load
import FixedWindow.Proofs.Fleet.LocalCount
import FixedWindow.Proofs.Fleet.Lone
import FixedWindow.Proofs.Fleet.Mode
import FixedWindow.Proofs.Fleet.Outage
import FixedWindow.Proofs.Fleet.Outcome
import FixedWindow.Proofs.Fleet.Prefixes
import FixedWindow.Proofs.Fleet.Recovery
import FixedWindow.Proofs.Fleet.Server
import FixedWindow.Proofs.Fleet.Sight
import FixedWindow.Proofs.Fleet.Simulation
import FixedWindow.Proofs.Fleet.Timeline
import FixedWindow.Proofs.Fleet.Trailing
import FixedWindow.Proofs.Fleet.ZeroWindow
import FixedWindow.Proofs.Frame
import FixedWindow.Proofs.LiveEntry
import FixedWindow.Proofs.RaisedLimit
import FixedWindow.Proofs.Redis.Expiry
import FixedWindow.Proofs.Redis.Keyspace
import FixedWindow.Proofs.Redis.Replies
import FixedWindow.Proofs.Settings.EnvironmentTexts
import FixedWindow.Proofs.Settings.Layering
import FixedWindow.Proofs.Settings.Runnable
import FixedWindow.Proofs.Store.CountRange
import FixedWindow.Proofs.Store.Counting
import FixedWindow.Proofs.Store.Ledger
import FixedWindow.Proofs.Store.Passes
import FixedWindow.Proofs.Store.Retention
import FixedWindow.Proofs.Sweeper.Clearing
import FixedWindow.Proofs.Tally
import FixedWindow.Settings.Document
import FixedWindow.Store.Delivery
