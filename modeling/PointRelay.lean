import PointRelay.Config.Writer
import PointRelay.Main
import PointRelay.Output.Simultaneous
import PointRelay.Proofs.Datagram.Body
import PointRelay.Proofs.Datagram.Leaks
import PointRelay.Proofs.Decimal.Digits
import PointRelay.Proofs.Decimal.Interval
import PointRelay.Proofs.Decimal.RoundTrip
import PointRelay.Proofs.Feed.Unreadable
import PointRelay.Proofs.Fleet.Phases
import PointRelay.Proofs.Line.RoundTrip
import PointRelay.Proofs.Output.Delivery
import PointRelay.Proofs.Output.Ownership
import PointRelay.Proofs.Output.Recording
import PointRelay.Scripted
import PointRelay.Proofs.Journal.Totals
import PointRelay.Proofs.Fleet.Story
import PointRelay.Proofs.Output.Upkeep
import PointRelay.Proofs.Output.Account
import PointRelay.Proofs.Output.Agreement
import PointRelay.Proofs.Url.Path
import PointRelay.Proofs.Config.Endpoints
import PointRelay.Proofs.Calls.Dispatching
import PointRelay.Proofs.Calls.Steps
import PointRelay.Proofs.Calls.Ownership
import PointRelay.Proofs.Calls.Acceptance
import PointRelay.Proofs.Calls.Safety
import PointRelay.Proofs.Time.Words
import PointRelay.Proofs.Toml.Strings
import PointRelay.Proofs.Toml.Values
import PointRelay.Proofs.Toml.Document
import PointRelay.Proofs.Json.Strings
import PointRelay.Proofs.Json.Values
import PointRelay.Proofs.Config.RoundTrip
import PointRelay.Proofs.Fleet.Hosts
import PointRelay.Proofs.Fleet.Shuffling
import PointRelay.Proofs.Output.Healing
import PointRelay.Proofs.Output.Database
import PointRelay.Proofs.Fleet.Acceptance
import PointRelay.Proofs.Fleet.Opening
import PointRelay.Proofs.Point.Faults
import PointRelay.Proofs.Record.Literals
import PointRelay.Proofs.Point.Fewest
import PointRelay.Proofs.Fleet.Silence
import PointRelay.Proofs.Stream.Trust
import PointRelay.Proofs.Line.Comments
import PointRelay.Proofs.Stats.Tally
import PointRelay.Proofs.Config.Resources
