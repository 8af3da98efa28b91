import PanelLink.Command.Basic
import PanelLink.Command.Mode
import PanelLink.Command.NumberFormat
import PanelLink.Command.Summary
import PanelLink.Data.Tree
import PanelLink.Data.View
import PanelLink.Data.Words
import PanelLink.Display.Font
import PanelLink.Display.Geometry
import PanelLink.Display.Panel
import PanelLink.Display.Snapshot
import PanelLink.Display.Stroke
import PanelLink.Fault
import PanelLink.Frame.Decoder
import PanelLink.Frame.Form
import PanelLink.Frame.Reading
import PanelLink.Frame.Rejection
import PanelLink.Frame.Writing
import PanelLink.Journal
import PanelLink.Link.Basic
import PanelLink.Link.Duplex
import PanelLink.Link.Pipe
import PanelLink.Link.Port
import PanelLink.Link.Replay
import PanelLink.Link.Script
import PanelLink.Link.Writer
import PanelLink.Pieces
import PanelLink.Proofs.Account
import PanelLink.Proofs.Audience
import PanelLink.Proofs.Batch
import PanelLink.Proofs.Bookkeeping
import PanelLink.Proofs.Bounding
import PanelLink.Proofs.Breaking
import PanelLink.Proofs.Chronicle
import PanelLink.Proofs.Clipping
import PanelLink.Proofs.Conduct
import PanelLink.Proofs.Continuing
import PanelLink.Proofs.Course
import PanelLink.Proofs.Covering
import PanelLink.Proofs.Delivery
import PanelLink.Proofs.Feeding
import PanelLink.Proofs.Gallery
import PanelLink.Proofs.Guarding
import PanelLink.Proofs.Handing
import PanelLink.Proofs.Inverting
import PanelLink.Proofs.Layouts
import PanelLink.Proofs.Leftover
import PanelLink.Proofs.Legs
import PanelLink.Proofs.Lengthening
import PanelLink.Proofs.Measures
import PanelLink.Proofs.Numerals
import PanelLink.Proofs.Observing
import PanelLink.Proofs.Pacing
import PanelLink.Proofs.Painting
import PanelLink.Proofs.Pauses
import PanelLink.Proofs.Pictures
import PanelLink.Proofs.Playback
import PanelLink.Proofs.Realigning
import PanelLink.Proofs.Recording
import PanelLink.Proofs.Rendering
import PanelLink.Proofs.Replaying
import PanelLink.Proofs.Retracing
import PanelLink.Proofs.Rewriting
import PanelLink.Proofs.Rounding
import PanelLink.Proofs.Standing
import PanelLink.Proofs.Summaries
import PanelLink.Proofs.Supply
import PanelLink.Proofs.Tapping
import PanelLink.Proofs.Thinning
import PanelLink.Proofs.Throttling
import PanelLink.Proofs.Transmission
import PanelLink.Proofs.Upkeep
import PanelLink.Proofs.Viewing
import PanelLink.Proofs.Wire
import PanelLink.Proofs.Writability
import PanelLink.Rounding
import PanelLink.Session.Basic
import PanelLink.Session.Broadcast
import PanelLink.Session.Event
import PanelLink.Session.Latest
import PanelLink.Session.Observed
import PanelLink.Session.ReadLoop
import PanelLink.Settings.Basic
import PanelLink.Settings.Check
import PanelLink.Settings.File
import PanelLink.Settings.Form
import PanelLink.Settings.Terminal
import PanelLink.Text.Blank
import PanelLink.Text.ByteList
import PanelLink.Text.Hidden
import PanelLink.Text.Quoted
import PanelLink.Text.Radix
import PanelLink.Text.SingleByte
import PanelLink.Timing.Rate
import PanelLink.Timing.Span
import PanelLink.Timing.Throttle
import PanelLink.Timing.Ticker
import PanelLink.Yaml.Grammar
import PanelLink.Yaml.Lexer
import PanelLink.Yaml.Node
import PanelLink.Yaml.Scalar
import PanelLink.Yaml.Source
import PanelLink.Yaml.Token
