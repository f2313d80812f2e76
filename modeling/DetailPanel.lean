import DetailPanel.Main
import DetailPanel.Session.Report
import DetailPanel.Switchboard
import DetailPanel.Proofs.Registry
import DetailPanel.Proofs.Workspace.Effects
import DetailPanel.Proofs.Workspace.Wiring
import DetailPanel.Proofs.Workspace.Moves
import DetailPanel.Proofs.Session.Soundness
import DetailPanel.Proofs.Session.Moments
import DetailPanel.Proofs.Workspace.UpToDate
import DetailPanel.Proofs.Session.Attention
import DetailPanel.Proofs.Workspace.Generations
import DetailPanel.Proofs.Session.Staleness
import DetailPanel.Proofs.Replay.Reference
import DetailPanel.Proofs.Replay.Refinement
import DetailPanel.Proofs.Replay.Settling
import DetailPanel.Proofs.Table
import DetailPanel.Proofs.Session.Accounting
import DetailPanel.Proofs.Agenda
import DetailPanel.Proofs.Switchboard.Registration
import DetailPanel.Proofs.Switchboard.Dispatch
import DetailPanel.Proofs.Pace
import DetailPanel.Proofs.Replay.Timing
import DetailPanel.Proofs.Replay.Faults
import DetailPanel.Proofs.Replay.ChangeLog
import DetailPanel.Proofs.Replay.Numbers
import DetailPanel.Proofs.Replay.Slicing
import DetailPanel.Proofs.Replay.Counters
import DetailPanel.Proofs.Replay.Unselected
import DetailPanel.Proofs.Workspace.Portrait
import DetailPanel.Proofs.Session.Deliveries
import DetailPanel.Proofs.Session.Panorama
import DetailPanel.Proofs.Session.Independence
import DetailPanel.Proofs.Replay.Conservation
import DetailPanel.Proofs.Session.Conduct
import DetailPanel.Proofs.Session.Silence
import DetailPanel.Proofs.Session.TopLevel
import DetailPanel.Proofs.Session.Resynchrony
import DetailPanel.Proofs.Metacard
import DetailPanel.Proofs.Workspace.Growth
import DetailPanel.Proofs.Session.Announcements
import DetailPanel.Proofs.Flags
import DetailPanel.Proofs.Session.Faces
import DetailPanel.Proofs.Session.Roots
import DetailPanel.Proofs.Session.Layouts
import DetailPanel.Proofs.Workspace.Stages
import DetailPanel.Proofs.Workspace.Courses
import DetailPanel.Proofs.Program.Layering
import DetailPanel.Proofs.Json.Numbers
import DetailPanel.Proofs.Json.Reading
import DetailPanel.Proofs.Json.Writing
import DetailPanel.Proofs.Scenario.Reading
import DetailPanel.Proofs.Throttle
import DetailPanel.Proofs.Replay.Advancing
import DetailPanel.Proofs.Json.Nesting
import DetailPanel.Proofs.Json.Canonical
import DetailPanel.Proofs.RoundTrip
import DetailPanel.Proofs.Json.Layout
import DetailPanel.Proofs.Replay.Lines
import DetailPanel.Proofs.Replay.Refusals
import DetailPanel.Proofs.Program.Output
import DetailPanel.Proofs.Switchboard.Handles
import DetailPanel.Proofs.Config.Overrides
import DetailPanel.Proofs.Region
