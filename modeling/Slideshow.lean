import Slideshow.Canvas.Display
import Slideshow.Canvas.Picture
import Slideshow.Canvas.Rect
import Slideshow.Canvas.Surface
import Slideshow.Canvas.Texture
import Slideshow.CommandLine.Arguments
import Slideshow.CommandLine.Help
import Slideshow.CommandLine.Options
import Slideshow.CommandLine.Run
import Slideshow.Control.Action
import Slideshow.Control.Queue
import Slideshow.Cursor.Basic
import Slideshow.Cursor.Operation
import Slideshow.Cursor.Reader
import Slideshow.Cursor.Scanner
import Slideshow.Cursor.Value
import Slideshow.Description.Directive
import Slideshow.Description.Draft
import Slideshow.Description.Interpreter
import Slideshow.Description.Reader
import Slideshow.Description.Reading
import Slideshow.Description.Source
import Slideshow.Description.Written
import Slideshow.Files
import Slideshow.Json.Basic
import Slideshow.Json.Writer
import Slideshow.Log
import Slideshow.Main
import Slideshow.Number.Binary64
import Slideshow.Number.Decimal
import Slideshow.Number.Rounding
import Slideshow.Number.Scalar
import Slideshow.Number.Shortest
import Slideshow.Number.Vec
import Slideshow.Path
import Slideshow.Playback.Basic
import Slideshow.Playback.Loop
import Slideshow.Playback.Overlay
import Slideshow.Proofs.Canvas.Cache
import Slideshow.Proofs.Canvas.Edges
import Slideshow.Proofs.Canvas.Memory
import Slideshow.Proofs.Canvas.Painting
import Slideshow.Proofs.Canvas.Sessions
import Slideshow.Proofs.CommandLine.Check
import Slideshow.Proofs.Cursor.Blanks
import Slideshow.Proofs.Cursor.Coordinates
import Slideshow.Proofs.Cursor.Displacement
import Slideshow.Proofs.Cursor.Extension
import Slideshow.Proofs.Cursor.LineEnds
import Slideshow.Proofs.Cursor.Operations
import Slideshow.Proofs.Cursor.Relocation
import Slideshow.Proofs.Cursor.Scanning
import Slideshow.Proofs.Cursor.Skipping
import Slideshow.Proofs.Cursor.Taken
import Slideshow.Proofs.Cursor.Taking
import Slideshow.Proofs.Description.Acceptance
import Slideshow.Proofs.Description.Atomicity
import Slideshow.Proofs.Description.Composition
import Slideshow.Proofs.Description.Decimals
import Slideshow.Proofs.Description.Derivation
import Slideshow.Proofs.Description.Extension
import Slideshow.Proofs.Description.Grammar
import Slideshow.Proofs.Description.LineEnds
import Slideshow.Proofs.Description.Loops
import Slideshow.Proofs.Description.Magnitude
import Slideshow.Proofs.Description.Openings
import Slideshow.Proofs.Description.Outcome
import Slideshow.Proofs.Description.Overlong
import Slideshow.Proofs.Description.Phrases
import Slideshow.Proofs.Description.Relocation
import Slideshow.Proofs.Description.RoundTrip
import Slideshow.Proofs.Description.Rows
import Slideshow.Proofs.Description.Scale
import Slideshow.Proofs.Description.Schedule
import Slideshow.Proofs.Description.Screen
import Slideshow.Proofs.Description.Strictness
import Slideshow.Proofs.Description.Strokes
import Slideshow.Proofs.Description.Values
import Slideshow.Proofs.Description.WordOrder
import Slideshow.Proofs.Number.Bounds
import Slideshow.Proofs.Number.Differences
import Slideshow.Proofs.Number.Grid
import Slideshow.Proofs.Number.Operations
import Slideshow.Proofs.Number.Packed
import Slideshow.Proofs.Number.Quotients
import Slideshow.Proofs.Number.Rounding
import Slideshow.Proofs.Number.Unpacked
import Slideshow.Proofs.Playback.Calls
import Slideshow.Proofs.Playback.Folding
import Slideshow.Proofs.Playback.LoopNumber
import Slideshow.Proofs.Playback.Reached
import Slideshow.Proofs.Playback.Recurrence
import Slideshow.Proofs.Playback.Views
import Slideshow.Proofs.Playback.Wraps
import Slideshow.Proofs.Remote.Commands
import Slideshow.Proofs.Timeline.Additions
import Slideshow.Proofs.Timeline.Finite
import Slideshow.Proofs.Timeline.Opacity
import Slideshow.Proofs.Timeline.Sources
import Slideshow.Proofs.Viewer.Actions
import Slideshow.Proofs.Viewer.Alone
import Slideshow.Proofs.Viewer.Changes
import Slideshow.Proofs.Viewer.Conservation
import Slideshow.Proofs.Viewer.Interleaving
import Slideshow.Proofs.Viewer.Order
import Slideshow.Proofs.Viewer.Passes
import Slideshow.Proofs.Viewer.Soundtrack
import Slideshow.Proofs.Viewer.Steps
import Slideshow.Proofs.Viewer.Textures
import Slideshow.Remote.Handler
import Slideshow.Remote.Host
import Slideshow.Remote.Page
import Slideshow.Remote.Request
import Slideshow.Remote.Service
import Slideshow.Remote.Status
import Slideshow.Remote.Target
import Slideshow.Settings
import Slideshow.Text.Blank
import Slideshow.Text.Filling
import Slideshow.Text.Hex
import Slideshow.Text.Integer
import Slideshow.Text.LineEnding
import Slideshow.Text.Placeholder
import Slideshow.Text.Printable
import Slideshow.Text.Quoted
import Slideshow.Text.Split
import Slideshow.Text.Template
import Slideshow.Text.Utf8
import Slideshow.Text.WordChar
import Slideshow.Timeline.Basic
import Slideshow.Timeline.Item
import Slideshow.Timeline.Table
import Slideshow.Viewer
