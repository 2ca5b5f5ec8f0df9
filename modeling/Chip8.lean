import Chip8.Arithmetic
import Chip8.Bytes
import Chip8.Clock
import Chip8.CommandLine.Arguments
import Chip8.CommandLine.Command
import Chip8.Config.Basic
import Chip8.Config.Layers
import Chip8.Config.Load
import Chip8.Config.Reference
import Chip8.Decimal.Binary
import Chip8.Decimal.Notation
import Chip8.Decimal.Read
import Chip8.Decimal.Shortest
import Chip8.Display
import Chip8.Failure
import Chip8.Fault
import Chip8.Files
import Chip8.Font
import Chip8.Frontend.Basic
import Chip8.Frontend.Headless
import Chip8.Frontend.Keyboard
import Chip8.Frontend.Layout
import Chip8.Frontend.Surface
import Chip8.Frontend.Terminal
import Chip8.Frontend.Window
import Chip8.ImageFile.Name
import Chip8.ImageFile.Png
import Chip8.Instruction
import Chip8.Log
import Chip8.LogLevel
import Chip8.Machine.Basic
import Chip8.Machine.Cycle
import Chip8.Machine.Execute
import Chip8.Main
import Chip8.Palette
import Chip8.Picture
import Chip8.Proofs.Accounting
import Chip8.Proofs.Atomicity
import Chip8.Proofs.BlockStream
import Chip8.Proofs.Bytes
import Chip8.Proofs.CallStack
import Chip8.Proofs.Channels
import Chip8.Proofs.DecimalScalars
import Chip8.Proofs.DeviceLifecycle
import Chip8.Proofs.Dispatch
import Chip8.Proofs.Drawing
import Chip8.Proofs.Execution
import Chip8.Proofs.ExitCode
import Chip8.Proofs.FailingLayers
import Chip8.Proofs.FaultStability
import Chip8.Proofs.FlawlessLayers
import Chip8.Proofs.Frame
import Chip8.Proofs.FrameOutcome
import Chip8.Proofs.HeadlessRuns
import Chip8.Proofs.KeyHold
import Chip8.Proofs.KeyWait
import Chip8.Proofs.LayerConflicts
import Chip8.Proofs.LayeredSettings
import Chip8.Proofs.Masks
import Chip8.Proofs.MemoryFootprint
import Chip8.Proofs.OpcodeAgreement
import Chip8.Proofs.OpcodeTable
import Chip8.Proofs.Outcomes
import Chip8.Proofs.Painting
import Chip8.Proofs.PlayedFrames
import Chip8.Proofs.ProgramImage
import Chip8.Proofs.ProgressBar
import Chip8.Proofs.RandomDraws
import Chip8.Proofs.Reachability
import Chip8.Proofs.Recording
import Chip8.Proofs.Redrawing
import Chip8.Proofs.RegisterArithmetic
import Chip8.Proofs.RegisterTransfer
import Chip8.Proofs.RejectedSettings
import Chip8.Proofs.Renderers
import Chip8.Proofs.RunawayCounter
import Chip8.Proofs.Runs
import Chip8.Proofs.SessionClosure
import Chip8.Proofs.SessionCoupling
import Chip8.Proofs.SessionTrace
import Chip8.Proofs.Settings
import Chip8.Proofs.SortedSet
import Chip8.Proofs.SpriteAlgebra
import Chip8.Proofs.Startup
import Chip8.Proofs.SteppedFrames
import Chip8.Proofs.TimerHistory
import Chip8.Proofs.Timing
import Chip8.Proofs.TypedChunks
import Chip8.Proofs.TypedTokens
import Chip8.Proofs.VideoFrames
import Chip8.Proofs.VideoImages
import Chip8.Proofs.VideoResources
import Chip8.Proofs.VirtualScreen
import Chip8.Proofs.WindowKeys
import Chip8.Proofs.WordLines
import Chip8.Proofs.WordMeanings
import Chip8.Proofs.WrittenSettings
import Chip8.Random.Source
import Chip8.Random.Threefry
import Chip8.Scripted.Rehearsal
import Chip8.Scripted.World
import Chip8.Session.Desk
import Chip8.Session.Event
import Chip8.Session.FrameSupply
import Chip8.Session.Headless
import Chip8.Session.Run
import Chip8.Session.Stats
import Chip8.SortedSet
import Chip8.Statistics
import Chip8.Text.Column
import Chip8.Text.Digit
import Chip8.Text.Integer
import Chip8.Text.Numeral
import Chip8.Text.Printable
import Chip8.Text.Quoted
import Chip8.Text.Space
import Chip8.Text.Unicode
import Chip8.Text.UpperCase
import Chip8.Value
import Chip8.Video
import Chip8.Word
import Chip8.Yaml.Document
import Chip8.Yaml.Leaf
import Chip8.Yaml.Node
import Chip8.Yaml.Place
import Chip8.Yaml.Scalar
