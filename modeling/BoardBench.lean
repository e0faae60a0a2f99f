import BoardBench.CommandLine.Arguments
import BoardBench.CommandLine.Portless
import BoardBench.CommandLine.Run
import BoardBench.Configuration.Basic
import BoardBench.Configuration.Reader
import BoardBench.Files.Tree
import BoardBench.Main
import BoardBench.Proofs.Stream.Journal
import BoardBench.Scenario.Builtin
import BoardBench.Scenario.Run
import BoardBench.Scenario.Script
import BoardBench.Simulation.World
import BoardBench.Suite.Run
import BoardBench.Proofs.Stream.Retention
import BoardBench.Proofs.Stream.Search
import BoardBench.Proofs.Stream.Usage
import BoardBench.Proofs.Board.Alike
import BoardBench.Proofs.Board.Waiting
import BoardBench.Proofs.Stream.Window
import BoardBench.Proofs.Scenario.Steps
import BoardBench.Proofs.Stream.Pair
import BoardBench.Proofs.Scenario.Isolation
import BoardBench.Proofs.Scenario.Visits
import BoardBench.Proofs.Scenario.Window
import BoardBench.Proofs.Line.Printed
import BoardBench.Proofs.Simulation.Reference
import BoardBench.Proofs.Simulation.World
import BoardBench.Proofs.Simulation.Attached
import BoardBench.Proofs.Simulation.Followed
import BoardBench.Proofs.Simulation.Commanded
import BoardBench.Proofs.Simulation.Drained
import BoardBench.Proofs.Simulation.Steps
import BoardBench.Proofs.Simulation.Refinement
import BoardBench.Proofs.Stream.Waking
import BoardBench.Proofs.Stream.Ranking
import BoardBench.Proofs.Board.Requests
import BoardBench.Proofs.Scenario.Order
import BoardBench.Proofs.Board.Opening
import BoardBench.Proofs.Suite.Accounts
import BoardBench.Proofs.Board.Live
import BoardBench.Proofs.Suite.Failures
import BoardBench.Proofs.Stream.History
import BoardBench.Proofs.Board.Course
import BoardBench.Proofs.Board.Transmission
import BoardBench.Proofs.Board.Forgetting
import BoardBench.Proofs.Board.Lasting
import BoardBench.Proofs.Board.Lifecycle
import BoardBench.Proofs.Board.Succession
import BoardBench.Proofs.Suite.Attempts
import BoardBench.Proofs.CommandLine.Contract
import BoardBench.Proofs.Link.Tandem
import BoardBench.Proofs.Board.Stands
import BoardBench.Proofs.Board.Alone
import BoardBench.Proofs.Board.Staged
import BoardBench.Proofs.Scenario.Staged
import BoardBench.Proofs.Suite.Separation
import BoardBench.Proofs.Stream.Callers
import BoardBench.Proofs.Line.Segments
import BoardBench.Proofs.Line.Interspersed
import BoardBench.Proofs.Scenario.Frame
import BoardBench.Proofs.Line.Clean
import BoardBench.Proofs.Stream.Monotone
import BoardBench.Proofs.Link.Transcript
import BoardBench.Proofs.Link.Sending
import BoardBench.Proofs.Link.Retrying
import BoardBench.Proofs.Board.FailedAttempts
import BoardBench.Proofs.Simulation.Writing
import BoardBench.Proofs.Simulation.Deeds
import BoardBench.Proofs.Simulation.Output
import BoardBench.Proofs.Simulation.Deadline
import BoardBench.Proofs.Board.Hushed
import BoardBench.Proofs.Scenario.Reached
import BoardBench.Proofs.Scenario.Reordering
import BoardBench.Proofs.Configuration.Rules
import BoardBench.Proofs.Scenario.Script
import BoardBench.Proofs.Scenario.Prompted
import BoardBench.Proofs.CommandLine.Defaults
