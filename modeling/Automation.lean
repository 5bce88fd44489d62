import Automation.Agent.Choice
import Automation.Dispatch
import Automation.Http.Client
import Automation.Logging.Setup
import Automation.Rehearsal.Handlers
import Automation.Rehearsal.Store
import Automation.Run.Backend
import Automation.Run.Schema
import Automation.Settings.Reader
import Automation.Proofs.Fallible
import Automation.Proofs.Grammar.Derivation
import Automation.Proofs.Grammar.Verdict
import Automation.Proofs.Blueprint.RoundTrip
import Automation.Proofs.Blueprint.Validity
import Automation.Proofs.Blueprint.Soundness
import Automation.Proofs.Blueprint.Statistics
import Automation.Proofs.Blueprint.Storage
import Automation.Proofs.Lexing.Lexemes
import Automation.Proofs.Lexing.Modes
import Automation.Proofs.Literal.Passing
import Automation.Proofs.Substitution.Spans
import Automation.Proofs.Substitution.Simulation
import Automation.Proofs.Text.Classes
import Automation.Proofs.Substitution.Operators
import Automation.Proofs.Json.Characters
import Automation.Proofs.Number.Digits
import Automation.Proofs.Json.RoundTrip
import Automation.Proofs.Lexing.Chunks
import Automation.Proofs.Literal.Lexeme
import Automation.Proofs.Substitution.Words
import Automation.Proofs.Grammar.Relabeling
import Automation.Proofs.Substitution.Replacement
import Automation.Proofs.Substitution.Environment
import Automation.Proofs.Execution.Origin
import Automation.Proofs.Run.Cancellation
import Automation.Proofs.Execution.Composition
import Automation.Proofs.Execution.Frame
import Automation.Proofs.Execution.Blindness
import Automation.Proofs.Run.Discipline
import Automation.Proofs.Blueprint.Loading
import Automation.Proofs.Variables.Resolution
import Automation.Proofs.Execution.Slips
import Automation.Proofs.Execution.Escape
import Automation.Proofs.Json.Writable
import Automation.Proofs.Timestamp.RoundTrip
import Automation.Proofs.Timestamp.Order
import Automation.Proofs.Dispatch.Registration
import Automation.Proofs.Run.Stores
import Automation.Proofs.Run.Listing
import Automation.Proofs.Run.Recording
import Automation.Proofs.Run.StoreChoice
import Automation.Proofs.Execution.Parametricity
import Automation.Proofs.Run.Playing
import Automation.Proofs.Dispatch.Replay
import Automation.Proofs.Dispatch.Telling
import Automation.Proofs.Dispatch.Session
import Automation.Proofs.Dispatch.SessionRecords
import Automation.Proofs.Blueprint.Analysis
import Automation.Proofs.Substitution.Paths
import Automation.Proofs.Execution.Verdict
import Automation.Proofs.Lexing.Slices
import Automation.Proofs.Execution.Rounds
import Automation.Proofs.Execution.Classification
import Automation.Proofs.Blueprint.Places
import Automation.Proofs.Blueprint.Preorder
import Automation.Proofs.Condition.Keywords
import Automation.Proofs.Condition.Comparisons
import Automation.Proofs.Variables.Template
import Automation.Proofs.Agent.Replies
import Automation.Proofs.Logging.Credentials
import Automation.Proofs.Literal.Positional
import Automation.Proofs.Substitution.Quotations
import Automation.Proofs.Dispatch.Turns
import Automation.Proofs.Dispatch.Waiting
import Automation.Proofs.Rehearsal.Script
import Automation.Proofs.Run.Backend
import Automation.Proofs.Run.Schema
import Automation.Proofs.Settings.Reader
import Automation.Proofs.Rehearsal.Handlers
import Automation.Proofs.Logging.Message
import Automation.Proofs.Logging.Setup
import Automation.Proofs.Json.Ascii
import Automation.Proofs.Agent.Chat
import Automation.Proofs.Schema.Field
import Automation.Proofs.Schema.Time
