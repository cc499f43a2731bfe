import RightSizing.Deploy.Target
import RightSizing.Failure
import RightSizing.Framework
import RightSizing.Job.Campaign
import RightSizing.Job.Document
import RightSizing.Job.Kind
import RightSizing.Job.Request
import RightSizing.Job.Run
import RightSizing.Json.Reader
import RightSizing.Json.Writer
import RightSizing.LoadTest.Documents
import RightSizing.LoadTest.Expansion
import RightSizing.Model
import RightSizing.Number.Binary64
import RightSizing.Number.Shortest
import RightSizing.Number.Text
import RightSizing.Proofs.Deploy.Overrides
import RightSizing.Proofs.Deploy.Precedence
import RightSizing.Proofs.Deploy.Recommended
import RightSizing.Proofs.Job.Accounts
import RightSizing.Proofs.Job.Blank
import RightSizing.Proofs.Job.Bookkeeping
import RightSizing.Proofs.Job.Ending
import RightSizing.Proofs.Job.Given
import RightSizing.Proofs.Job.Interleaving
import RightSizing.Proofs.Job.Kind
import RightSizing.Proofs.Job.Log
import RightSizing.Proofs.Job.Replay
import RightSizing.Proofs.Job.Retry
import RightSizing.Proofs.Job.Solid
import RightSizing.Proofs.Job.Steps
import RightSizing.Proofs.Job.Validation
import RightSizing.Proofs.Job.Wire
import RightSizing.Proofs.Json.Values
import RightSizing.Proofs.LoadTest.Configurations
import RightSizing.Proofs.LoadTest.RoundTrip
import RightSizing.Proofs.Number.Count
import RightSizing.Proofs.Number.Finite
import RightSizing.Proofs.Recommendation.Extraction
import RightSizing.Proofs.Recommendation.Grammar
import RightSizing.Proofs.Recommendation.NormalForm
import RightSizing.Proofs.Recommendation.Undeclared
import RightSizing.Proofs.Record.Declared
import RightSizing.Proofs.Record.Forms
import RightSizing.Proofs.Record.Reading
import RightSizing.Proofs.Record.RoundTrip
import RightSizing.Proofs.Session.Answers
import RightSizing.Proofs.Session.Complaint
import RightSizing.Proofs.Session.Footprint
import RightSizing.Proofs.Session.LifeCycle
import RightSizing.Proofs.Session.Protocol
import RightSizing.Proofs.Session.Trace
import RightSizing.Proofs.Settings.Documented
import RightSizing.Proofs.Settings.Keys
import RightSizing.Proofs.Settings.Loading
import RightSizing.Proofs.Settings.Whole
import RightSizing.Proofs.Settings.Written
import RightSizing.Proofs.Sweep.Commuting
import RightSizing.Proofs.Sweep.Insertion
import RightSizing.Proofs.Sweep.OrderedMap
import RightSizing.Proofs.Text.Outline
import RightSizing.Proofs.Text.Quoted
import RightSizing.Recommendation.Basic
import RightSizing.Recommendation.Outcome
import RightSizing.Record.Codec
import RightSizing.Record.DecodeError
import RightSizing.Record.Layout
import RightSizing.Session.Scripted
import RightSizing.Session.Service
import RightSizing.Settings.Basic
import RightSizing.Settings.Conversion
import RightSizing.Settings.Error
import RightSizing.Settings.FileTree
import RightSizing.Settings.KeyPath
import RightSizing.Settings.Loader
import RightSizing.Sweep
import RightSizing.Telemetry.Counter
import RightSizing.Telemetry.Event
import RightSizing.Text.Character
import RightSizing.Text.Lowercase
import RightSizing.Text.Outline
import RightSizing.Text.Quoted
import RightSizing.Text.Unseen
import RightSizing.Toml.Reader
import RightSizing.Toml.Scalar
import RightSizing.Toml.Table
import RightSizing.Value
import RightSizing.Yaml.Block
import RightSizing.Yaml.Cursor
import RightSizing.Yaml.Document
import RightSizing.Yaml.Node
import RightSizing.Yaml.Plain
import RightSizing.Yaml.Quoted
import RightSizing.Yaml.Scan
import RightSizing.Yaml.Tag
import RightSizing.Yaml.Token
import RightSizing.Yaml.Tokens
