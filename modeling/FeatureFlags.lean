import FeatureFlags.Attribute.Reference
import FeatureFlags.Attribute.Value
import FeatureFlags.BigSegment
import FeatureFlags.Binary.Format
import FeatureFlags.Binary.Shortest
import FeatureFlags.Bucket
import FeatureFlags.Clause.Basic
import FeatureFlags.Clause.Operator
import FeatureFlags.Context.Basic
import FeatureFlags.Context.Builder
import FeatureFlags.Context.Kind
import FeatureFlags.Digest.Base64
import FeatureFlags.Digest.Message
import FeatureFlags.Digest.Sha1
import FeatureFlags.Digest.Sha256
import FeatureFlags.Evaluation.Catalog
import FeatureFlags.Evaluation.Detail
import FeatureFlags.Evaluation.Flag
import FeatureFlags.Evaluation.Segment
import FeatureFlags.Evaluation.State
import FeatureFlags.Flag.Basic
import FeatureFlags.Flag.Rule
import FeatureFlags.Flag.Value
import FeatureFlags.Json.Decoder
import FeatureFlags.Json.Document
import FeatureFlags.Json.Number
import FeatureFlags.Json.Tree
import FeatureFlags.Json.Value
import FeatureFlags.Pattern.Basic
import FeatureFlags.Pattern.Bracket
import FeatureFlags.Pattern.Escape
import FeatureFlags.Pattern.Meaning
import FeatureFlags.Pattern.Reader
import FeatureFlags.Pattern.Regex
import FeatureFlags.Pattern.Tree
import FeatureFlags.Proofs.Entries
import FeatureFlags.Proofs.Evaluation.Checks
import FeatureFlags.Proofs.Evaluation.Coherence
import FeatureFlags.Proofs.Evaluation.Invariants
import FeatureFlags.Proofs.Evaluation.Composition
import FeatureFlags.Proofs.Evaluation.Cycles
import FeatureFlags.Proofs.Evaluation.Moments
import FeatureFlags.Proofs.Evaluation.Nesting
import FeatureFlags.Proofs.Evaluation.Running
import FeatureFlags.Proofs.Evaluation.Termination
import FeatureFlags.Rollout
import FeatureFlags.Segment.Basic
import FeatureFlags.Store
import FeatureFlags.Stream.Address
import FeatureFlags.Stream.Backoff
import FeatureFlags.Stream.Body
import FeatureFlags.Stream.Error
import FeatureFlags.Stream.EventStream
import FeatureFlags.Stream.EventParser
import FeatureFlags.Synchronizer.Basic
import FeatureFlags.Synchronizer.Run
import FeatureFlags.Text.Scan
import FeatureFlags.Text.Utf8
import FeatureFlags.Timestamp
import FeatureFlags.Unicode.CaseFolding
import FeatureFlags.Unicode.Category
import FeatureFlags.Unicode.CharSet
import FeatureFlags.Unicode.CodeSet
import FeatureFlags.Unicode.Property
import FeatureFlags.Unicode.Runs
import FeatureFlags.Unicode.Script
import FeatureFlags.Update
import FeatureFlags.Url.Basic
import FeatureFlags.Url.Domain
import FeatureFlags.Url.Error
import FeatureFlags.Url.Host
import FeatureFlags.Url.Punycode
import FeatureFlags.Url.Reader
import FeatureFlags.Version
import FeatureFlags.Proofs.Store.Convergence
import FeatureFlags.Proofs.Stream.Chunking
import FeatureFlags.Proofs.Synchronizer.Delivery
import FeatureFlags.Proofs.Synchronizer.Status
import FeatureFlags.Proofs.Synchronizer.Clock
import FeatureFlags.Proofs.Evaluation.Queries
import FeatureFlags.Proofs.Json.Integers
import FeatureFlags.Proofs.Json.Records
import FeatureFlags.Proofs.Json.Codecs
import FeatureFlags.Proofs.Codec.Values
import FeatureFlags.Proofs.Codec.Rules
import FeatureFlags.Proofs.Codec.Flags
import FeatureFlags.Proofs.Binary.Rounding
import FeatureFlags.Proofs.Binary.Values
import FeatureFlags.Proofs.Codec.Numbers
import FeatureFlags.Proofs.Codec.RoundTrip
import FeatureFlags.Proofs.Json.Continuing
import FeatureFlags.Proofs.Json.Alike
import FeatureFlags.Proofs.Codec.Steady
import FeatureFlags.Proofs.Stream.Payloads
import FeatureFlags.Proofs.Binary.Arithmetic
import FeatureFlags.Proofs.Binary.Decimals
import FeatureFlags.Proofs.Binary.RoundingTwice
import FeatureFlags.Proofs.Json.Decimals
import FeatureFlags.Proofs.Codec.Durable
import FeatureFlags.Proofs.Clause.Prepared
import FeatureFlags.Proofs.Evaluation.PlainReading
import FeatureFlags.Proofs.Evaluation.Trace
import FeatureFlags.Proofs.Store.Events
import FeatureFlags.Proofs.Evaluation.Health
import FeatureFlags.Proofs.Text.Utf8
import FeatureFlags.Proofs.Stream.Writing
import FeatureFlags.Proofs.Attribute.Paths
import FeatureFlags.Proofs.Evaluation.Frames
import FeatureFlags.Proofs.Evaluation.PostOrder
import FeatureFlags.Proofs.Evaluation.Stages
import FeatureFlags.Proofs.Clause.Negation
import FeatureFlags.Proofs.Clause.Entities
import FeatureFlags.Proofs.Segment.KeyLists
import FeatureFlags.Proofs.Binary.Operations
import FeatureFlags.Proofs.Rollout.Choices
import FeatureFlags.Proofs.Rollout.Buckets
import FeatureFlags.Proofs.Rollout.Shares
import FeatureFlags.Proofs.Evaluation.Reordering
import FeatureFlags.Proofs.Rollout.Ramping
import FeatureFlags.Proofs.Context.Attributes
import FeatureFlags.Proofs.Context.Combining
import FeatureFlags.Proofs.Evaluation.Targets
import FeatureFlags.Proofs.Stream.Delays
import FeatureFlags.Proofs.Stream.Requests
import FeatureFlags.Proofs.Codec.Alternatives
import FeatureFlags.Proofs.Codec.Tolerance
import FeatureFlags.Proofs.Text.Scan
import FeatureFlags.Proofs.Version.Order
import FeatureFlags.Proofs.Version.Reading
import FeatureFlags.Proofs.Clause.Versions
import FeatureFlags.Proofs.Url.Paths
import FeatureFlags.Proofs.Url.Origins
import FeatureFlags.Proofs.Stream.Address
