import VectorFetch.Main
import VectorFetch.Proofs.Artifact
import VectorFetch.Proofs.Artifact.Limits
import VectorFetch.Proofs.Json.Content
import VectorFetch.Proofs.Json.Truncation
import VectorFetch.Proofs.Files
import VectorFetch.Proofs.Site
import VectorFetch.Proofs.Writable
import VectorFetch.Proofs.Http.Redirect
import VectorFetch.Proofs.Batch.Fetch
import VectorFetch.Proofs.Batch.Body
import VectorFetch.Proofs.Batch.Run
import VectorFetch.Proofs.Batch.Rerun
import VectorFetch.Proofs.Files.Edits
import VectorFetch.Proofs.History
import VectorFetch.Proofs.Batch.Frame
import VectorFetch.Proofs.Batch.Progress
import VectorFetch.Proofs.Batch.Allowance
import VectorFetch.Proofs.Batch.Story
import VectorFetch.Proofs.Toml.Section
import VectorFetch.Proofs.Config.RoundTrip
import VectorFetch.Proofs.Toml.Distinct
import VectorFetch.Proofs.Config.Fields
import VectorFetch.Proofs.Files.Directories
import VectorFetch.Proofs.Growth
import VectorFetch.Proofs.Session
import VectorFetch.Proofs.Program
import VectorFetch.Proofs.Independence
import VectorFetch.Proofs.Arguments
import VectorFetch.Proofs.Files.AtOnce
import VectorFetch.Proofs.Batch.Stages
import VectorFetch.Proofs.Url.RoundTrip
import VectorFetch.Proofs.Source.Normal
import VectorFetch.Proofs.Config.Mistyped
import VectorFetch.Proofs.Files.Siblings
import VectorFetch.Proofs.Source.Scheme
import VectorFetch.Proofs.Batch.Offer
import VectorFetch.Proofs.Batch.Order
import VectorFetch.Proofs.Http.Chunk
import VectorFetch.Proofs.Http.Framing
import VectorFetch.Proofs.Batch.Framing
import VectorFetch.Proofs.Json.Scope
import VectorFetch.Proofs.Json.Lines
import VectorFetch.Proofs.Artifact.Lines
import VectorFetch.Proofs.Key.Cursor
import VectorFetch.Proofs.Key.Text
import VectorFetch.Proofs.Failure.Chain
import VectorFetch.Proofs.Failure.Causes
