import JitAccess.Proofs.Failure.Report
import JitAccess.Proofs.Listing.Ending
import JitAccess.Proofs.Listing.Consuming
import JitAccess.Proofs.Policy.Completeness
import JitAccess.Proofs.Policy.Drafting
import JitAccess.Proofs.Policy.Decoding
import JitAccess.Proofs.Policy.RoundTrip
import JitAccess.Proofs.Session.Confinement
import JitAccess.Proofs.Session.Discretion
import JitAccess.Proofs.Session.Fields
import JitAccess.Proofs.Session.Interleaving
import JitAccess.Proofs.Failure.Cutting
import JitAccess.Proofs.Failure.Classifying
import JitAccess.Proofs.Policy.Calling
import JitAccess.Proofs.Url.Query
import JitAccess.Proofs.Client.Querying
import JitAccess.Proofs.Client.Expansion
import JitAccess.Proofs.Client.Tracing
import JitAccess.Proofs.Failure.Overriding
import JitAccess.Proofs.Failure.Nesting
import JitAccess.Proofs.Listing.Tracing
import JitAccess.Proofs.Run.Backoff
import JitAccess.Proofs.Session.Tracing
