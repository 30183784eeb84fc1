import SearchRequest.Proofs.Definition.Construction
import SearchRequest.Proofs.Definition.DefaultSpace
import SearchRequest.Proofs.Definition.Loading
import SearchRequest.Proofs.Definition.Named
import SearchRequest.Proofs.Definition.Runs
import SearchRequest.Proofs.Query.Combination
import SearchRequest.Proofs.Query.Grammar
import SearchRequest.Proofs.Query.Leaves
import SearchRequest.Proofs.Query.Markup
import SearchRequest.Proofs.Query.NormalForm
import SearchRequest.Proofs.Query.Stability
import SearchRequest.Proofs.Query.Verdict
import SearchRequest.Proofs.Request.FreeText
import SearchRequest.Proofs.Request.History
import SearchRequest.Proofs.Request.Meaning
import SearchRequest.Proofs.Stored.Query
