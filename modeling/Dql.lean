import Dql.Main
import Dql.Proofs.Authorization.Confirmation
import Dql.Proofs.Parsed.Conversion
import Dql.Proofs.Request.Calls
import Dql.Proofs.Text.Lookup
import Dql.Proofs.Render.Unquoted
import Dql.Proofs.Authorization.Pinning
import Dql.Proofs.Text.Normalization
import Dql.Proofs.Query.Sameness
import Dql.Proofs.Request.Template
import Dql.Proofs.Render.Binding
import Dql.Proofs.Render.Unambiguous
import Dql.Proofs.Request.Fallbacks
import Dql.Proofs.Authorization.Chain
import Dql.Proofs.Render.Values
import Dql.Proofs.Request.Codec
import Dql.Proofs.Authorization.Parameters
import Dql.Proofs.Render.Literals
import Dql.Proofs.Render.Pattern
import Dql.Proofs.Render.FilterText
import Dql.Proofs.Render.Operator
import Dql.Proofs.Response.Stability
import Dql.Proofs.Render.Faults
import Dql.Proofs.Render.Outline
import Dql.Proofs.Render.FacetParts
import Dql.Proofs.Render.LeafArguments
import Dql.Proofs.Render.Attributes
import Dql.Proofs.Authorization.Path
import Dql.Proofs.Uid.Grammar
import Dql.Proofs.Text.Verbatim
import Dql.Proofs.Difference.Trees
import Dql.Proofs.Query.FreeForm
import Dql.Proofs.Render.Brackets
