import ApiToolbox.Main
import ApiToolbox.Proofs.Body.Pairs
import ApiToolbox.Proofs.Body.Text
import ApiToolbox.Proofs.FileTree
import ApiToolbox.Proofs.Index.Entrywise
import ApiToolbox.Proofs.Index.Transparency
import ApiToolbox.Proofs.InputSchema
import ApiToolbox.Proofs.InputSchema.Conforming
import ApiToolbox.Proofs.InputSchema.Idempotent
import ApiToolbox.Proofs.InputSchema.Numbers
import ApiToolbox.Proofs.Reference
import ApiToolbox.Proofs.Registry.Change
import ApiToolbox.Proofs.Registry.Complete
import ApiToolbox.Proofs.RequestUrl.Order
import ApiToolbox.Proofs.RequestUrl.Query
import ApiToolbox.Proofs.RequestUrl.Shape
import ApiToolbox.Proofs.Response.Data
import ApiToolbox.Proofs.Response.Headers
import ApiToolbox.Proofs.Template.Parts
import ApiToolbox.Proofs.ToolName.Rule
import ApiToolbox.Proofs.ToolName.Words
import ApiToolbox.Proofs.Toolbox.Agreement
import ApiToolbox.Proofs.Toolbox.Call
import ApiToolbox.Proofs.Toolbox.Listing
import ApiToolbox.Proofs.Toolbox.Query
import ApiToolbox.Proofs.Toolbox.Startup
import ApiToolbox.Proofs.Toolbox.Token
import ApiToolbox.Proofs.Discovery
import ApiToolbox.Proofs.RequestUrl.Base
import ApiToolbox.Proofs.Reference.Bound
import ApiToolbox.Proofs.Reference.Cycle
import ApiToolbox.Proofs.Reference.Versions
import ApiToolbox.Proofs.RequestUrl.Conversion
