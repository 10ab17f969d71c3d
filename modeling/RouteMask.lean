import RouteMask.Config.Load
import RouteMask.Proofs.Cache.Linearization
import RouteMask.Proofs.Config.Load
import RouteMask.Proofs.Mask.Escaping
import RouteMask.Proofs.Mask.PathColons
import RouteMask.Proofs.Mask.Rooted
import RouteMask.Proofs.Mask.Wildcard
import RouteMask.Proofs.Regex.Embedding
import RouteMask.Proofs.Request.Expansion
import RouteMask.Proofs.Request.Glob
import RouteMask.Proofs.Request.Literal
import RouteMask.Proofs.Request.Query
import RouteMask.Proofs.Request.Relative
import RouteMask.Proofs.Request.Repetition
import RouteMask.Proofs.Request.SchemePort
import RouteMask.Proofs.Template.Captured
import RouteMask.Proofs.Template.Groups
import RouteMask.Proofs.Template.Names
import RouteMask.Proofs.Template.Repeated
import RouteMask.Proofs.Url.Directory
import RouteMask.Proofs.Url.Location
import RouteMask.Proofs.Text.Lower
import RouteMask.Proofs.Cache.Log
import RouteMask.Proofs.Url.Reference
import RouteMask.Proofs.Mask.Inside
import RouteMask.Proofs.Config.Order
import RouteMask.Proofs.Config.Refusal
import RouteMask.Proofs.Config.Shape
import RouteMask.Proofs.Mask.Marks
import RouteMask.Proofs.Template.Delimiter
import RouteMask.Proofs.Url.Kept
