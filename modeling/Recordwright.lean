import Recordwright.Derive.Code
import Recordwright.Memo.Call
import Recordwright.Proofs.AssignedSet
import Recordwright.Proofs.Offender
import Recordwright.Proofs.Positions
import Recordwright.Proofs.Derive.Agreement
import Recordwright.Proofs.History
import Recordwright.Session
import Recordwright.Trial.Session
import Recordwright.Proofs.FreshBuild
import Recordwright.Proofs.Derive.Calls
import Recordwright.Proofs.Derive.Names
import Recordwright.Proofs.Memoized
import Recordwright.Proofs.Steps
import Recordwright.Proofs.ByName
import Recordwright.Proofs.Described
import Recordwright.Proofs.DeclarationOrder
import Recordwright.Proofs.Overlap
import Recordwright.Proofs.Confluence
import Recordwright.Proofs.Binary64.Rounding
import Recordwright.Proofs.Binary64.Shortest
import Recordwright.Proofs.Json.Number
import Recordwright.Proofs.Json.Tree
import Recordwright.Proofs.Value.Json
import Recordwright.Proofs.Exchange
import Recordwright.Proofs.Reports
import Recordwright.Proofs.Source.Spelled
import Recordwright.Proofs.Derive.Failures
import Recordwright.Proofs.Json.Decimal
import Recordwright.Proofs.Value.Numbers
import Recordwright.Proofs.Json.Grammar
import Recordwright.Proofs.Json.Spelled
import Recordwright.Proofs.Json.Skipped
import Recordwright.Proofs.Json.Members
import Recordwright.Proofs.Json.Written
import Recordwright.Proofs.Descriptions
import Recordwright.Proofs.Derive.Alignment
import Recordwright.Proofs.Derive.Spellings
import Recordwright.Proofs.Field.Recased
import Recordwright.Proofs.Derive.Settings
import Recordwright.Proofs.Derive.Spacing
import Recordwright.Proofs.Field.SnakeCase
import Recordwright.Proofs.EqualSchemas
import Recordwright.Proofs.Json.Reading
import Recordwright.Proofs.Json.ReadBack
import Recordwright.Proofs.DescriptionText
