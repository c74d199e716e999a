import ObjectGraph.Adapter
import ObjectGraph.Adapter.Bean
import ObjectGraph.Adapter.Indexed
import ObjectGraph.Adapter.Map
import ObjectGraph.Bean
import ObjectGraph.Class
import ObjectGraph.Container
import ObjectGraph.Context
import ObjectGraph.Decimal.Shortest
import ObjectGraph.Decimal.Text
import ObjectGraph.Declaration.Attribute
import ObjectGraph.Declaration.BeanForm
import ObjectGraph.Declaration.Expression
import ObjectGraph.Declaration.Flag
import ObjectGraph.Declaration.FunctionDecl
import ObjectGraph.Declaration.Grammar
import ObjectGraph.Declaration.Item
import ObjectGraph.Declaration.ItemPath
import ObjectGraph.Declaration.MethodBlock
import ObjectGraph.Declaration.Pattern
import ObjectGraph.Declaration.Rest
import ObjectGraph.Declaration.SyntaxError
import ObjectGraph.Declaration.Token
import ObjectGraph.Declaration.Token.Literal
import ObjectGraph.Declaration.Token.Scan
import ObjectGraph.Declaration.TypeDecl
import ObjectGraph.Declaration.TypeExpr
import ObjectGraph.Descriptor
import ObjectGraph.Display
import ObjectGraph.Document
import ObjectGraph.Document.Text
import ObjectGraph.Document.Value
import ObjectGraph.Error
import ObjectGraph.Factory
import ObjectGraph.Integer
import ObjectGraph.Invoker
import ObjectGraph.Key
import ObjectGraph.Manifest
import ObjectGraph.Naming
import ObjectGraph.Navigation
import ObjectGraph.Navigator
import ObjectGraph.Obj.Basic
import ObjectGraph.Obj.Comparison
import ObjectGraph.Obj.Parts
import ObjectGraph.Obj.Printer
import ObjectGraph.Path
import ObjectGraph.Reflector
import ObjectGraph.Proofs.Edit
import ObjectGraph.Proofs.Typing
import ObjectGraph.Sample.Beans
import ObjectGraph.Sample.Members
import ObjectGraph.Sample.Policies
import ObjectGraph.Sample.Schema
import ObjectGraph.Schema
import ObjectGraph.Text.Case
import ObjectGraph.Text.Identifier
import ObjectGraph.Text.Printable
import ObjectGraph.Text.Quoted
import ObjectGraph.Trace
import ObjectGraph.Ty
import ObjectGraph.Ty.Tag
import ObjectGraph.Proofs.Lineage
import ObjectGraph.Proofs.FieldAccess
import ObjectGraph.Proofs.KeyAccess
import ObjectGraph.Proofs.PropertyAccess
import ObjectGraph.Proofs.SegmentAccess
import ObjectGraph.Proofs.Preservation
import ObjectGraph.Proofs.Footprint
import ObjectGraph.Proofs.RoundTrip
import ObjectGraph.Proofs.FailedWrite
import ObjectGraph.Proofs.Declared
import ObjectGraph.Proofs.Frame
import ObjectGraph.Proofs.Composition
import ObjectGraph.Proofs.Creation
import ObjectGraph.Proofs.Rewriting
import ObjectGraph.Proofs.Commutation
import ObjectGraph.Proofs.Lending
import ObjectGraph.Proofs.Clearing
import ObjectGraph.Proofs.Reading
import ObjectGraph.Proofs.Refusal
import ObjectGraph.Proofs.Alikeness
import ObjectGraph.Proofs.Spreading
import ObjectGraph.Proofs.Hiding
import ObjectGraph.Proofs.Invocation
import ObjectGraph.Proofs.Embedding
import ObjectGraph.Proofs.Inheritance
import ObjectGraph.Proofs.KeyText
import ObjectGraph.Proofs.Comparison
import ObjectGraph.Proofs.Splitting
import ObjectGraph.Proofs.Registration
import ObjectGraph.Proofs.KeyOrder
import ObjectGraph.Proofs.MapHistory
import ObjectGraph.Proofs.Caching
import ObjectGraph.Proofs.Resolution
import ObjectGraph.Proofs.Content
import ObjectGraph.Proofs.ContentComparison
import ObjectGraph.Proofs.Fitness
import ObjectGraph.Proofs.Slotted
import ObjectGraph.Proofs.Unrefused
import ObjectGraph.Proofs.Construction
import ObjectGraph.Proofs.Addition
import ObjectGraph.Proofs.Introspection
import ObjectGraph.Proofs.Indexability
import ObjectGraph.Proofs.ReportedType
import ObjectGraph.Proofs.AccessorNames
import ObjectGraph.Proofs.WrittenTypes
import ObjectGraph.Proofs.Signatures
import ObjectGraph.Proofs.DeclaredValues
import ObjectGraph.Proofs.LentType
import ObjectGraph.Proofs.Numerals
import ObjectGraph.Proofs.FlagLists
import ObjectGraph.Proofs.BeanForms
import ObjectGraph.Proofs.Handover
import ObjectGraph.Proofs.DocumentLines
import ObjectGraph.Proofs.PlainNames
import ObjectGraph.Proofs.PackagePaths
