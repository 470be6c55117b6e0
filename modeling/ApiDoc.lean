import ApiDoc.Text.Lowercase
import ApiDoc.Text.Quoted
import ApiDoc.Text.WideUnits
import ApiDoc.Number.Numeral
import ApiDoc.Number.Shortest
import ApiDoc.Dict
import ApiDoc.Json.Printer
import ApiDoc.Json.Body
import ApiDoc.Json.Label
import ApiDoc.Table.Build
import ApiDoc.Document.Reading
import ApiDoc.Document.Correction
import ApiDoc.Document.Composition
import ApiDoc.Settings.Basic
import ApiDoc.Enumeration.Known
import ApiDoc.Text.Base64
import ApiDoc.Http.Script
import ApiDoc.Compilation.Models
import ApiDoc.Compilation.Documentation
import ApiDoc.Server.Basic
import ApiDoc.Main
import ApiDoc.Proofs.Dictionary
import ApiDoc.Proofs.Fragment
import ApiDoc.Proofs.PathStability
import ApiDoc.Proofs.Attempts
import ApiDoc.Proofs.CacheTransparency
import ApiDoc.Proofs.MethodChoice
import ApiDoc.Proofs.OperationCorrection
import ApiDoc.Proofs.Recorrection
import ApiDoc.Proofs.AsciiText
import ApiDoc.Proofs.Columns
import ApiDoc.Proofs.Compilation
import ApiDoc.Proofs.Exchanges
import ApiDoc.Proofs.FinishedTables
import ApiDoc.Proofs.JsonRereading
import ApiDoc.Proofs.ModelsText
import ApiDoc.Proofs.RequestDiscipline
import ApiDoc.Proofs.Endpoints
import ApiDoc.Proofs.ImpliedMethods
import ApiDoc.Document.Template
import ApiDoc.Proofs.Cutting
import ApiDoc.Proofs.Templates
import ApiDoc.Document.Reference
import ApiDoc.Proofs.Composition
import ApiDoc.Proofs.FirstOccurrences
import ApiDoc.Document.Step
import ApiDoc.Proofs.StepSequences
import ApiDoc.Proofs.CorrectionFrame
import ApiDoc.Proofs.CharsetDefects
import ApiDoc.Proofs.UnusableReplies
import ApiDoc.Proofs.DeclaredFailures
import ApiDoc.Proofs.SettledDocument
import ApiDoc.Proofs.Rewriting
import ApiDoc.Proofs.ChunkIndependence
import ApiDoc.Proofs.DeliveredDescendants
import ApiDoc.Proofs.TreeWriting
import ApiDoc.Proofs.Rereading
import ApiDoc.Proofs.Ordering
import ApiDoc.Proofs.GivenTables
import ApiDoc.Proofs.InStep
import ApiDoc.Proofs.Agreement
import ApiDoc.Proofs.Halves
import ApiDoc.Proofs.QueryPaths
import ApiDoc.Proofs.ListedValues
import ApiDoc.Enumeration.Call
import ApiDoc.Proofs.FetchRecord
import ApiDoc.Proofs.ReferenceNames
import ApiDoc.Table.Edit
import ApiDoc.Proofs.TableEdits
import ApiDoc.Proofs.AttributeOrder
import ApiDoc.Proofs.SchemaShapes
import ApiDoc.Proofs.ServiceRoot
import ApiDoc.Proofs.FaithfulRows
import ApiDoc.Proofs.ExportedFile
import ApiDoc.Proofs.BasicHeader
import ApiDoc.Proofs.StatedCredentials
import ApiDoc.Proofs.CanonicalComposition
import ApiDoc.Proofs.ParameterStep
import ApiDoc.Proofs.PathClasses
import ApiDoc.Proofs.IntegerValues
