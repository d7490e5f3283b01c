import CallAtlas.Address
import CallAtlas.Dot
import CallAtlas.Folder
import CallAtlas.Graph.Basic
import CallAtlas.Graph.Lemmas
import CallAtlas.Graph.Snapshot
import CallAtlas.Graph.Symbol
import CallAtlas.Json.Reader
import CallAtlas.Json.Record
import CallAtlas.Json.Value
import CallAtlas.Listing
import CallAtlas.OrderedSet
import CallAtlas.Path.Basic
import CallAtlas.Path.PathSet
import CallAtlas.Path.Search
import CallAtlas.Pattern
import CallAtlas.Predicate.Basic
import CallAtlas.Predicate.Field
import CallAtlas.Proofs.Graph.Building
import CallAtlas.Proofs.Graph.Chain
import CallAtlas.Proofs.Graph.Failure
import CallAtlas.Proofs.OrderedSet
import CallAtlas.Proofs.Outcome
import CallAtlas.Proofs.Path.Agreement
import CallAtlas.Proofs.Path.Complete
import CallAtlas.Proofs.Path.Listing
import CallAtlas.Proofs.Path.Shortest
import CallAtlas.Proofs.Path.Simple
import CallAtlas.Proofs.Path.Within
import CallAtlas.Proofs.Predicate.Filter
import CallAtlas.Proofs.Predicate.Inquiry
import CallAtlas.Proofs.Predicate.Relationship
import CallAtlas.Proofs.SymbolSet.Answers
import CallAtlas.Proofs.SymbolSet.Drawn
import CallAtlas.Proofs.SymbolSet.Reachability
import CallAtlas.QueryConfig
import CallAtlas.QueryError
import CallAtlas.Regex.Basic
import CallAtlas.Regex.Bracket
import CallAtlas.Regex.ByteSequence
import CallAtlas.Regex.ClassLayout
import CallAtlas.Regex.Expr
import CallAtlas.Regex.Footprint
import CallAtlas.Regex.LiteralTree
import CallAtlas.Regex.Matcher
import CallAtlas.Regex.Parser
import CallAtlas.Regex.Property
import CallAtlas.Regex.Scan
import CallAtlas.Regex.Shape
import CallAtlas.Regex.Size
import CallAtlas.Session.Basic
import CallAtlas.Session.Build
import CallAtlas.Session.Expr
import CallAtlas.Session.Query
import CallAtlas.SymbolSet.Basic
import CallAtlas.SymbolSet.Closure
import CallAtlas.Text.Case
import CallAtlas.Text.CharClass
import CallAtlas.Text.CharSet
import CallAtlas.Text.Fields
import CallAtlas.Text.FilePath
import CallAtlas.Text.Quoted
import CallAtlas.Unicode.Age
import CallAtlas.Unicode.CaseFolding
import CallAtlas.Unicode.CaseMapping
import CallAtlas.Unicode.Category
import CallAtlas.Unicode.CodeMap
import CallAtlas.Unicode.Property
import CallAtlas.Unicode.Recent
import CallAtlas.Unicode.Script
import CallAtlas.Unicode.ScriptExtension
import CallAtlas.Unicode.Segmentation
import CallAtlas.Proofs.Graph.Bookkeeping
import CallAtlas.Proofs.Regex.Anchoring
import CallAtlas.Proofs.Regex.Counts
import CallAtlas.Proofs.Predicate.Selection
import CallAtlas.Proofs.Grouping
import CallAtlas.Proofs.Graph.RoundTrip
import CallAtlas.Proofs.Json.Token
import CallAtlas.Proofs.Json.Spelling
import CallAtlas.Proofs.Json.Layout
import CallAtlas.Proofs.Json.Lossless
import CallAtlas.Proofs.Path.Obtained
import CallAtlas.Proofs.SymbolSet.Freshness
import CallAtlas.Proofs.SymbolSet.Algebra
import CallAtlas.Proofs.Predicate.EntryPoints
import CallAtlas.Proofs.Session.Native
import CallAtlas.Proofs.Path.Unique
import CallAtlas.Proofs.Predicate.Noting
import CallAtlas.Proofs.Predicate.FilterAlgebra
import CallAtlas.Proofs.SymbolSet.ClosureLaws
import CallAtlas.Proofs.Graph.DisjointUnion
import CallAtlas.Proofs.SymbolSet.Documents
import CallAtlas.Proofs.Path.Preorder
import CallAtlas.Proofs.Path.Slice
import CallAtlas.Proofs.Text.Fields
import CallAtlas.Proofs.Address.Grammar
import CallAtlas.Proofs.Address.Covering
import CallAtlas.Proofs.Predicate.Kinds
import CallAtlas.Proofs.SymbolSet.Sorting
import CallAtlas.Proofs.SymbolSet.BreadthFirst
import CallAtlas.Proofs.SymbolSet.InPlace
import CallAtlas.Proofs.Dot.Drawing
import CallAtlas.Proofs.Graph.Warnings
import CallAtlas.Proofs.Path.Rounds
import CallAtlas.Proofs.Predicate.ItemOrder
import CallAtlas.Proofs.Dot.Unescape
