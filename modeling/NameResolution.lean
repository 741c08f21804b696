import NameResolution.Config.Basic
import NameResolution.Config.Problem
import NameResolution.Config.Reader
import NameResolution.Context
import NameResolution.Decimal.Nearest
import NameResolution.Decimal.Shortest
import NameResolution.DepthTable
import NameResolution.Diagnostic.Description
import NameResolution.Diagnostic.Error
import NameResolution.Diagnostic.Report
import NameResolution.Event
import NameResolution.Natives
import NameResolution.Proofs.Lexical.Scopes
import NameResolution.Proofs.Lexical.Sites
import NameResolution.Proofs.Lexical.Trail
import NameResolution.Resolution
import NameResolution.Run
import NameResolution.Scope.Basic
import NameResolution.Scope.Binding
import NameResolution.Scope.Stack
import NameResolution.Session
import NameResolution.Syntax.Draft
import NameResolution.Syntax.Equality
import NameResolution.Syntax.Numbering
import NameResolution.Syntax.Position
import NameResolution.Syntax.Tree
import NameResolution.Syntax.Ty
import NameResolution.Text.Hidden
import NameResolution.Text.Quoted
import NameResolution.Toml.Blank
import NameResolution.Toml.DateTime
import NameResolution.Toml.Digits
import NameResolution.Toml.Document
import NameResolution.Toml.Number
import NameResolution.Toml.Quoted
import NameResolution.Toml.Reader
import NameResolution.Toml.Table
import NameResolution.Toml.Value
import NameResolution.Walk
import NameResolution.Proofs.Lexical.Coverage
import NameResolution.Proofs.Lexical.Outcomes
import NameResolution.Proofs.Lexical.Settlement
import NameResolution.Proofs.Lexical.Depths
import NameResolution.Proofs.Lexical.Occurrences
import NameResolution.Proofs.Lexical.Skipped
import NameResolution.Proofs.Lexical.Accounting
import NameResolution.Proofs.Frame.Growth
import NameResolution.Proofs.Frame.Regular
import NameResolution.Proofs.Frame.Resolver
import NameResolution.Proofs.Frame.Simulation
import NameResolution.Proofs.Frame.Balance
import NameResolution.Proofs.Frame.Confined
import NameResolution.Proofs.Lexical.Marks
import NameResolution.Proofs.Lexical.Initializers
import NameResolution.Proofs.Lexical.Outside
import NameResolution.Proofs.Run.Lints
import NameResolution.Proofs.Run.Emissions
import NameResolution.Proofs.Walk.Parts
import NameResolution.Proofs.Frame.Openings
import NameResolution.Proofs.Faults.Malformed
import NameResolution.Proofs.Faults.Cut
import NameResolution.Proofs.Walk.Events
import NameResolution.Proofs.Lexical.Meanings
import NameResolution.Proofs.Mutability.Origins
import NameResolution.Proofs.Mutability.Exact
import NameResolution.Proofs.Unused.Status
import NameResolution.Proofs.Unused.Binders
import NameResolution.Proofs.Unused.Advances
import NameResolution.Proofs.Unused.Extents
import NameResolution.Proofs.Unused.Contents
import NameResolution.Proofs.Unused.Reports
import NameResolution.Proofs.Unused.Closing
import NameResolution.Proofs.Unused.Exact
import NameResolution.Proofs.Trace.Levels
import NameResolution.Proofs.Trace.Discipline
import NameResolution.Proofs.Context.Enclosures
import NameResolution.Proofs.Context.Structure
import NameResolution.Proofs.Context.Reserved
import NameResolution.Proofs.Context.Openings
import NameResolution.Proofs.Context.ThisSuper
import NameResolution.Proofs.Session.Ids
import NameResolution.Proofs.Session.Separate
import NameResolution.Proofs.Session.Building
import NameResolution.Proofs.Session.Drawing
import NameResolution.Proofs.Session.Drafts
import NameResolution.Proofs.Session.Independent
import NameResolution.Proofs.Session.NodeIds
import NameResolution.Proofs.Walk.Views
import NameResolution.Proofs.Correspondence.Basic
import NameResolution.Proofs.Correspondence.Scopes
import NameResolution.Proofs.Correspondence.Trees
import NameResolution.Proofs.Correspondence.Renaming
import NameResolution.Proofs.Correspondence.Skeleton
import NameResolution.Proofs.Surroundings.Mentions
import NameResolution.Proofs.Surroundings.Beneath
import NameResolution.Proofs.Surroundings.Constants
import NameResolution.Proofs.Continuation.Appended
import NameResolution.Proofs.Continuation.Settled
import NameResolution.Proofs.Unreachable.Terminators
import NameResolution.Proofs.Lexical.Declaring
import NameResolution.Proofs.Pending.Awaiting
import NameResolution.Proofs.Pending.Arrivals
import NameResolution.Proofs.Pending.Initializing
import NameResolution.Proofs.Declarations.Extents
import NameResolution.Proofs.Pending.SelfReference
import NameResolution.Proofs.Declarations.Places
import NameResolution.Proofs.Declarations.Verdicts
import NameResolution.Proofs.Declarations.Exact
import NameResolution.Proofs.Exchange.Counting
import NameResolution.Proofs.Walk.Altered
import NameResolution.Proofs.Exchange.Commute
import NameResolution.Proofs.Run.Globals
import NameResolution.Proofs.Foreign.Requests
import NameResolution.Proofs.Foreign.Registry
import NameResolution.Proofs.Lexical.Discarded
import NameResolution.Proofs.Redeclaration.Counted
import NameResolution.Proofs.Redeclaration.Rejected
import NameResolution.Proofs.Walk.LeftOut
import NameResolution.Proofs.Redeclaration.Exact
import NameResolution.Proofs.Numbering.Spans
import NameResolution.Proofs.Numbering.PostOrder
import NameResolution.Proofs.Numbering.Production
import NameResolution.Proofs.Numbering.Drafts
import NameResolution.Proofs.Numbering.Exact
import NameResolution.Proofs.Scope.OrderedMap
import NameResolution.Proofs.Scope.Refinement
