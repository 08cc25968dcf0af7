import Introspect.CommandLine.Arguments
import Introspect.CommandLine.Basic
import Introspect.Config.Basic
import Introspect.Config.Settings
import Introspect.Error
import Introspect.Files
import Introspect.Grammar.Arguments
import Introspect.Grammar.Arrays
import Introspect.Grammar.Declarations
import Introspect.Grammar.Expressions
import Introspect.Grammar.Functions
import Introspect.Grammar.Input
import Introspect.Grammar.Members
import Introspect.Grammar.Names
import Introspect.Grammar.Parser
import Introspect.Grammar.Primaries
import Introspect.Grammar.Program
import Introspect.Grammar.Source
import Introspect.Grammar.Statements
import Introspect.Grammar.Strings
import Introspect.Grammar.Types
import Introspect.Identifier
import Introspect.Inspect
import Introspect.Layout.Basic
import Introspect.Layout.Token
import Introspect.Locator.Autoload
import Introspect.Locator.Basic
import Introspect.Locator.Stubs
import Introspect.Locator.Table
import Introspect.Main
import Introspect.Namespace
import Introspect.Path
import Introspect.Proofs.CommandLine.ExitCodes
import Introspect.Proofs.Config.Lookup
import Introspect.Proofs.Config.Tables
import Introspect.Proofs.Grammar.Additions
import Introspect.Proofs.Grammar.Bodies
import Introspect.Proofs.Grammar.Parameters
import Introspect.Proofs.Layout.CaseBodies
import Introspect.Proofs.Layout.Composition
import Introspect.Proofs.Layout.Indentation
import Introspect.Proofs.Layout.LeafTexts
import Introspect.Proofs.Layout.Levels
import Introspect.Proofs.Layout.Places
import Introspect.Proofs.Layout.Separation
import Introspect.Proofs.Layout.Spacing
import Introspect.Proofs.Layout.StatementLines
import Introspect.Proofs.Layout.Tokens
import Introspect.Proofs.Locator.Autoload
import Introspect.Proofs.Locator.Chain
import Introspect.Proofs.Locator.FilePaths
import Introspect.Proofs.Locator.Histories
import Introspect.Proofs.Locator.Spelling
import Introspect.Proofs.Locator.Table
import Introspect.Proofs.Reflection.BodyReplacement
import Introspect.Proofs.Reflection.Candidates
import Introspect.Proofs.Reflection.ClassComments
import Introspect.Proofs.Reflection.Comments
import Introspect.Proofs.Reflection.Constants
import Introspect.Proofs.Reflection.Declared
import Introspect.Proofs.Reflection.Generators
import Introspect.Proofs.Reflection.Lookup
import Introspect.Proofs.Reflection.MethodIndex
import Introspect.Proofs.Reflection.Misses
import Introspect.Proofs.Reflection.Namespaces
import Introspect.Proofs.Reflection.ParameterTypes
import Introspect.Proofs.Reflection.QualifiedNames
import Introspect.Proofs.Reflection.Reachable
import Introspect.Proofs.Reflection.RequiredParameters
import Introspect.Proofs.Syntax.Attachment
import Introspect.Proofs.Syntax.Body
import Introspect.Proofs.Syntax.Comments
import Introspect.Proofs.Syntax.Comparison
import Introspect.Proofs.Syntax.Copy
import Introspect.Proofs.Syntax.Documentation
import Introspect.Proofs.Syntax.Leaves
import Introspect.Proofs.Syntax.Margins
import Introspect.Proofs.Syntax.Preorder
import Introspect.Proofs.Syntax.Reconstruction
import Introspect.Proofs.Text.ByteOrder
import Introspect.Proofs.Text.Lines
import Introspect.Proofs.Text.Split
import Introspect.Reflection.Class
import Introspect.Reflection.Declarations
import Introspect.Reflection.Function
import Introspect.Reflection.Parameter
import Introspect.Reflector
import Introspect.Report.Basic
import Introspect.Report.Json
import Introspect.Session
import Introspect.Source
import Introspect.Syntax.Doc
import Introspect.Syntax.Node
import Introspect.Syntax.ParseTree
import Introspect.Text.Alphanumeric
import Introspect.Text.Basic
import Introspect.Text.Quoted
import Introspect.Text.Similarity
import Introspect.Text.Unseen
