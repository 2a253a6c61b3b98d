import LuaAssist.Main
import LuaAssist.SampleProject
import LuaAssist.Proofs.Scope.Chains
import LuaAssist.Proofs.Scope.Collected
import LuaAssist.Proofs.Scope.Shadowing
import LuaAssist.Proofs.Token.LineBreak
import LuaAssist.Proofs.Token.OpenToken
import LuaAssist.Proofs.Token.JoinedLines
import LuaAssist.Proofs.Token.Bytes
import LuaAssist.Proofs.Cache.Alike
import LuaAssist.Proofs.Cache.Recorded
import LuaAssist.Proofs.CallSite.Found
import LuaAssist.Proofs.Document.Edits
import LuaAssist.Proofs.Indent.Typed
import LuaAssist.Proofs.Session.Accepting
import LuaAssist.Proofs.Session.Caches
import LuaAssist.Proofs.Reach.Distances
import LuaAssist.Proofs.Scope.Trees
import LuaAssist.Proofs.Scope.Sharing
import LuaAssist.Proofs.Scope.Aliases
import LuaAssist.Proofs.Session.Display
import LuaAssist.Proofs.Cache.Coherence
import LuaAssist.Proofs.Server.Published
import LuaAssist.Proofs.Session.Pointing
import LuaAssist.Proofs.Scope.Statements
import LuaAssist.Proofs.Completion.Typed
import LuaAssist.Proofs.Completion.Members
import LuaAssist.Proofs.Reach.Files
import LuaAssist.Proofs.Comment.Ignored
import LuaAssist.Proofs.Token.Stored
import LuaAssist.Proofs.Signature.Headers
import LuaAssist.Proofs.Require.Exact
import LuaAssist.Proofs.CallSite.Arguments
import LuaAssist.Proofs.CallSite.Headers
import LuaAssist.Proofs.Indent.Matching
import LuaAssist.Proofs.Document.Fronts
import LuaAssist.Proofs.Indent.Moved
import LuaAssist.Proofs.Document.Conversions
import LuaAssist.Proofs.Token.Grammar
import LuaAssist.Proofs.Token.Required
import LuaAssist.Proofs.Indent.CommentLines
import LuaAssist.Proofs.Path.Found
import LuaAssist.Proofs.Cache.Recency
import LuaAssist.Proofs.Completion.Merging
import LuaAssist.Proofs.Completion.Owners
import LuaAssist.Proofs.Scope.Growth
import LuaAssist.Proofs.Session.Ranking
import LuaAssist.Proofs.Session.Settings
import LuaAssist.Proofs.FunctionSearch.Globs
import LuaAssist.Proofs.FunctionSearch.Order
import LuaAssist.Proofs.Hint.Labels
import LuaAssist.Proofs.Documentation.Indexes
import LuaAssist.Proofs.SampleProject.Chain
import LuaAssist.Proofs.Path.Canonical
import LuaAssist.Proofs.Document.Columns
