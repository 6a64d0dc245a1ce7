import HeaderSurvey.Main
import HeaderSurvey.Proofs.Block.Matched
import HeaderSurvey.Proofs.Block.Scan
import HeaderSurvey.Proofs.Declaration.ForestParse
import HeaderSurvey.Proofs.Declaration.ScopeOrder
import HeaderSurvey.Proofs.TestCase.Derivable
import HeaderSurvey.Proofs.TestCase.Canonical
import HeaderSurvey.Proofs.Block.Nested
import HeaderSurvey.Proofs.Declaration.Nesting
import HeaderSurvey.Proofs.Block.Unclosed
import HeaderSurvey.Proofs.Declaration.Failure
import HeaderSurvey.Proofs.Declaration.Append
import HeaderSurvey.Proofs.Text.Replace
import HeaderSurvey.Proofs.Text.Sorted
import HeaderSurvey.Proofs.Harness.Filling
import HeaderSurvey.Proofs.Harness.Order
import HeaderSurvey.Proofs.Harness.Statement
import HeaderSurvey.Proofs.Harness.Faithful
import HeaderSurvey.Proofs.Wrapper.ReadBack
import HeaderSurvey.Proofs.Wrapper.Isolation
import HeaderSurvey.Proofs.Wrapper.Collision
import HeaderSurvey.Proofs.Wrapper.Clash
import HeaderSurvey.Proofs.Wrapper.Rerun
import HeaderSurvey.Proofs.Wrapper.Depth
import HeaderSurvey.Proofs.Declaration.TypePieces
import HeaderSurvey.Proofs.CommandLine.Reports
import HeaderSurvey.Proofs.TestCase.Roots
import HeaderSurvey.Proofs.Declaration.RoutinePieces
import HeaderSurvey.Proofs.Declaration.WrittenType
import HeaderSurvey.Proofs.Declaration.ParameterList
import HeaderSurvey.Proofs.Declaration.DefinitionBody
import HeaderSurvey.Proofs.Declaration.InsertedComment
import HeaderSurvey.Proofs.TestCase.Collapse
import HeaderSurvey.Proofs.TestCase.Members
import HeaderSurvey.Proofs.Run.Load
import HeaderSurvey.Proofs.Settings.Overrides
import HeaderSurvey.Proofs.TestCase.CommentedBody
import HeaderSurvey.Proofs.Declaration.LastPlaces
import HeaderSurvey.Proofs.Declaration.SearchAgain
import HeaderSurvey.Proofs.Wrapper.Parameter
