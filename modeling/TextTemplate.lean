import TextTemplate.Text.Letters
import TextTemplate.Text.Case
import TextTemplate.Text.Whitespace
import TextTemplate.Environment
import TextTemplate.Environment.Describe
import TextTemplate.Filter.Sample
import TextTemplate.Loader.Directories
import TextTemplate.Render
import TextTemplate.Value.Read
import TextTemplate.Proofs.RenderEffect
import TextTemplate.Proofs.ChainResolution
import TextTemplate.Proofs.ChainFollowing
import TextTemplate.Proofs.Termination
import TextTemplate.Proofs.InheritanceExpansion
import TextTemplate.Proofs.BlockExpansion
import TextTemplate.Proofs.RenderCarry
import TextTemplate.Proofs.RenderDiscipline
import TextTemplate.Proofs.RenderBound
import TextTemplate.Proofs.MarkupFree
import TextTemplate.Proofs.DeclaredBlocks
import TextTemplate.Proofs.ParentDeclaration
import TextTemplate.Proofs.Autoescape
import TextTemplate.Proofs.ParsingSteps
import TextTemplate.Proofs.TagGrammar
import TextTemplate.Proofs.GrammarParsing
import TextTemplate.Proofs.RenderComparison
import TextTemplate.Proofs.Isolation
import TextTemplate.Proofs.Sessions
import TextTemplate.Proofs.StrictLookups
import TextTemplate.Proofs.SourceSegments
import TextTemplate.Proofs.SourceSlices
import TextTemplate.Proofs.Folding
import TextTemplate.Proofs.Tokenizing
import TextTemplate.Proofs.WritingBack
import TextTemplate.Proofs.Rounding
import TextTemplate.Proofs.DecimalReading
import TextTemplate.Proofs.ShortestDecimal
import TextTemplate.Proofs.NumberText
import TextTemplate.Proofs.TreePlaces
import TextTemplate.Proofs.EvaluationErrors
import TextTemplate.Proofs.ErrorPlaces
import TextTemplate.Proofs.IntegerComparison
import TextTemplate.Proofs.DepthLimits
import TextTemplate.Proofs.WrittenNumbers
import TextTemplate.Proofs.ExpressionGrammar
import TextTemplate.Proofs.ExpressionReading
import TextTemplate.Proofs.TableEntries
import TextTemplate.Proofs.FilterRegistration
import TextTemplate.Proofs.SingleOutputs
import TextTemplate.Proofs.StringLiterals
import TextTemplate.Proofs.RenderMoments
import TextTemplate.Proofs.BlockNesting
import TextTemplate.Proofs.LoopMeaning
import TextTemplate.Proofs.QuotedStretches
import TextTemplate.Proofs.UnclosedTags
import TextTemplate.Proofs.LookupPaths
import TextTemplate.Proofs.MemberKeys
import TextTemplate.Proofs.ConditionLookups
import TextTemplate.Proofs.SearchPaths
import TextTemplate.Proofs.SearchOrder
import TextTemplate.Proofs.TagSpans
import TextTemplate.Proofs.ScopePrograms
import TextTemplate.Proofs.ScopeResolution
import TextTemplate.Proofs.ComparisonLaws
import TextTemplate.Proofs.ContainerEquality
import TextTemplate.Proofs.Locations
import TextTemplate.Proofs.NodeSpans
import TextTemplate.Proofs.ContainerLookups
import TextTemplate.Proofs.LoopVariables
import TextTemplate.Proofs.SplitAndJoin
import TextTemplate.Proofs.Entities
import TextTemplate.Proofs.Indentation
import TextTemplate.Proofs.FoldedLines
import TextTemplate.Proofs.Keywords
