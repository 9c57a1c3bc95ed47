import TextTemplate.Expr.Lexeme

/-! What can go wrong between the source of a template and its output, one constructor for each cause,
and the words in which each is reported. A fault belongs to one of three stages: the
reading of an expression, the reading of a template, and rendering. -/
namespace TextTemplate

/-- The stage that a fault belongs to. -/
inductive Stage where
  | expression
  | parse
  | render
  deriving DecidableEq

/-- The name of a stage in a report. -/
def Stage.text : Stage → String
  | .expression => "expression"
  | .parse => "parse"
  | .render => "render"

/-- The reason for which a template is looked up by name. -/
inductive Purpose where
  | inheritance
  | inclusion
  deriving DecidableEq

/-- The tag that names the template. -/
def Purpose.text : Purpose → String
  | .inheritance => "extends"
  | .inclusion => "include"

/-- A cause of failure. -/
inductive Fault where
  -- reading an expression
  | lonelyEquals
  | lonelyExclamation
  | unbalancedQuotes
  | unexpectedCharacter (c : Char)
  | noFilter
  | noFilterAfterPipe
  | notAFilterName (found : Lexeme)
  | argumentsNotClosed (filter : String)
  | endOfExpression
  | invalidNumber (text : String)
  | unexpectedKeyword (word : String)
  | unexpectedLexeme (found : Lexeme)
  | invalidIndex (text : String)
  | emptyStep (path : Path)
  | noIdentifier (what : String) (found : Option Lexeme)
  | wordExpected (word : String)
  -- reading a template
  | emptyOutput
  | emptyTag
  | unknownTag (keyword : String)
  | missingEnd (name : String) (terminators : List String)
  | strayTerminator (keyword : String)
  | misplacedTerminator (keyword name : String) (opened : Location) (terminators : List String)
  | noCondition (keyword : String)
  | invalidArguments (keyword : String) (fault : Fault)
  | argumentsNotAllowed (keyword : String)
  | noBlockName
  | duplicateBlock (name : String)
  | mismatchedEnd (contents name : String)
  | repeatedExtends
  | lateExtends
  | noIncludeName
  | invalidFilterTag (fault : Fault)
  -- rendering
  | depthExceeded (limit : Nat)
  | chainTooLong (limit : Nat)
  | extendsCycle (names : List String)
  | unresolvedTemplate (purpose : Purpose) (name : String)
  | superOutsideBlock
  | undefinedVariable (path : Path)
  | unknownFilter (name : String)
  | filterFailed (name reason : String)
  | notATemplateName (found : Value.Shape)
  | notAnObject (found : Value.Shape)
  | notUnpackable (found : Value.Shape) (count : Nat)
  | textNotNumeric
  | notNumeric
  | unorderedNumbers
  | incomparable
  | notAContainer
  | stringExpected (filter : String) (position : Nat)
  | emptySeparator
  | invalidWidth
  | noLength
  | invalidCount
  -- reported by the host in its own words
  | custom (stage : Stage) (message : String)
  deriving DecidableEq

namespace Fault

/-- Terminators as a report lists them. -/
def alternatives (terminators : List String) : String :=
  " or ".intercalate (terminators.map fun name => "'" ++ name ++ "'")

/-- The stage that a fault belongs to. -/
def stage : Fault → Stage
  | .lonelyEquals | .lonelyExclamation | .unbalancedQuotes | .unexpectedCharacter _ | .noFilter
  | .noFilterAfterPipe | .notAFilterName _ | .argumentsNotClosed _ | .endOfExpression
  | .invalidNumber _ | .unexpectedKeyword _ | .unexpectedLexeme _ | .invalidIndex _ | .emptyStep _
  | .noIdentifier _ _ | .wordExpected _ => .expression
  | .emptyOutput | .emptyTag | .unknownTag _ | .missingEnd _ _ | .strayTerminator _
  | .misplacedTerminator _ _ _ _ | .noCondition _ | .invalidArguments _ _ | .argumentsNotAllowed _
  | .noBlockName | .duplicateBlock _ | .mismatchedEnd _ _ | .repeatedExtends | .lateExtends
  | .noIncludeName | .invalidFilterTag _ => .parse
  | .custom stage _ => stage
  | _ => .render

/-- The words in which a fault is reported. -/
def message : Fault → String
  | .lonelyEquals => "unexpected '=', did you mean '=='?"
  | .lonelyExclamation => "unexpected '!' without '='"
  | .unbalancedQuotes => "unbalanced quotes in string literal"
  | .unexpectedCharacter c => "unexpected character '" ++ c.toString ++ "'"
  | .noFilter => "expected filter name"
  | .noFilterAfterPipe => "expected filter name after '|'"
  | .notAFilterName found => "expected filter name after '|', found " ++ found.describe
  | .argumentsNotClosed filter => "expected ',' or ')' in arguments of filter '" ++ filter ++ "'"
  | .endOfExpression => "unexpected end of expression"
  | .invalidNumber text => "invalid number literal " ++ text
  | .unexpectedKeyword word => "unexpected keyword '" ++ word ++ "'"
  | .unexpectedLexeme found => "unexpected " ++ found.describe ++ " in expression"
  | .invalidIndex text => "invalid index segment '" ++ text ++ "'"
  | .emptyStep path => "empty lookup segment after '" ++ path.text ++ ".'"
  | .noIdentifier what (some found) => "expected " ++ what ++ ", found " ++ found.describe
  | .noIdentifier what none => "expected " ++ what
  | .wordExpected word => "expected '" ++ word ++ "'"
  | .emptyOutput => "empty variable tag"
  | .emptyTag => "empty tag"
  | .unknownTag keyword => "unknown tag '" ++ keyword ++ "'"
  | .missingEnd name terminators =>
    "missing end tag for '" ++ name ++ "', expected " ++ alternatives terminators
  | .strayTerminator keyword => "unexpected '" ++ keyword ++ "' without a matching open tag"
  | .misplacedTerminator keyword name opened terminators =>
    "unexpected '" ++ keyword ++ "' inside '" ++ name ++ "' opened at " ++ opened.text ++
      ", expected " ++ alternatives terminators
  | .noCondition keyword => "'" ++ keyword ++ "' requires a condition"
  | .invalidArguments keyword fault =>
    "invalid arguments for '" ++ keyword ++ "': " ++ fault.message
  | .argumentsNotAllowed keyword => "'" ++ keyword ++ "' takes no arguments"
  | .noBlockName => "block tag takes exactly one name: \x7b% block name %\x7d"
  | .duplicateBlock name => "block '" ++ name ++ "' is defined more than once"
  | .mismatchedEnd contents name =>
    "mismatched end tag '" ++ contents ++ "' for block '" ++ name ++ "'"
  | .repeatedExtends => "extends may only appear once per template"
  | .lateExtends => "extends must be the first tag in the template"
  | .noIncludeName => "include requires a template name"
  | .invalidFilterTag fault => "invalid 'filter' tag: " ++ fault.message
  | .depthExceeded limit => "maximum template depth of " ++ toString limit ++ " exceeded"
  | .chainTooLong limit => "extends chain exceeds maximum depth of " ++ toString limit
  | .extendsCycle names => "extends cycle detected: " ++ " -> ".intercalate names
  | .unresolvedTemplate purpose name =>
    "cannot resolve " ++ purpose.text ++ " target '" ++ name ++ "'"
  | .superOutsideBlock => "'super' used outside of a block"
  | .undefinedVariable path => "undefined variable '" ++ path.text ++ "'"
  | .unknownFilter name => "unknown filter '" ++ name ++ "'"
  | .filterFailed name reason => "filter '" ++ name ++ "' failed: " ++ reason
  | .notATemplateName found => "expected a template name, found " ++ found.describe
  | .notAnObject found => "include 'with' expects an object, found " ++ found.describe
  | .notUnpackable found count =>
    "cannot unpack " ++ found.describe ++ " into " ++ toString count ++ " loop variables"
  | .textNotNumeric => "cannot convert string to number"
  | .notNumeric => "expected numeric value for comparison"
  | .unorderedNumbers => "cannot order NaN values"
  | .incomparable => "comparison requires both operands to be numbers or strings"
  | .notAContainer => "'in' requires an array, object or string on the right-hand side"
  | .stringExpected filter position =>
    filter ++ " expects a string argument at position " ++ toString position
  | .emptySeparator => "split separator must not be empty"
  | .invalidWidth => "indent width must be a non-negative integer"
  | .noLength => "length expects an array, object or string"
  | .invalidCount => "repeat count must be a non-negative integer"
  | .custom _ message => message

end Fault

end TextTemplate
