import Scriptlet.Token

/-! Faults: why a script was refused or stopped, and where. -/

namespace Scriptlet

/-- The stage of the work that a complaint worded by its caller belongs to. -/
inductive Stage where
  | general
  | lexing
  | parsing
  | evaluation
  deriving DecidableEq, Repr

/-- What the parser was reading when the tokens ran out. -/
inductive Construct where
  | primary
  | statement
  | forLoop
  | parameters
  | returnStatement
  | moduleImport
  | assignment
  deriving DecidableEq, Repr

def Construct.phrase : Construct → String
  | primary => "primary expression"
  | statement => "statement"
  | forLoop => "for loop"
  | parameters => "function parameters"
  | returnStatement => "return statement"
  | moduleImport => "module import"
  | assignment => "variable assignment"

inductive Cause where
  | stated (stage : Stage) (message : String)
  | unterminatedString
  | malformedNumber (text : String)
  | unknownSymbol (text : String)
  | expected (wanted : String) (found : Option Token)
  | outOfTokens (construct : Construct)
  | unexpectedInExpression (found : Token)
  | unexpectedStatement (found : Token)
  | strayKeyword (text : String)
  | badElementName (found : Token)
  | badParameter (found : Token)
  | badModuleName (found : Token)
  | badAssignment (found : Token)
  | outsideBlock (found : Token)
  | nestingTooDeep
  | undefinedVariable (name : String)
  | redefinition (name : String)
  | undefinedFunction (name : String)
  | unsupportedOperands (operator undertaking : String)
  | integerOverflow (operator : Operator)
  | divisionByZero (operator : Operator)
  | missingMember (moduleName member : String)
  | argumentCount (count : Nat)
  | notIterable (typeName : String)
  | bareNode (line : Nat)
  | unrenderable
  | stackOverflow

namespace Cause

def message : Cause → String
  | stated _ message => message
  | unterminatedString => "Unterminated string literal"
  | malformedNumber text => "Token '" ++ text ++ "' looks like a number, but cannot be parsed"
  | unknownSymbol text => "Symbol '" ++ text ++ "' cannot be categorized"
  | expected wanted none => "Expected '" ++ wanted ++ "', but reached the end of the token stream"
  | expected wanted (some found) => "Expected '" ++ wanted ++ "', but got " ++ found.describe
  | outOfTokens construct => "End of token stream while parsing " ++ construct.phrase
  | unexpectedInExpression found =>
      "Invalid syntax while parsing primary expression: unexpected " ++ found.describe
  | unexpectedStatement found =>
      "Invalid syntax: unexpected " ++ found.describe ++ " at start of statement"
  | strayKeyword text => "'" ++ text ++ "' is not preceded by an if statement"
  | badElementName found => "Expected identifier for element name, but got " ++ found.describe
  | badParameter found => "Expected identifier or ')', but got " ++ found.describe
  | badModuleName found => "Expected import identifier, but got " ++ found.describe
  | badAssignment found => "Expected assignment operator, but got " ++ found.describe
  | outsideBlock found => "Unexpected " ++ found.describe ++ " outside of any block"
  | nestingTooDeep => "Maximum nesting depth exceeded while parsing"
  | undefinedVariable name => "Undefined variable '" ++ name ++ "'"
  | redefinition name => "Variable '" ++ name ++ "' is already defined in scope"
  | undefinedFunction name => "Function '" ++ name ++ "' is not declared in scope"
  | unsupportedOperands operator undertaking =>
      "Unable to perform " ++ undertaking ++ " ('" ++ operator ++ "')"
  | integerOverflow operator => "Integer overflow in '" ++ operator.text ++ "'"
  | divisionByZero operator => "Integer division by zero in '" ++ operator.text ++ "'"
  | missingMember moduleName member =>
      "Module member '" ++ moduleName ++ "::" ++ member ++ "' is not implemented"
  | argumentCount count => "io::println expects exactly one argument, got " ++ toString count
  | notIterable typeName => "Unable to iterate non-array type " ++ typeName
  | bareNode line => "Invalid syntax tree node Node(line=" ++ toString line ++ ")"
  | unrenderable => "Cannot render invalid object"
  | stackOverflow => "Maximum call stack size exceeded"

def stage : Cause → Stage
  | stated stage _ => stage
  | unterminatedString | malformedNumber _ | unknownSymbol _ => .lexing
  | expected .. | outOfTokens _ | unexpectedInExpression _ | unexpectedStatement _
  | strayKeyword _ | badElementName _ | badParameter _ | badModuleName _ | badAssignment _
  | outsideBlock _ | nestingTooDeep => .parsing
  | undefinedVariable _ | redefinition _ | undefinedFunction _ | unsupportedOperands ..
  | integerOverflow _ | divisionByZero _ | missingMember .. | argumentCount _ | notIterable _
  | bareNode _ | unrenderable | stackOverflow => .evaluation

def title : Cause → String
  | undefinedVariable _ => "UndefinedVariableException"
  | redefinition _ => "RedefinitionException"
  | undefinedFunction _ => "UndefinedFunctionException"
  | unsupportedOperands .. => "UnknownOpException"
  | missingMember .. => "NotImplementedModuleException"
  | unrenderable => "RenderException"
  | stackOverflow => "StackOverflowException"
  | cause =>
      match cause.stage with
      | .general => "OkoException"
      | .lexing => "LexException"
      | .parsing => "ParseException"
      | .evaluation => "EvalException"

end Cause

structure Fault where
  cause : Cause
  line : Option Nat := none
  file : Option String := none

namespace Fault

def message (fault : Fault) : String :=
  fault.cause.message ++
    (match fault.line with
    | some line => " on line " ++ toString line
    | none => "") ++
    (match fault.file with
    | some file => " in " ++ file
    | none => "")

/-- Records a place, unless a line is already known. A file that is already known stays. -/
def locate (fault : Fault) (line : Option Nat) (file : Option String) : Fault :=
  match fault.line with
  | some _ => fault
  | none => { fault with line := line, file := fault.file <|> file }

end Fault

end Scriptlet
