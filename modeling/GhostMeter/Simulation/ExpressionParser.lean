import GhostMeter.Lib.Dict
import GhostMeter.Lib.PyFloat
import GhostMeter.Lib.PyString

/-! The expressions of computed registers: the values of the variables are pasted into the text,
and the syntax tree that Python makes of it is evaluated. -/

namespace GhostMeter.Simulation

open GhostMeter.Lib

inductive UnaryOp
  | uAdd | uSub
  | other (name : String)

inductive BinaryOp
  | add | sub | mult | div
  | other (name : String)

/-- Python's syntax trees, as far as they are looked at; a constant that is none of JSON's is an
`other`. -/
inductive Ast
  | constant (value : Json)
  | unaryOp (op : UnaryOp) (operand : Ast)
  | binOp (left : Ast) (op : BinaryOp) (right : Ast)
  | other (typeName : String)

/-- What ends an evaluation: an `ExpressionError`, or another exception. -/
inductive EvaluationError
  | expressionError (message : String)
  | attributeError
  | recursionError
  | memoryError
  | py (e : PyError)

/-- What `ast.parse` raises. -/
inductive ParseError
  | syntaxError (text : String)
  | recursionError
  | memoryError
  | py (e : PyError)

/-- What the evaluation takes from Python: the characters that `\w` matches, `str` of a float, and
`ast.parse` in the mode of an expression. -/
structure PythonSyntax where
  isWord : Char → Bool
  str : PyFloat → String
  parse : String → Except ParseError Ast
  /-- How many calls may still be nested where the evaluation of a tree starts. -/
  frames : ℕ
  /-- How many of them `logger.warning` takes. -/
  warningFrames : ℕ

/-- The characters below 128 that `\w` matches. -/
def asciiWord (c : Char) : Bool := c.isAlphanum || c = '_'

/-- A piece of the text between the matches of `_VAR_PATTERN`, or a match. -/
inductive Token
  | text (c : Char)
  | var (name : String)

/-- The rest of a match after its opening brace. -/
def matchVariable (isWord : Char → Bool) (cs : List Char) : Option (String × List Char) :=
  match cs.takeWhile isWord, cs.dropWhile isWord with
  | c :: name, '}' :: rest => some (String.ofList (c :: name), rest)
  | _, _ => none

/-- The scan from the left; every round takes at least one of the `n` characters. -/
def tokensFrom (isWord : Char → Bool) : ℕ → List Char → List Token
  | n + 1, '{' :: cs =>
    match matchVariable isWord cs with
    | some (name, rest) => .var name :: tokensFrom isWord n rest
    | none => .text '{' :: tokensFrom isWord n cs
  | n + 1, c :: cs => .text c :: tokensFrom isWord n cs
  | _, _ => []

def tokens (isWord : Char → Bool) (expression : String) : List Token :=
  tokensFrom isWord expression.toList.length expression.toList

/-- The variables of an expression. -/
def references (isWord : Char → Bool) (expression : String) : List String :=
  (tokens isWord expression).filterMap fun
    | .text _ => none
    | .var name => some name

/-- `_replace_var`. -/
def replaceVar (str : PyFloat → String) (values : Dict String PyFloat) (name : String) :
    String :=
  match values name with
  | none => "0.0"
  | some value => str value

def substituted (syn : PythonSyntax) (expression : String) (values : Dict String PyFloat) :
    String :=
  String.join ((tokens syn.isWord expression).map fun
    | .text c => c.toString
    | .var name => replaceVar syn.str values name)

def notAllowed (typeName : String) : EvaluationError :=
  .expressionError s!"AST node type {typeName} not allowed in expression"

/-- `_safe_ast_eval` with so many calls left; a warning of its own takes some of them as well. -/
def safeAstEval (warningFrames : ℕ) : ℕ → Ast → Except EvaluationError PyFloat
  | 0, _ => .error .recursionError
  | _ + 1, .constant (.bool b) => (Json.bool b).toFloat.mapError .py
  | _ + 1, .constant (.int n) => (Json.int n).toFloat.mapError .py
  | _ + 1, .constant (.float x) => .ok x
  | _ + 1, .constant _ => .error (notAllowed "Constant")
  | n + 1, .unaryOp .uAdd operand => safeAstEval warningFrames n operand
  | n + 1, .unaryOp .uSub operand => (safeAstEval warningFrames n operand).map PyFloat.neg
  | _ + 1, .unaryOp (.other _) _ => .error (notAllowed "UnaryOp")
  | n + 1, .binOp left op right => do
    let left ← safeAstEval warningFrames n left
    let right ← safeAstEval warningFrames n right
    match op with
    | .add => return left.add right
    | .sub => return left.sub right
    | .mult => return left.mul right
    | .div =>
      if right.isZero then if n < warningFrames then .error .recursionError else return .zero
      else (left.div right).mapError .py
    | .other name => .error (.expressionError s!"Operator {name} not allowed")
  | _ + 1, .other typeName => .error (notAllowed typeName)

/-- Only a `SyntaxError` is caught. -/
def ParseError.raised : ParseError → EvaluationError
  | syntaxError text => .expressionError s!"Syntax error in expression: {text}"
  | recursionError => .recursionError
  | memoryError => .memoryError
  | py e => .py e

def parseAndEvaluate (syn : PythonSyntax) (expression : String)
    (values : Dict String PyFloat) : Except EvaluationError PyFloat :=
  if PyString.strip expression = "" then .error (.expressionError "Empty expression")
  else
    match syn.parse (substituted syn expression values) with
    | .error e => .error e.raised
    | .ok tree => safeAstEval syn.warningFrames syn.frames tree

variable {syn : PythonSyntax} {expression : String} {v w : Dict String PyFloat}

end GhostMeter.Simulation
