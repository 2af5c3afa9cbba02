import StreamQuery.Expr.Basic

/-!
# Expression text

Expressions as they read in a query, for messages and for the recorded source of a clause.
-/

namespace StreamQuery

def Constant.text : Constant → String
  | .null => "null"
  | .bool value => if value then "true" else "false"
  | .int value => toString value
  | .float value => value.text
  | .decimal value => value.text ++ "m"
  | .string value => "\"" ++ value ++ "\""
  | .duration value => "TimeSpan(" ++ toString value.milliseconds ++ "ms)"
  | .window value => value.text

namespace Expr

mutual

def text : Expr → String
  | .parameter name _ => name
  | .member target name _ => target.text ++ "." ++ name
  | .bareMember name _ => name
  | .call target name args _ =>
    target.text ++ "." ++ name ++ "(" ++ String.intercalate ", " (argTexts args) ++ ")"
  | .staticCall name args _ => name ++ "(" ++ String.intercalate ", " (argTexts args) ++ ")"
  | .binary op left right => "(" ++ left.text ++ " " ++ op.symbol ++ " " ++ right.text ++ ")"
  | .unary .not operand _ => "!" ++ operand.text
  | .unary .negate operand _ => "-" ++ operand.text
  | .unary .arrayLength operand _ => operand.text ++ ".Length"
  | .unary _ operand type => "(" ++ type.text ++ ")" ++ operand.text
  | .constant value => value.text
  | .conditional test ifTrue ifFalse =>
    "(" ++ test.text ++ " ? " ++ ifTrue.text ++ " : " ++ ifFalse.text ++ ")"
  | .object members => "new \x7b " ++ String.intercalate ", " (memberTexts members) ++ " \x7d"
  | .lambda params body =>
    match params with
    | [param] => param ++ " => " ++ body.text
    | _ => "(" ++ String.intercalate ", " params ++ ") => " ++ body.text
  | .source name => name

def argTexts : List Expr → List String
  | [] => []
  | e :: rest => e.text :: argTexts rest

def memberTexts : List (Option String × Expr) → List String
  | [] => []
  | (some name, e) :: rest => (name ++ " = " ++ e.text) :: memberTexts rest
  | (none, e) :: rest => e.text :: memberTexts rest

end

end Expr

end StreamQuery
