import StreamQuery.Expr.Basic
import StreamQuery.Failure

/-!
# SQL literals

Constants as SQL text. A quote inside a string is written twice.
-/

namespace StreamQuery

/-- The characters of a string literal between its quotes. -/
def escapeQuotes : List Char → List Char
  | [] => []
  | c :: rest => if c = '\x27' then c :: c :: escapeQuotes rest else c :: escapeQuotes rest

def quoted (text : String) : String :=
  String.ofList ('\x27' :: escapeQuotes text.toList ++ ['\x27'])

/-- The literal of a constant in the given clause; windows have none. -/
def Constant.literal (clause : String) : Constant → Except Failure String
  | .null => .ok "NULL"
  | .bool value => .ok (if value then "true" else "false")
  | .int value => .ok (toString value)
  | .float value => .ok value.text
  | .decimal value => .ok value.text
  | .string value => .ok (quoted value)
  | .duration value => .ok value.text
  | .window _ => .error (.unsupported (.windowConstant clause))

end StreamQuery
