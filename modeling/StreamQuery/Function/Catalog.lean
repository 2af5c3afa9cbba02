import StreamQuery.Function.Basic

/-!
# The function catalogue

The methods with an SQL counterpart. A method is looked up by its name in upper case.
-/

namespace StreamQuery

namespace SqlFunction

def plain (category : FunctionCategory) (method sql : String) : SqlFunction :=
  { method, sql, category }

def aggregating (method sql : String) : SqlFunction :=
  { method, sql, category := .aggregate, aggregate := true }

def templated (category : FunctionCategory) (method sql template : String) : SqlFunction :=
  { method, sql, category, special := true, template := some template }

def forInstance (f : SqlFunction) : SqlFunction :=
  { f with instanceOnly := true }

def stringFunctions : List SqlFunction :=
  [plain .string "ToUpper" "UPPER",
   plain .string "Upper" "UPPER",
   plain .string "ToLower" "LOWER",
   plain .string "Lower" "LOWER",
   plain .string "Trim" "TRIM",
   plain .string "TrimStart" "LTRIM",
   plain .string "TrimEnd" "RTRIM",
   plain .string "Substring" "SUBSTRING",
   plain .string "Left" "LEFT",
   plain .string "Right" "RIGHT",
   plain .string "Replace" "REPLACE",
   plain .string "Concat" "CONCAT",
   plain .string "Split" "SPLIT",
   plain .string "Length" "LEN",
   plain .string "PadLeft" "LPAD",
   plain .string "PadRight" "RPAD",
   plain .string "StartsWith" "STARTS_WITH",
   plain .string "EndsWith" "ENDS_WITH",
   forInstance (templated .string "Contains" "INSTR" "INSTR(\x7b0\x7d, \x7b1\x7d) > 0"),
   forInstance (templated .string "IndexOf" "INSTR" "(INSTR(\x7b0\x7d, \x7b1\x7d) - 1)"),
   templated .string "IsNullOrEmpty" "LEN" "(\x7b0\x7d IS NULL OR LEN(\x7b0\x7d) = 0)"]

def mathFunctions : List SqlFunction :=
  [plain .math "Abs" "ABS",
   plain .math "Ceiling" "CEIL",
   plain .math "Floor" "FLOOR",
   plain .math "Round" "ROUND",
   plain .math "Sqrt" "SQRT",
   plain .math "Pow" "POWER",
   plain .math "Exp" "EXP",
   plain .math "Log" "LN",
   plain .math "Sign" "SIGN",
   plain .math "Random" "RANDOM"]

def dateFunctions : List SqlFunction :=
  [plain .date "Year" "YEAR",
   plain .date "Month" "MONTH",
   plain .date "Day" "DAY",
   plain .date "Hour" "HOUR",
   plain .date "Minute" "MINUTE",
   plain .date "Second" "SECOND",
   plain .date "DayOfWeek" "DAY_OF_WEEK",
   plain .date "DayOfYear" "DAY_OF_YEAR",
   plain .date "WeekOfYear" "WEEK_OF_YEAR",
   plain .date "FormatTimestamp" "FORMAT_TIMESTAMP",
   plain .date "ParseTimestamp" "PARSE_TIMESTAMP",
   plain .date "FormatDate" "FORMAT_DATE",
   plain .date "UnixTimestamp" "UNIX_TIMESTAMP"]

def aggregateFunctions : List SqlFunction :=
  [aggregating "Sum" "SUM",
   { aggregating "Count" "COUNT" with special := true },
   aggregating "Max" "MAX",
   aggregating "Min" "MIN",
   aggregating "Average" "AVG",
   aggregating "Avg" "AVG",
   aggregating "TopK" "TOPK",
   aggregating "TopKDistinct" "TOPKDISTINCT",
   aggregating "Histogram" "HISTOGRAM",
   aggregating "LatestByOffset" "LATEST_BY_OFFSET",
   aggregating "EarliestByOffset" "EARLIEST_BY_OFFSET",
   aggregating "CollectList" "COLLECT_LIST",
   aggregating "CollectSet" "COLLECT_SET",
   aggregating "CountDistinct" "COUNT_DISTINCT"]

def arrayFunctions : List SqlFunction :=
  [plain .array "ArrayContains" "ARRAY_CONTAINS",
   plain .array "ArrayLength" "ARRAY_LENGTH",
   plain .array "ArrayDistinct" "ARRAY_DISTINCT",
   plain .array "ArrayJoin" "ARRAY_JOIN",
   plain .array "ArrayMax" "ARRAY_MAX",
   plain .array "ArrayMin" "ARRAY_MIN"]

def jsonFunctions : List SqlFunction :=
  [plain .json "JsonExtractString" "EXTRACTJSONFIELD",
   plain .json "JsonArrayLength" "JSON_ARRAY_LENGTH",
   plain .json "JsonKeys" "JSON_KEYS",
   plain .json "ToJsonString" "TO_JSON_STRING"]

def castFunctions : List SqlFunction :=
  [templated .cast "ToString" "CAST" "CAST(\x7b0\x7d AS VARCHAR)",
   templated .cast "ToInt32" "CAST" "CAST(\x7b0\x7d AS INTEGER)",
   templated .cast "ToInt64" "CAST" "CAST(\x7b0\x7d AS BIGINT)",
   templated .cast "ToDouble" "CAST" "CAST(\x7b0\x7d AS DOUBLE)",
   templated .cast "ToBoolean" "CAST" "CAST(\x7b0\x7d AS BOOLEAN)"]

def conditionalFunctions : List SqlFunction :=
  [plain .conditional "Coalesce" "COALESCE",
   plain .conditional "IfNull" "IFNULL",
   plain .conditional "NullIf" "NULLIF"]

def urlFunctions : List SqlFunction :=
  [plain .url "UrlExtractHost" "URL_EXTRACT_HOST",
   plain .url "UrlExtractPath" "URL_EXTRACT_PATH",
   plain .url "UrlExtractQuery" "URL_EXTRACT_QUERY",
   plain .url "UrlExtractParameter" "URL_EXTRACT_PARAMETER",
   plain .url "UrlEncodeParam" "URL_ENCODE_PARAM",
   plain .url "UrlDecodeParam" "URL_DECODE_PARAM"]

def geoFunctions : List SqlFunction :=
  [plain .geo "GeoDistance" "GEO_DISTANCE"]

def maskingFunctions : List SqlFunction :=
  [plain .crypto "Mask" "MASK",
   plain .crypto "MaskLeft" "MASK_LEFT",
   plain .crypto "MaskRight" "MASK_RIGHT",
   plain .crypto "MaskKeepLeft" "MASK_KEEP_LEFT",
   plain .crypto "MaskKeepRight" "MASK_KEEP_RIGHT"]

/-- Columns that every windowed row has, written as calls. -/
def windowColumns : List SqlFunction :=
  [templated .window "WindowStart" "WINDOWSTART" "WINDOWSTART",
   templated .window "WindowEnd" "WINDOWEND" "WINDOWEND",
   templated .window "RowTime" "ROWTIME" "ROWTIME"]

def catalog : List SqlFunction :=
  stringFunctions ++ mathFunctions ++ dateFunctions ++ aggregateFunctions ++ arrayFunctions ++
    jsonFunctions ++ castFunctions ++ conditionalFunctions ++ urlFunctions ++ geoFunctions ++
    maskingFunctions ++ windowColumns

def find? (method : String) : Option SqlFunction :=
  catalog.find? fun f => Text.upper f.method = Text.upper method

/-- Whether `name` is an aggregating method, or the SQL name of one that is no method itself. -/
def isAggregate (name : String) : Bool :=
  match find? name with
  | some f => f.aggregate
  | none => catalog.any fun f => f.aggregate && f.sql = Text.upper name

def sqlName (method : String) : String :=
  match find? method with
  | some f => f.sql
  | none => Text.upper method

/-- A call by method name; an unknown method is written in upper case. -/
def renderCall (method : String) (args : List String) (onInstance : Bool) : String :=
  match find? method with
  | some f => f.render args onInstance
  | none => Text.upper method ++ "(" ++ String.intercalate ", " args ++ ")"

/-- The methods of a category in alphabetical order. -/
def methodsOf (category : FunctionCategory) : List String :=
  ((catalog.filter (·.category = category)).map (·.method)).mergeSort (· ≤ ·)

def specialMethods : List String :=
  ((catalog.filter (·.special)).map (·.method)).mergeSort (· ≤ ·)

end SqlFunction

/-- What is known of the result of an aggregating method by its name. -/
inductive ResultType where
  | double
  | bigint
  | any
  | array
  | map
  | unknown
deriving DecidableEq

namespace ResultType

def name : ResultType → String
  | .double => "DOUBLE"
  | .bigint => "BIGINT"
  | .any => "ANY"
  | .array => "ARRAY"
  | .map => "MAP"
  | .unknown => "UNKNOWN"

def ofMethod (method : String) : ResultType :=
  let name := Text.upper method
  if name ∈ ["SUM", "AVG", "AVERAGE"] then .double
  else if name ∈ ["COUNT", "COUNTDISTINCT"] then .bigint
  else if name ∈ ["MAX", "MIN", "LATESTBYOFFSET", "EARLIESTBYOFFSET"] then .any
  else if name ∈ ["TOPK", "TOPKDISTINCT", "COLLECTLIST", "COLLECTSET"] then .array
  else if name = "HISTOGRAM" then .map
  else .unknown

end ResultType

end StreamQuery
