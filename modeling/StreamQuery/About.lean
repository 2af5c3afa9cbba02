/-!
# Version and features
-/

namespace StreamQuery

def version : String := "0.1.0"

def features : List String :=
  ["create_stream_table", "create_as_select", "push_pull_queries", "windowing",
   "group_by_composite", "having_clause", "order_by", "stream_table_join", "limit",
   "aggregate_functions", "function_registry"]

end StreamQuery
