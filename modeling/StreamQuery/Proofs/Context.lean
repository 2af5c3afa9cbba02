import StreamQuery.Lowering

/-!
# Contexts of a query

The columns of a grouping key are kept in a context as JSON and read back unchanged, so the rules of
every clause that is built in the context of a grouping know them.
-/

namespace StreamQuery

theorem Json.toStringMap?_ofStringMap (entries : Dictionary String) :
    (Json.ofStringMap entries).toStringMap? = some entries := by
  rw [ofStringMap, toStringMap?]
  induction entries with
  | nil => rfl
  | cons entry rest ih =>
      rw [List.map_cons, List.mapM_cons, ih]
      rfl

theorem GroupKeys.ofJson?_toJson (keys : GroupKeys) :
    GroupKeys.ofJson? keys.toJson = some keys := by
  have hmembers := Json.toStringMap?_ofStringMap keys.members
  have hsingle : (Json.ofOption .string keys.single).toOption? Json.toString? =
      some keys.single := by
    cases keys.single <;> rfl
  change (do
    let members ← (Json.ofStringMap keys.members).toStringMap?
    let single ← (Json.ofOption .string keys.single).toOption? Json.toString?
    return ({ single, members } : GroupKeys)) = some keys
  rw [hmembers, hsingle]
  rfl

namespace Context

/-- The context inside a grouping by these keys. -/
def grouped (context : Context) (keys : GroupKeys) : Context :=
  context.withGrouped.withGroupKeys keys

theorem groupKeys?_grouped (context : Context) (keys : GroupKeys) :
    (context.grouped keys).groupKeys? = some keys := by
  change (Dictionary.get? "group_keys" (Dictionary.insert "group_keys" keys.toJson _)).bind _ = _
  rw [Dictionary.get?_insert, if_pos rfl]
  exact keys.ofJson?_toJson

/-- A grouping leaves the aliases of parameters as they are. -/
theorem parameterAliases?_grouped (context : Context) (keys : GroupKeys) :
    (context.grouped keys).parameterAliases? = context.parameterAliases? := by
  change (Dictionary.get? "parameter_aliases" (Dictionary.insert "group_keys" keys.toJson
    (Dictionary.insert "grouped" _ context.metadata))).bind _ = _
  rw [Dictionary.get?_insert, if_neg (by decide), Dictionary.get?_insert, if_neg (by decide)]
  rfl

end Context

namespace LoweringRules

theorem withContext_plain (rules : LoweringRules) (base : String) (mode : ExecutionMode) :
    rules.withContext { base, mode } = rules := by
  cases rules
  rfl

theorem groupKeys_withContext (rules : LoweringRules) (context : Context) (keys : GroupKeys) :
    (rules.withContext (context.grouped keys)).groupKeys = some keys := by
  rw [withContext, context.groupKeys?_grouped keys]
  rfl

theorem withContext_grouped (rules : LoweringRules) (base : String) (mode : ExecutionMode)
    (keys : GroupKeys) :
    rules.withContext (Context.grouped { base, mode } keys) =
      { rules with groupKeys := some keys } := by
  have haliases : (Context.grouped { base, mode } keys).parameterAliases? = none :=
    Context.parameterAliases?_grouped { base, mode } keys
  rw [withContext, Context.groupKeys?_grouped, haliases]
  rfl

end LoweringRules

end StreamQuery
