import StreamQuery.Sql.Basic

/-!
# The nodes of an SQL expression

The list of all nodes of a tree, and induction over the children of a node.
-/

namespace StreamQuery.Sql

mutual

/-- All nodes of the tree, each before the nodes below it. -/
def nodes : Sql → List Sql
  | e@(.star _) => [e]
  | e@(.column _) => [e]
  | e@(.literal _) => [e]
  | e@(.call _ args _) => e :: argNodes args
  | e@(.binary _ left right) => e :: (left.nodes ++ right.nodes)
  | e@(.keyEquality pairs) => e :: pairNodes pairs
  | e@(.not operand) => e :: operand.nodes
  | e@(.negate operand) => e :: operand.nodes
  | e@(.isNull operand _) => e :: operand.nodes
  | e@(.case test ifTrue ifFalse) => e :: (test.nodes ++ (ifTrue.nodes ++ ifFalse.nodes))

def argNodes : List Sql → List Sql
  | [] => []
  | e :: rest => e.nodes ++ argNodes rest

def pairNodes : List (Sql × Sql) → List Sql
  | [] => []
  | (left, right) :: rest => left.nodes ++ (right.nodes ++ pairNodes rest)

end

theorem self_mem_nodes (t : Sql) : t ∈ t.nodes := by
  cases t <;> simp [nodes]

theorem mem_argNodes {node : Sql} {args : List Sql} :
    node ∈ argNodes args ↔ ∃ arg ∈ args, node ∈ arg.nodes := by
  induction args with
  | nil => simp [argNodes]
  | cons head tail ih => simp [argNodes, ih]

theorem children_keyEquality (pairs : List (Sql × Sql)) :
    (Sql.keyEquality pairs).children = pairs.flatMap fun pair => [pair.1, pair.2] := rfl

theorem mem_pairNodes {node : Sql} {pairs : List (Sql × Sql)} :
    node ∈ pairNodes pairs ↔
      ∃ child ∈ (Sql.keyEquality pairs).children, node ∈ child.nodes := by
  rw [children_keyEquality]
  induction pairs with
  | nil => simp [pairNodes]
  | cons head tail ih =>
      obtain ⟨left, right⟩ := head
      rw [pairNodes, List.mem_append, List.mem_append, ih, List.flatMap_cons]
      simp only [List.mem_append, List.mem_cons, List.not_mem_nil, or_false, or_and_right,
        exists_or, exists_eq_left, or_assoc]

theorem mem_nodes {node t : Sql} :
    node ∈ t.nodes ↔ node = t ∨ ∃ child ∈ t.children, node ∈ child.nodes := by
  cases t with
  | keyEquality pairs => rw [nodes, List.mem_cons, mem_pairNodes]
  | _ => simp [nodes, children, mem_argNodes]

theorem nodes_of_child {P : Sql → Prop} {t child : Sql} (h : ∀ node ∈ t.nodes, P node)
    (hchild : child ∈ t.children) : ∀ node ∈ child.nodes, P node :=
  fun node hnode => h node (mem_nodes.mpr (Or.inr ⟨child, hchild, hnode⟩))

/-- Induction over the children of a node, whatever its kind. -/
theorem children_induction {motive : Sql → Prop}
    (step : ∀ t : Sql, (∀ child ∈ t.children, motive child) → motive t) (t : Sql) : motive t := by
  refine @Sql.rec motive (fun args => ∀ arg ∈ args, motive arg)
    (fun pairs => ∀ child ∈ (Sql.keyEquality pairs).children, motive child)
    (fun pair => motive pair.1 ∧ motive pair.2) ?_ ?_ ?_ ?_ ?_ ?_ ?_ ?_ ?_ ?_ ?_ ?_ ?_ ?_ ?_ t
  · exact fun qualifier => step _ (by simp [children])
  · exact fun name => step _ (by simp [children])
  · exact fun text => step _ (by simp [children])
  · exact fun method args onInstance hargs => step _ hargs
  · intro op left right hleft hright
    exact step _ (List.forall_mem_cons.mpr ⟨hleft, List.forall_mem_singleton.mpr hright⟩)
  · exact fun pairs hpairs => step _ hpairs
  · exact fun operand ih => step _ (List.forall_mem_singleton.mpr ih)
  · exact fun operand ih => step _ (List.forall_mem_singleton.mpr ih)
  · exact fun operand negated ih => step _ (List.forall_mem_singleton.mpr ih)
  · intro test ifTrue ifFalse htest htrue hfalse
    exact step _ (List.forall_mem_cons.mpr
      ⟨htest, List.forall_mem_cons.mpr ⟨htrue, List.forall_mem_singleton.mpr hfalse⟩⟩)
  · simp
  · intro head tail hhead htail
    exact List.forall_mem_cons.mpr ⟨hhead, htail⟩
  · simp [children]
  · intro head tail hhead htail
    exact List.forall_mem_cons.mpr ⟨hhead.1, List.forall_mem_cons.mpr ⟨hhead.2, htail⟩⟩
  · exact fun left right hleft hright => ⟨hleft, hright⟩

theorem nodes_trans {node inner t : Sql} (hnode : node ∈ t.nodes) (hinner : inner ∈ node.nodes) :
    inner ∈ t.nodes := by
  induction t using children_induction with
  | step t ih =>
      rcases mem_nodes.mp hnode with rfl | ⟨child, hchild, hnode⟩
      · exact hinner
      · exact mem_nodes.mpr (Or.inr ⟨child, hchild, ih child hchild hnode⟩)

end StreamQuery.Sql
