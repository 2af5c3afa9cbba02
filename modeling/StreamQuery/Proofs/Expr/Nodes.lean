import StreamQuery.Expr.Basic

/-!
# The nodes of an expression

Induction over expression trees, with the hypothesis at every argument of a call and every member of
an object, and the list of all nodes of a tree.
-/

namespace StreamQuery.Expr

@[elab_as_elim, induction_eliminator]
theorem induction {motive : Expr → Prop}
    (parameter : ∀ name type, motive (.parameter name type))
    (member : ∀ target name type, motive target → motive (.member target name type))
    (bareMember : ∀ name type, motive (.bareMember name type))
    (call : ∀ target name args type, motive target → (∀ arg ∈ args, motive arg) →
      motive (.call target name args type))
    (staticCall : ∀ name args type, (∀ arg ∈ args, motive arg) →
      motive (.staticCall name args type))
    (binary : ∀ op left right, motive left → motive right → motive (.binary op left right))
    (unary : ∀ op operand type, motive operand → motive (.unary op operand type))
    (constant : ∀ value, motive (.constant value))
    (conditional : ∀ test ifTrue ifFalse, motive test → motive ifTrue → motive ifFalse →
      motive (.conditional test ifTrue ifFalse))
    (object : ∀ members, (∀ entry ∈ members, motive entry.2) → motive (.object members))
    (lambda : ∀ params body, motive body → motive (.lambda params body))
    (source : ∀ name, motive (.source name)) (e : Expr) : motive e := by
  refine @Expr.rec motive (fun args => ∀ arg ∈ args, motive arg)
    (fun members => ∀ entry ∈ members, motive entry.2) (fun entry => motive entry.2)
    parameter member bareMember call staticCall binary unary constant conditional object lambda
    source ?_ ?_ ?_ ?_ ?_ e
  · simp
  · intro head tail hhead htail
    simpa using And.intro hhead htail
  · simp
  · intro head tail hhead htail
    simpa using And.intro hhead htail
  · intro name value hvalue
    exact hvalue

mutual

/-- All nodes of the tree, each before the nodes below it. -/
def nodes : Expr → List Expr
  | e@(.parameter ..) => [e]
  | e@(.member target _ _) => e :: target.nodes
  | e@(.bareMember ..) => [e]
  | e@(.call target _ args _) => e :: (target.nodes ++ argNodes args)
  | e@(.staticCall _ args _) => e :: argNodes args
  | e@(.binary _ left right) => e :: (left.nodes ++ right.nodes)
  | e@(.unary _ operand _) => e :: operand.nodes
  | e@(.constant _) => [e]
  | e@(.conditional test ifTrue ifFalse) => e :: (test.nodes ++ (ifTrue.nodes ++ ifFalse.nodes))
  | e@(.object members) => e :: memberNodes members
  | e@(.lambda _ body) => e :: body.nodes
  | e@(.source _) => [e]

def argNodes : List Expr → List Expr
  | [] => []
  | e :: rest => e.nodes ++ argNodes rest

def memberNodes : List (Option String × Expr) → List Expr
  | [] => []
  | (_, e) :: rest => e.nodes ++ memberNodes rest

end

theorem mem_argNodes {node : Expr} {args : List Expr} :
    node ∈ argNodes args ↔ ∃ arg ∈ args, node ∈ arg.nodes := by
  induction args with
  | nil => simp [argNodes]
  | cons head tail ih => simp [argNodes, ih]

theorem mem_memberNodes {node : Expr} {members : List (Option String × Expr)} :
    node ∈ memberNodes members ↔ ∃ entry ∈ members, node ∈ entry.2.nodes := by
  induction members with
  | nil => simp [memberNodes]
  | cons head tail ih => simp [memberNodes, ih]

theorem self_mem_nodes (e : Expr) : e ∈ e.nodes := by
  cases e <;> simp [nodes]

theorem mem_nodes {node e : Expr} :
    node ∈ e.nodes ↔ node = e ∨ ∃ child ∈ e.children, node ∈ child.nodes := by
  cases e with
  | object members =>
      simp only [nodes, children, List.mem_cons, mem_memberNodes, List.mem_map]
      constructor
      · rintro (hself | ⟨entry, hentry, hnode⟩)
        · exact Or.inl hself
        · exact Or.inr ⟨entry.2, ⟨entry, hentry, rfl⟩, hnode⟩
      · rintro (hself | ⟨_, ⟨entry, hentry, rfl⟩, hnode⟩)
        · exact Or.inl hself
        · exact Or.inr ⟨entry, hentry, hnode⟩
  | _ => simp [nodes, children, mem_argNodes]

theorem nodes_of_child {p : Expr → Prop} {e child : Expr} (h : ∀ node ∈ e.nodes, p node)
    (hchild : child ∈ e.children) : ∀ node ∈ child.nodes, p node := by
  intro node hnode
  exact h node (mem_nodes.mpr (Or.inr ⟨child, hchild, hnode⟩))

theorem anyArg_eq_any (p : Expr → Bool) (args : List Expr) : anyArg p args = args.any (any p) := by
  induction args with
  | nil => rfl
  | cons head tail ih => rw [anyArg, ih, List.any_cons]

theorem anyMember_eq_any (p : Expr → Bool) (members : List (Option String × Expr)) :
    anyMember p members = members.any fun entry => entry.2.any p := by
  induction members with
  | nil => rfl
  | cons head tail ih => rw [anyMember, ih, List.any_cons]

/-- A search of the tree looks at the node itself and at all that its children hold. -/
theorem any_eq (p : Expr → Bool) (e : Expr) : e.any p = (p e || e.children.any (any p)) := by
  cases e with
  | object members => simp [any, children, anyMember_eq_any, List.any_map, Function.comp_def]
  | _ => simp [any, children, anyArg_eq_any]

/-- Induction over the children of a node, whatever its kind. -/
theorem children_induction {motive : Expr → Prop}
    (step : ∀ e : Expr, (∀ child ∈ e.children, motive child) → motive e) (e : Expr) :
    motive e := by
  induction e with
  | member target name type ih => exact step _ (List.forall_mem_singleton.mpr ih)
  | call target name args type ihtarget ihargs =>
      exact step _ (List.forall_mem_cons.mpr ⟨ihtarget, ihargs⟩)
  | staticCall name args type ihargs => exact step _ ihargs
  | binary op left right ihleft ihright =>
      exact step _ (List.forall_mem_cons.mpr ⟨ihleft, List.forall_mem_singleton.mpr ihright⟩)
  | unary op operand type ih => exact step _ (List.forall_mem_singleton.mpr ih)
  | conditional test ifTrue ifFalse ihtest ihtrue ihfalse =>
      exact step _ (List.forall_mem_cons.mpr
        ⟨ihtest, List.forall_mem_cons.mpr ⟨ihtrue, List.forall_mem_singleton.mpr ihfalse⟩⟩)
  | object members ih =>
      refine step _ fun child hchild => ?_
      obtain ⟨entry, hentry, rfl⟩ := List.mem_map.mp hchild
      exact ih entry hentry
  | lambda params body ih => exact step _ (List.forall_mem_singleton.mpr ih)
  | _ => exact step _ (by simp [children])

theorem nodes_trans {node inner e : Expr} (hnode : node ∈ e.nodes) (hinner : inner ∈ node.nodes) :
    inner ∈ e.nodes := by
  induction e using children_induction with
  | step e ih =>
      rcases mem_nodes.mp hnode with rfl | ⟨child, hchild, hnode⟩
      · exact hinner
      · exact mem_nodes.mpr (Or.inr ⟨child, hchild, ih child hchild hnode⟩)

theorem any_eq_true_iff {p : Expr → Bool} {e : Expr} :
    e.any p = true ↔ ∃ node ∈ e.nodes, p node = true := by
  induction e using children_induction with
  | step e ih =>
      rw [any_eq, Bool.or_eq_true, List.any_eq_true]
      constructor
      · rintro (hself | ⟨child, hchild, hany⟩)
        · exact ⟨e, self_mem_nodes e, hself⟩
        · obtain ⟨node, hnode, hp⟩ := (ih child hchild).mp hany
          exact ⟨node, mem_nodes.mpr (Or.inr ⟨child, hchild, hnode⟩), hp⟩
      · rintro ⟨node, hnode, hp⟩
        rcases mem_nodes.mp hnode with rfl | ⟨child, hchild, hnode⟩
        · exact Or.inl hp
        · exact Or.inr ⟨child, hchild, (ih child hchild).mpr ⟨node, hnode, hp⟩⟩

end StreamQuery.Expr
