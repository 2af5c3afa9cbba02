import StreamQuery.Proofs.Expr.Nodes

/-!
# Changing the leaves of an expression

An expression with its constants replaced and its parameters renamed, and with all else kept.
-/

namespace StreamQuery.Expr

section MapLeaves

variable (constant : Constant → Constant) (parameter : String → String)

mutual

def mapLeaves : Expr → Expr
  | .parameter name type => .parameter (parameter name) type
  | .member target name type => .member (mapLeaves target) name type
  | .bareMember name type => .bareMember name type
  | .call target name args type => .call (mapLeaves target) name (mapArgs args) type
  | .staticCall name args type => .staticCall name (mapArgs args) type
  | .binary op left right => .binary op (mapLeaves left) (mapLeaves right)
  | .unary op operand type => .unary op (mapLeaves operand) type
  | .constant value => .constant (constant value)
  | .conditional test ifTrue ifFalse =>
    .conditional (mapLeaves test) (mapLeaves ifTrue) (mapLeaves ifFalse)
  | .object members => .object (mapMembers members)
  | .lambda params body => .lambda (params.map parameter) (mapLeaves body)
  | .source name => .source name

def mapArgs : List Expr → List Expr
  | [] => []
  | e :: rest => mapLeaves e :: mapArgs rest

def mapMembers : List (Option String × Expr) → List (Option String × Expr)
  | [] => []
  | (name, e) :: rest => (name, mapLeaves e) :: mapMembers rest

end

theorem mapArgs_eq_map (args : List Expr) :
    mapArgs constant parameter args = args.map (mapLeaves constant parameter) := by
  induction args with
  | nil => rfl
  | cons head tail ih => rw [mapArgs, ih, List.map_cons]

theorem mapMembers_eq_map (members : List (Option String × Expr)) :
    mapMembers constant parameter members =
      members.map fun entry => (entry.1, mapLeaves constant parameter entry.2) := by
  induction members with
  | nil => rfl
  | cons head tail ih => rw [mapMembers, ih, List.map_cons]

@[simp]
theorem dataType_mapLeaves (e : Expr) : (e.mapLeaves constant parameter).dataType = e.dataType := by
  cases e <;> rfl

@[simp]
theorem kind_mapLeaves (e : Expr) : (e.mapLeaves constant parameter).kind = e.kind := by
  cases e <;> rfl

@[simp]
theorem isObject_mapLeaves (e : Expr) : (e.mapLeaves constant parameter).isObject = e.isObject := by
  cases e <;> rfl

@[simp]
theorem methodName?_mapLeaves (e : Expr) :
    (e.mapLeaves constant parameter).methodName? = e.methodName? := by
  cases e <;> rfl

@[simp]
theorem memberName?_mapLeaves (e : Expr) :
    (e.mapLeaves constant parameter).memberName? = e.memberName? := by
  cases e <;> rfl

theorem children_mapLeaves (e : Expr) :
    (e.mapLeaves constant parameter).children = e.children.map (mapLeaves constant parameter) := by
  cases e with
  | call target name args type => simp [mapLeaves, children, mapArgs_eq_map]
  | staticCall name args type => simp [mapLeaves, children, mapArgs_eq_map]
  | object members => simp [mapLeaves, children, mapMembers_eq_map]
  | _ => simp [mapLeaves, children]

/-- A search that does not look at leaves finds the same as before. -/
theorem any_mapLeaves {p : Expr → Bool} (hp : ∀ e, p (e.mapLeaves constant parameter) = p e)
    (e : Expr) : (e.mapLeaves constant parameter).any p = e.any p := by
  induction e using children_induction with
  | step e ih =>
      have hchildren : e.children.any (any p ∘ mapLeaves constant parameter) =
          e.children.any (any p) := by
        rw [Bool.eq_iff_iff, List.any_eq_true, List.any_eq_true]
        constructor
        · rintro ⟨child, hchild, hany⟩
          exact ⟨child, hchild, (ih child hchild).symm.trans hany⟩
        · rintro ⟨child, hchild, hany⟩
          exact ⟨child, hchild, (ih child hchild).trans hany⟩
      rw [any_eq, any_eq p e, hp, children_mapLeaves, List.any_map, hchildren]

theorem stripLambda_mapLeaves (e : Expr) :
    (e.mapLeaves constant parameter).stripLambda = e.stripLambda.mapLeaves constant parameter := by
  induction e with
  | lambda params body ih => rw [mapLeaves, stripLambda, ih, stripLambda]
  | _ => rfl

theorem stripConversions_mapLeaves (e : Expr) :
    (e.mapLeaves constant parameter).stripConversions =
      e.stripConversions.mapLeaves constant parameter := by
  induction e with
  | unary op operand type ih =>
      cases op with
      | convert => rw [mapLeaves, stripConversions, ih, stripConversions]
      | convertChecked => rw [mapLeaves, stripConversions, ih, stripConversions]
      | _ => rfl
  | _ => rfl

end MapLeaves

theorem mapLeaves_id (e : Expr) : e.mapLeaves id id = e := by
  induction e with
  | call target name args type ihtarget ihargs =>
      rw [mapLeaves, ihtarget, mapArgs_eq_map, List.map_congr_left ihargs, List.map_id']
  | staticCall name args type ihargs =>
      rw [mapLeaves, mapArgs_eq_map, List.map_congr_left ihargs, List.map_id']
  | object members ih =>
      have hmembers : members.map (fun entry => (entry.1, entry.2.mapLeaves id id)) = members := by
        refine (List.map_congr_left fun entry hentry => ?_).trans (List.map_id members)
        rw [ih entry hentry]
        rfl
      rw [mapLeaves, mapMembers_eq_map, hmembers]
  | _ => simp_all [mapLeaves]

end StreamQuery.Expr
