import StreamQuery.Proofs.Expr.MapLeaves
import StreamQuery.Proofs.Lowering.Agree

/-!
# Lowering follows the leaves

What lowering does to an expression is decided by its leaves and by the member accesses that it
names by a column. Two expressions with equal images under maps of their leaves have one shape: if
their leaves are lowered alike, each under rules of its own, then so are the expressions.
-/

namespace StreamQuery.Expr

mutual

/-- The member accesses, as target and name, that lowering names by a column. -/
def namedMembers : Expr → List (Expr × String)
  | .parameter .. => []
  | .member target name _ =>
    if LoweringRules.isDerived target name then target.namedMembers else [(target, name)]
  | .bareMember .. => []
  | .call target _ args _ => target.namedMembers ++ argNamedMembers args
  | .staticCall _ args _ => argNamedMembers args
  | .binary _ left right => left.namedMembers ++ right.namedMembers
  | .unary _ operand _ => operand.namedMembers
  | .constant _ => []
  | .conditional test ifTrue ifFalse =>
    test.namedMembers ++ (ifTrue.namedMembers ++ ifFalse.namedMembers)
  | .object members => memberNamedMembers members
  | .lambda _ body => body.namedMembers
  | .source _ => []

def argNamedMembers : List Expr → List (Expr × String)
  | [] => []
  | e :: rest => e.namedMembers ++ argNamedMembers rest

def memberNamedMembers : List (Option String × Expr) → List (Expr × String)
  | [] => []
  | (_, e) :: rest => e.namedMembers ++ memberNamedMembers rest

end

theorem mem_argNamedMembers {access : Expr × String} {args : List Expr} :
    access ∈ argNamedMembers args ↔ ∃ arg ∈ args, access ∈ arg.namedMembers := by
  induction args with
  | nil => simp [argNamedMembers]
  | cons head tail ih => simp [argNamedMembers, ih]

theorem mem_memberNamedMembers {access : Expr × String} {members : List (Option String × Expr)} :
    access ∈ memberNamedMembers members ↔ ∃ entry ∈ members, access ∈ entry.2.namedMembers := by
  induction members with
  | nil => simp [memberNamedMembers]
  | cons head tail ih => simp [memberNamedMembers, ih]

theorem mem_namedMembers {access : Expr × String} {e : Expr}
    (hmember : ∀ target name type, e ≠ .member target name type) :
    access ∈ e.namedMembers ↔ ∃ child ∈ e.children, access ∈ child.namedMembers := by
  cases e with
  | member target name type => exact absurd rfl (hmember target name type)
  | object members =>
      simp only [namedMembers, children, mem_memberNamedMembers, List.mem_map]
      constructor
      · rintro ⟨entry, hentry, haccess⟩
        exact ⟨entry.2, ⟨entry, hentry, rfl⟩, haccess⟩
      · rintro ⟨_, ⟨entry, hentry, rfl⟩, haccess⟩
        exact ⟨entry, hentry, haccess⟩
  | _ => simp [namedMembers, children, mem_argNamedMembers]

theorem namedMembers_of_child {p : Expr × String → Prop} {e child : Expr}
    (hmember : ∀ target name type, e ≠ .member target name type)
    (h : ∀ access ∈ e.namedMembers, p access) (hchild : child ∈ e.children) :
    ∀ access ∈ child.namedMembers, p access := by
  intro access haccess
  exact h access ((mem_namedMembers hmember).mpr ⟨child, hchild, haccess⟩)

theorem member_mem_nodes {access : Expr × String} {e : Expr} (h : access ∈ e.namedMembers) :
    ∃ type, .member access.1 access.2 type ∈ e.nodes := by
  induction e using children_induction with
  | step e ih =>
      have hchild : (∃ child ∈ e.children, access ∈ child.namedMembers) →
          ∃ type, .member access.1 access.2 type ∈ e.nodes := by
        rintro ⟨child, hchild, haccess⟩
        obtain ⟨type, hnode⟩ := ih child hchild haccess
        exact ⟨type, mem_nodes.mpr (Or.inr ⟨child, hchild, hnode⟩)⟩
      by_cases hmember : ∃ target name type, e = .member target name type
      · obtain ⟨target, name, type, rfl⟩ := hmember
        rw [namedMembers] at h
        split at h
        · exact hchild ⟨target, List.mem_singleton_self target, h⟩
        · rw [List.mem_singleton.mp h]
          exact ⟨type, List.mem_cons_self⟩
      · refine hchild ((mem_namedMembers fun target name type heq => ?_).mp h)
        exact hmember ⟨target, name, type, heq⟩

theorem forall₂_of_map_eq {α β γ : Type} {f : α → γ} {g : β → γ} {P : α → β → Prop}
    {xs : List α} {ys : List β} (h : xs.map f = ys.map g)
    (hP : ∀ x ∈ xs, ∀ y, f x = g y → P x y) : List.Forall₂ P xs ys := by
  have hsame : List.Forall₂ (fun x y => f x = g y) xs ys := by
    rwa [← List.forall₂_eq_eq_eq, List.forall₂_map_left_iff, List.forall₂_map_right_iff] at h
  induction hsame with
  | nil => exact .nil
  | cons hhead htail ih =>
      refine .cons (hP _ (by simp) _ hhead) (ih ?_ fun x hx => hP x (by simp [hx]))
      exact (List.cons.inj h).2

section Leaves

variable (named : String → Prop) (R : Sql → Sql → Prop) (rules rules' : LoweringRules)
  (constant constant' : Constant → Constant) (parameter parameter' : String → String)

/-- A node that is lowered like every node with the same image, as far as its own text goes, and
whose method or member is `named`. -/
def LeafAlike : Expr → Prop
  | .parameter name _ =>
    ∀ name', parameter name = parameter' name' →
      R (.star (Dictionary.get? name rules.aliases)) (.star (Dictionary.get? name' rules'.aliases))
  | .member _ name _ => named name
  | .bareMember name _ => R (.column name) (.column name)
  | .call _ name _ _ => named name
  | .staticCall name _ _ => named name
  | .constant value =>
    ∀ value', constant value = constant' value' →
      Agree R (do return .literal (← value.literal rules.clause))
        (do return .literal (← value'.literal rules'.clause))
  | _ => True

/-- An expression all of whose leaves are lowered alike, as are the columns that name its
members. -/
structure LeavesAlike (e : Expr) : Prop where
  nodes : ∀ node ∈ e.nodes,
    LeafAlike named R rules rules' constant constant' parameter parameter' node
  members : ∀ access ∈ e.namedMembers, ∀ target',
    access.1.mapLeaves constant parameter = target'.mapLeaves constant' parameter' →
      Agree R (rules.memberColumn access.1 access.2) (rules'.memberColumn target' access.2)

/-- Rules that differ at most in how they name members, and a relation that lowering under them
keeps. -/
structure LeafSimulation : Prop where
  congruence : Sql.Congruence named R
  named_coalesce : named "Coalesce"
  named_arrayLength : named "ArrayLength"
  truth : ∀ value : Bool, R (.literal (if value then "true" else "false"))
    (.literal (if value then "true" else "false"))
  clause_eq : rules.clause = rules'.clause
  inequality_eq : rules.inequality = rules'.inequality
  idioms_eq : rules.booleanIdioms = rules'.booleanIdioms
  null_iff : ∀ value value', constant value = constant' value' →
    (value = .null ↔ value' = .null)

variable {named R rules rules' constant constant' parameter parameter'}

open LoweringRules

theorem LeavesAlike.self {e : Expr}
    (h : LeavesAlike named R rules rules' constant constant' parameter parameter' e) :
    LeafAlike named R rules rules' constant constant' parameter parameter' e :=
  h.nodes e (self_mem_nodes e)

theorem LeavesAlike.child {e child : Expr}
    (h : LeavesAlike named R rules rules' constant constant' parameter parameter' e)
    (hmember : ∀ target name type, e ≠ .member target name type) (hchild : child ∈ e.children) :
    LeavesAlike named R rules rules' constant constant' parameter parameter' child where
  nodes := nodes_of_child h.nodes hchild
  members := namedMembers_of_child hmember h.members hchild

theorem isNullConstant_constant (value : Constant) :
    (Expr.constant value).isNullConstant = decide (value = .null) := by
  cases value <;> simp [isNullConstant]

theorem isBoolMember_mapLeaves (e : Expr) :
    (e.mapLeaves constant parameter).isBoolMember = e.isBoolMember := by
  cases e <;> simp [mapLeaves, isBoolMember]

theorem agree_comparedWith (h : LeafSimulation named R rules rules' constant constant')
    (value : Bool) {x y : Except Failure Sql} (hxy : Agree R x y) :
    Agree R (comparedWith value x) (comparedWith value y) :=
  hxy.map fun _ _ hrelated => h.congruence.binary hrelated (h.truth value)

theorem isBoolMember_eq_of_mapLeaves_eq {e e' : Expr}
    (hsame : e.mapLeaves constant parameter = e'.mapLeaves constant' parameter') :
    e.isBoolMember = e'.isBoolMember := by
  rw [← @isBoolMember_mapLeaves constant parameter e, hsame, isBoolMember_mapLeaves]

/-- A member access, if its target is lowered alike wherever the access is not named by a column. -/
theorem LowersAlike.member (h : LeafSimulation named R rules rules' constant constant')
    {target target' : Expr} {name : String} {type : DataType}
    (hsame : target.mapLeaves constant parameter = target'.mapLeaves constant' parameter')
    (hleaves : LeavesAlike named R rules rules' constant constant' parameter parameter'
      (.member target name type))
    (htarget : LeavesAlike named R rules rules' constant constant' parameter parameter' target →
      LowersAlike R rules rules' target target') :
    LowersAlike R rules rules' (.member target name type) (.member target' name type) := by
  have hmembers := hleaves.members
  have htype : target.dataType = target'.dataType := by
    simpa using congrArg dataType hsame
  have hlowered : Agree R (rules.lowerMember target name (target.lower rules .value))
      (rules'.lowerMember target' name (target'.lower rules' .value)) := by
    refine agree_lowerMember h.congruence hleaves.self htype ?_ ?_
    · intro hderived
      rw [namedMembers, if_pos hderived] at hmembers
      exact (htarget ⟨nodes_of_child hleaves.nodes (by simp [children]), hmembers⟩).lower .value
    · intro hderived
      rw [namedMembers, if_neg (by simp [hderived])] at hmembers
      exact hmembers (target, name) (by simp) target' hsame
  have hbool : (Expr.member target name type).isBoolMember =
      (Expr.member target' name type).isBoolMember := by
    simp [isBoolMember, htype]
  refine .of_ne_object rfl (by simp [kind]) rfl fun position => ?_
  rw [Expr.lower, Expr.lower, hbool, h.idioms_eq]
  split
  · exact agree_comparedWith h true hlowered
  · exact hlowered

theorem LowersAlike.not (h : LeafSimulation named R rules rules' constant constant')
    {operand operand' : Expr} (type : DataType)
    (hbool : operand.isBoolMember = operand'.isBoolMember)
    (hoperand : LowersAlike R rules rules' operand operand') :
    LowersAlike R rules rules' (.unary .not operand type) (.unary .not operand' type) := by
  refine .of_ne_object rfl (by simp [kind]) rfl fun position => ?_
  rw [lower_not, lower_not, hbool, h.idioms_eq]
  split
  · exact agree_comparedWith h false (hoperand.lower .value)
  · exact (hoperand.lower .condition).map fun _ _ hrelated => h.congruence.not hrelated

/-- Lowering agrees on two expressions with one image, if it agrees on their leaves and on the
columns that name their members. -/
theorem lowersAlike_of_mapLeaves_eq (h : LeafSimulation named R rules rules' constant constant')
    {e e' : Expr} (hsame : e.mapLeaves constant parameter = e'.mapLeaves constant' parameter')
    (hleaves : LeavesAlike named R rules rules' constant constant' parameter parameter' e) :
    LowersAlike R rules rules' e e' := by
  have hR := h.congruence
  -- Images that are equal have one constructor, so `e'` has the constructor of `e`.
  induction e generalizing e' with
  | parameter name type =>
      cases e' with
      | parameter name' type' =>
          simp only [mapLeaves, Expr.parameter.injEq] at hsame
          exact .of_ne_object rfl (by simp [kind]) rfl fun position =>
            .ok (hleaves.self name' hsame.1)
      | _ => simp [mapLeaves] at hsame
  | member target name type ih =>
      cases e' with
      | member target' name' type' =>
          simp only [mapLeaves, member.injEq] at hsame
          obtain ⟨htarget, rfl, rfl⟩ := hsame
          exact .member h htarget hleaves fun hleaves => ih htarget hleaves
      | _ => simp [mapLeaves] at hsame
  | bareMember name type =>
      cases e' with
      | bareMember name' type' =>
          simp only [mapLeaves, bareMember.injEq] at hsame
          obtain ⟨rfl, rfl⟩ := hsame
          exact .of_ne_object rfl (by simp [kind]) rfl fun position => .ok hleaves.self
      | _ => simp [mapLeaves] at hsame
  | call target name args type ihtarget ihargs =>
      cases e' with
      | call target' name' args' type' =>
          simp only [mapLeaves, mapArgs_eq_map, call.injEq] at hsame
          obtain ⟨htarget, rfl, hargs, rfl⟩ := hsame
          refine .call hR h.clause_eq type hleaves.self ?_
            (forall₂_of_map_eq hargs fun arg harg arg' hsame => ?_)
          · exact ihtarget htarget (hleaves.child (by simp) (by simp [children]))
          · exact ihargs arg harg hsame (hleaves.child (by simp) (by simp [children, harg]))
      | _ => simp [mapLeaves] at hsame
  | staticCall name args type ihargs =>
      cases e' with
      | staticCall name' args' type' =>
          simp only [mapLeaves, mapArgs_eq_map, staticCall.injEq] at hsame
          obtain ⟨rfl, hargs, rfl⟩ := hsame
          refine .staticCall hR h.clause_eq type hleaves.self
            (forall₂_of_map_eq hargs fun arg harg arg' hsame => ?_)
          exact ihargs arg harg hsame (hleaves.child (by simp) (by simp [children, harg]))
      | _ => simp [mapLeaves] at hsame
  | binary op left right ihleft ihright =>
      cases e' with
      | binary op' left' right' =>
          simp only [mapLeaves, binary.injEq] at hsame
          obtain ⟨rfl, hleft, hright⟩ := hsame
          refine .binary hR h.named_coalesce h.clause_eq h.inequality_eq op ?_ ?_
          · exact ihleft hleft (hleaves.child (by simp) (by simp [children]))
          · exact ihright hright (hleaves.child (by simp) (by simp [children]))
      | _ => simp [mapLeaves] at hsame
  | unary op operand type ih =>
      cases e' with
      | unary op' operand' type' =>
          simp only [mapLeaves, unary.injEq] at hsame
          obtain ⟨rfl, hsame, rfl⟩ := hsame
          have hoperand := ih hsame (hleaves.child (by simp) (by simp [children]))
          by_cases hnot : op = .not
          · subst hnot
            exact .not h type (isBoolMember_eq_of_mapLeaves_eq hsame) hoperand
          · exact .unary hR h.named_arrayLength hnot type hoperand
      | _ => simp [mapLeaves] at hsame
  | constant value =>
      cases e' with
      | constant value' =>
          simp only [mapLeaves, Expr.constant.injEq] at hsame
          have hnull : (Expr.constant value).isNullConstant =
              (Expr.constant value').isNullConstant := by
            simp only [isNullConstant_constant, h.null_iff value value' hsame]
          refine .of_ne_object rfl (by simp [kind]) hnull fun position => ?_
          rw [lower, lower]
          exact hleaves.self value' hsame
      | _ => simp [mapLeaves] at hsame
  | conditional test ifTrue ifFalse ihtest ihtrue ihfalse =>
      cases e' with
      | conditional test' ifTrue' ifFalse' =>
          simp only [mapLeaves, conditional.injEq] at hsame
          obtain ⟨htest, htrue, hfalse⟩ := hsame
          refine .conditional hR ?_ ?_ ?_
          · exact ihtest htest (hleaves.child (by simp) (by simp [children]))
          · exact ihtrue htrue (hleaves.child (by simp) (by simp [children]))
          · exact ihfalse hfalse (hleaves.child (by simp) (by simp [children]))
      | _ => simp [mapLeaves] at hsame
  | object members ih =>
      cases e' with
      | object members' =>
          simp only [mapLeaves, mapMembers_eq_map, object.injEq] at hsame
          refine .object h.clause_eq
            (forall₂_of_map_eq hsame fun entry hentry entry' hsame => ?_)
          exact ih entry hentry (Prod.mk.inj hsame).2
            (hleaves.child (by simp) (List.mem_map.mpr ⟨entry, hentry, rfl⟩))
      | _ => simp [mapLeaves] at hsame
  | lambda params body ih =>
      cases e' with
      | lambda params' body' =>
          simp only [mapLeaves, lambda.injEq] at hsame
          exact .lambda params params' (ih hsame.2 (hleaves.child (by simp) (by simp [children])))
      | _ => simp [mapLeaves] at hsame
  | source name =>
      cases e' with
      | source name' =>
          simp only [mapLeaves, source.injEq] at hsame
          exact hsame ▸ .source h.clause_eq name
      | _ => simp [mapLeaves] at hsame

end Leaves

end StreamQuery.Expr
