import StreamQuery.Proofs.Failure
import StreamQuery.Proofs.Lowering.Agree

/-!
# Failures of lowering

Lowering names what it cannot express, and wraps nothing: what it fails with is the root of every
failure that it becomes part of.
-/

namespace StreamQuery

open Failure

namespace LoweringRules

variable {rules : LoweringRules}

theorem isRoot_of_columnOfPath (leaf : String) (path : List String) (e : Expr) :
    FailsOnly IsRoot (rules.columnOfPath leaf path e) := by
  induction e generalizing path with
  | parameter name type => exact .ok _
  | member target name type ih => exact ih _
  | unary op operand type ih =>
      cases op with
      | convert => exact ih path
      | convertChecked => exact ih path
      | typeAs => exact ih path
      | _ => exact .error trivial
  | _ => exact .error trivial

theorem isRoot_of_lowerMember {target : Expr} {name : String} {lowered : Except Failure Sql}
    (h : FailsOnly IsRoot lowered) : FailsOnly IsRoot (rules.lowerMember target name lowered) := by
  unfold lowerMember
  split
  · exact h.map
  split
  · exact h
  split
  · exact h.map
  split
  · exact h.map
  split
  · exact .ok _
  · exact isRoot_of_columnOfPath _ _ _

theorem isRoot_of_lowerCall {target : Option (Except Failure Sql)} {name : String}
    {args : List Expr} {lowered : List (Except Failure Sql)}
    (htarget : ∀ receiver ∈ target, FailsOnly IsRoot receiver)
    (hlowered : ∀ arg ∈ lowered, FailsOnly IsRoot arg) :
    FailsOnly IsRoot (rules.lowerCall target name args lowered) := by
  unfold lowerCall
  split
  · exact .error trivial
  · refine FailsOnly.map (FailsOnly.mapM ?_)
    cases target with
    | some receiver =>
        dsimp only
        split
        · exact hlowered
        · exact List.forall_mem_cons.mpr ⟨htarget receiver rfl, hlowered⟩
    | none =>
        dsimp only
        split
        · exact fun arg harg => hlowered arg (List.mem_of_mem_tail harg)
        · exact hlowered

theorem isRoot_of_lowerKeys {op : BinaryOp} {left right : List (Except Failure Sql)}
    (hleft : ∀ part ∈ left, FailsOnly IsRoot part)
    (hright : ∀ part ∈ right, FailsOnly IsRoot part) :
    FailsOnly IsRoot (rules.lowerKeys op left right) := by
  unfold lowerKeys lowerKeyPairs
  split
  · exact .error trivial
  · refine FailsOnly.map (FailsOnly.mapM ?_)
    rintro ⟨l, r⟩ hpair
    obtain ⟨hl, hr⟩ := List.of_mem_zip hpair
    exact (hleft l hl).bind fun _ _ => (hright r hr).map

theorem isRoot_of_lowerOperator {op : BinaryOp} {left right : Except Failure Sql}
    (hleft : FailsOnly IsRoot left) (hright : FailsOnly IsRoot right) :
    FailsOnly IsRoot (rules.lowerOperator op left right) := by
  unfold lowerOperator
  split
  · exact hleft.bind fun _ _ => hright.map
  · exact .error trivial

end LoweringRules

theorem Constant.isRoot_of_literal (clause : String) (value : Constant) :
    FailsOnly IsRoot (value.literal clause) := by
  cases value with
  | window settings => exact .error trivial
  | _ => exact .ok _

namespace Expr

open LoweringRules

/-- Lowering fails at a root, and so does each member of an object. -/
structure FailsAtRoot (rules : LoweringRules) (e : Expr) : Prop where
  lower : ∀ position, FailsOnly IsRoot (e.lower rules position)
  parts : ∀ part ∈ lowerParts rules e, FailsOnly IsRoot part

namespace FailsAtRoot

variable {rules : LoweringRules}

theorem of_lower {e : Expr} (hobject : e.isObject = false)
    (h : ∀ position, FailsOnly IsRoot (e.lower rules position)) : FailsAtRoot rules e where
  lower := h
  parts := by
    cases e with
    | object members => cases hobject
    | _ => simp [lowerParts]

theorem forall_lowerArgs {args : List Expr} (h : ∀ arg ∈ args, FailsAtRoot rules arg) :
    ∀ lowered ∈ lowerArgs rules args, FailsOnly IsRoot lowered := by
  rw [lowerArgs_eq_map]
  intro lowered hlowered
  obtain ⟨arg, harg, rfl⟩ := List.mem_map.mp hlowered
  exact (h arg harg).lower .value

theorem binary {op : BinaryOp} {left right : Expr} (hleft : FailsAtRoot rules left)
    (hright : FailsAtRoot rules right) : FailsAtRoot rules (.binary op left right) := by
  refine of_lower rfl fun position => ?_
  simp only [Expr.lower]
  split
  · exact (hleft.lower .value).map
  split
  · exact (hright.lower .value).map
  split
  · exact isRoot_of_lowerKeys hleft.parts hright.parts
  split
  · exact (hleft.lower .condition).bind fun _ _ => (hright.lower .condition).map
  · exact (hleft.lower .condition).bind fun _ _ => (hright.lower .condition).map
  · exact (hleft.lower .value).bind fun _ _ => (hright.lower .value).map
  · exact isRoot_of_lowerOperator (hleft.lower .value) (hright.lower .value)

theorem unary {op : UnaryOp} {operand : Expr} {type : DataType} (h : FailsAtRoot rules operand) :
    FailsAtRoot rules (.unary op operand type) := by
  refine of_lower rfl fun position => ?_
  cases op with
  | not =>
      rw [lower_not]
      split
      · exact (h.lower .value).map
      · exact (h.lower .condition).map
  | negate => exact (h.lower .value).map
  | convert => exact h.lower .value
  | convertChecked => exact h.lower .value
  | typeAs => exact h.lower .value
  | arrayLength => exact (h.lower .value).map

end FailsAtRoot

theorem failsAtRoot (rules : LoweringRules) (e : Expr) : FailsAtRoot rules e := by
  induction e with
  | parameter name type => exact .of_lower rfl fun _ => .ok _
  | member target name type ih =>
      refine .of_lower rfl fun position => ?_
      rw [lower]
      split
      · exact (isRoot_of_lowerMember (ih.lower .value)).map
      · exact isRoot_of_lowerMember (ih.lower .value)
  | bareMember name type => exact .of_lower rfl fun _ => .ok _
  | call target name args type ihtarget ihargs =>
      refine .of_lower rfl fun position => ?_
      rw [lower]
      exact isRoot_of_lowerCall (by simpa using ihtarget.lower .value)
        (FailsAtRoot.forall_lowerArgs ihargs)
  | staticCall name args type ihargs =>
      refine .of_lower rfl fun position => ?_
      rw [lower]
      exact isRoot_of_lowerCall (by simp) (FailsAtRoot.forall_lowerArgs ihargs)
  | binary op left right ihleft ihright => exact ihleft.binary ihright
  | unary op operand type ih => exact ih.unary
  | constant value => exact .of_lower rfl fun _ => (value.isRoot_of_literal _).map
  | conditional test ifTrue ifFalse ihtest ihtrue ihfalse =>
      refine .of_lower rfl fun position => ?_
      rw [lower]
      exact (ihtest.lower .condition).bind fun _ _ => (ihtrue.lower .value).bind fun _ _ =>
        (ihfalse.lower .value).map
  | object members ih =>
      constructor
      · exact fun position => .error trivial
      · rw [lowerParts, lowerMembers_eq_map]
        intro part hpart
        obtain ⟨entry, hentry, rfl⟩ := List.mem_map.mp hpart
        exact (ih entry hentry).lower .value
  | lambda params body ih =>
      refine .of_lower rfl fun position => ?_
      rw [lower]
      exact ih.lower position
  | source name => exact .of_lower rfl fun position => .error trivial

theorem isRoot_of_lower (rules : LoweringRules) (position : Position) (e : Expr) :
    FailsOnly IsRoot (e.lower rules position) :=
  (failsAtRoot rules e).lower position

end Expr

end StreamQuery
