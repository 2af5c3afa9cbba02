import StreamQuery.Proofs.Lowering.Aggregates
import StreamQuery.Proofs.Sql.Nodes

/-!
# What an expression is lowered to

One rule for each way in which lowering can succeed, and induction along these rules. A rule speaks
of the parts of the expression that are lowered themselves: its children, and the members of two
objects that are compared. So every node of the result was made for a node of the expression.
-/

namespace StreamQuery

namespace Expr

def IsPart (part e : Expr) : Prop :=
  part ∈ e.children ∨ ∃ child ∈ e.children, part ∈ child.children

theorem part_induction {motive : Expr → Prop}
    (step : ∀ e, (∀ part, IsPart part e → motive part) → motive e) (e : Expr) : motive e := by
  have hboth : motive e ∧ ∀ child ∈ e.children, motive child := by
    induction e using children_induction with
    | step e ih =>
        have hchildren : ∀ child ∈ e.children, motive child :=
          fun child hchild => (ih child hchild).1
        refine ⟨step e ?_, hchildren⟩
        rintro part (hpart | ⟨child, hchild, hpart⟩)
        · exact hchildren part hpart
        · exact (ih child hchild).2 part hpart
  exact hboth.1

theorem mem_nodes_of_isPart {part e node : Expr} (h : IsPart part e) (hnode : node ∈ part.nodes) :
    node ∈ e.nodes := by
  rcases h with hpart | ⟨child, hchild, hpart⟩
  · exact mem_nodes.mpr (Or.inr ⟨part, hpart, hnode⟩)
  · have hinner := mem_nodes.mpr (Or.inr ⟨part, hpart, hnode⟩)
    exact mem_nodes.mpr (Or.inr ⟨child, hchild, hinner⟩)

end Expr

/-- The test of two composite keys. -/
def Sql.keyTest (op : BinaryOp) (pairs : List (Sql × Sql)) : Sql :=
  if op = .notEqual then .not (.keyEquality pairs) else .keyEquality pairs

open LoweringRules in
/-- A node that lowering makes for an expression, given that `R` relates the parts of the expression
to what they are lowered to. -/
inductive BuiltBy (rules : LoweringRules) (R : Position → Expr → Sql → Prop) :
    Position → Expr → Sql → Prop
  | parameter {position : Position} (name : String) (type : DataType) :
    BuiltBy rules R position (.parameter name type) (.star (Dictionary.get? name rules.aliases))
  | bareMember {position : Position} (name : String) (type : DataType) :
    BuiltBy rules R position (.bareMember name type) (.column name)
  | member {position : Position} {target : Expr} {name column : String} (type : DataType)
    (hderived : isDerived target name = false)
    (h : rules.memberColumn target name = .ok (.column column)) :
    BuiltBy rules R position (.member target name type) (.column column)
  | hasValue {position : Position} {target : Expr} {t : Sql} (type : DataType)
    (h : R .value target t) :
    BuiltBy rules R position (.member target "HasValue" type) (.isNull t true)
  /-- A boolean member in the place of a condition. -/
  | isTrue {e : Expr} {t : Sql} (hidioms : rules.booleanIdioms) (hbool : e.isBoolMember)
    (h : R .value e t) :
    BuiltBy rules R .condition e (.binary .equal t (.literal "true"))
  | call {position : Position} {e : Expr} {name : String} {operands : List Expr} {ts : List Sql}
    (hname : e.methodName? = some name) (hoperands : ∀ operand ∈ operands, operand ∈ e.children)
    (h : List.Forall₂ (R .value) operands ts) (onInstance : Bool) :
    BuiltBy rules R position e (.call name ts onInstance)
  | property {position : Position} {target : Expr} {name : String} {t : Sql} (type : DataType)
    (hname : name ∈ SqlFunction.addedMethods) (h : R .value target t) :
    BuiltBy rules R position (.member target name type) (.call name [t] false)
  | coalesce {position : Position} {left right : Expr} {l r : Sql} (hleft : R .value left l)
    (hright : R .value right r) :
    BuiltBy rules R position (.binary .coalesce left right) (.call "Coalesce" [l, r] false)
  | arrayLength {position : Position} {operand : Expr} {t : Sql} (type : DataType)
    (h : R .value operand t) :
    BuiltBy rules R position (.unary .arrayLength operand type) (.call "ArrayLength" [t] false)
  | nullTest {position : Position} {op : BinaryOp} {left right operand : Expr} {t : Sql}
    (hop : op.isEquality)
    (hnull : right.isNullConstant ∧ operand = left ∨ left.isNullConstant ∧ operand = right)
    (h : R .value operand t) :
    BuiltBy rules R position (.binary op left right) (.isNull t (op = .notEqual))
  | keys {position : Position} {op : BinaryOp} {members members' : List (Option String × Expr)}
    {ts ts' : List Sql} (hop : op.isEquality) (hlength : members.length = members'.length)
    (h : List.Forall₂ (R .value) (members.map (·.2)) ts)
    (h' : List.Forall₂ (R .value) (members'.map (·.2)) ts') :
    BuiltBy rules R position (.binary op (.object members) (.object members'))
      (.keyTest op (ts.zip ts'))
  | logical {position : Position} {op : BinaryOp} {symbol : SqlOp} {left right : Expr} {l r : Sql}
    (hop : op = .andAlso ∧ symbol = .and ∨ op = .orElse ∧ symbol = .or)
    (hleft : R .condition left l) (hright : R .condition right r) :
    BuiltBy rules R position (.binary op left right) (.binary symbol l r)
  | operator {position : Position} {op : BinaryOp} {symbol : SqlOp} {left right : Expr} {l r : Sql}
    (hop : rules.operator? op = some symbol)
    (hnull : op.isEquality → left.isNullConstant = false ∧ right.isNullConstant = false)
    (hleft : R .value left l) (hright : R .value right r) :
    BuiltBy rules R position (.binary op left right) (.binary symbol l r)
  | isFalse {operand : Expr} {t : Sql} (type : DataType) (hidioms : rules.booleanIdioms)
    (hbool : operand.isBoolMember) (h : R .value operand t) :
    BuiltBy rules R .condition (.unary .not operand type) (.binary .equal t (.literal "false"))
  | not {position : Position} {operand : Expr} {t : Sql} (type : DataType)
    (h : R .condition operand t) : BuiltBy rules R position (.unary .not operand type) (.not t)
  | negate {position : Position} {operand : Expr} {t : Sql} (type : DataType)
    (h : R .value operand t) : BuiltBy rules R position (.unary .negate operand type) (.negate t)
  | constant {position : Position} {value : Constant} {text : String}
    (h : value.literal rules.clause = .ok text) :
    BuiltBy rules R position (.constant value) (.literal text)
  | conditional {position : Position} {test ifTrue ifFalse : Expr} {c a b : Sql}
    (htest : R .condition test c) (htrue : R .value ifTrue a) (hfalse : R .value ifFalse b) :
    BuiltBy rules R position (.conditional test ifTrue ifFalse) (.case c a b)

/-- What an expression is lowered to: a node made for it, or what one of its parts is lowered to. -/
inductive LoweredBy (rules : LoweringRules) (R : Position → Expr → Sql → Prop) :
    Position → Expr → Sql → Prop
  | built {position : Position} {e : Expr} {t : Sql} (h : BuiltBy rules R position e t) :
    LoweredBy rules R position e t
  | value {position : Position} {target : Expr} {t : Sql} (type : DataType)
    (hnullable : target.dataType.isNullable) (h : R .value target t) :
    LoweredBy rules R position (.member target "Value" type) t
  | conversion {position : Position} {op : UnaryOp} {operand : Expr} {t : Sql} (type : DataType)
    (hop : op ∈ [.convert, .convertChecked, .typeAs]) (h : R .value operand t) :
    LoweredBy rules R position (.unary op operand type) t
  | lambda {position : Position} {body : Expr} {t : Sql} (params : List String)
    (h : R position body t) : LoweredBy rules R position (.lambda params body) t

section

variable {rules : LoweringRules} {R R' : Position → Expr → Sql → Prop} {position : Position}
  {e : Expr} {t : Sql}

theorem forall₂_value_imp {operands : List Expr} {ts : List Sql}
    (h : List.Forall₂ (R .value) operands ts)
    (himp : ∀ operand ∈ operands, ∀ s, R .value operand s → R' .value operand s) :
    List.Forall₂ (R' .value) operands ts := by
  induction h with
  | nil => exact .nil
  | cons hhead _ ih =>
      rw [List.forall_mem_cons] at himp
      exact .cons (himp.1 _ hhead) (ih himp.2)

/-- A rule speaks of nothing but the parts, and of the value of a condition. -/
theorem BuiltBy.imp (h : BuiltBy rules R position e t)
    (hpart : ∀ position' part s, part.IsPart e → R position' part s → R' position' part s)
    (hvalue : position = .condition → ∀ s, R .value e s → R' .value e s) :
    BuiltBy rules R' position e t := by
  have hchild : ∀ position' part s, part ∈ e.children → R position' part s →
      R' position' part s :=
    fun position' part s hmem => hpart position' part s (Or.inl hmem)
  cases h with
  | parameter name type => exact .parameter name type
  | bareMember name type => exact .bareMember name type
  | member type hderived h => exact .member type hderived h
  | hasValue type h => exact .hasValue type (hchild _ _ _ (by simp [Expr.children]) h)
  | isTrue hidioms hbool h => exact .isTrue hidioms hbool (hvalue rfl _ h)
  | call hname hoperands h onInstance =>
      refine .call hname hoperands (forall₂_value_imp h ?_) onInstance
      exact fun operand hoperand s => hchild .value operand s (hoperands operand hoperand)
  | property type hname h =>
      exact .property type hname (hchild _ _ _ (by simp [Expr.children]) h)
  | coalesce hleft hright =>
      exact .coalesce (hchild _ _ _ (by simp [Expr.children]) hleft)
        (hchild _ _ _ (by simp [Expr.children]) hright)
  | arrayLength type h => exact .arrayLength type (hchild _ _ _ (by simp [Expr.children]) h)
  | nullTest hop hnull h =>
      refine .nullTest hop hnull (hchild _ _ _ ?_ h)
      rcases hnull with ⟨-, rfl⟩ | ⟨-, rfl⟩ <;> simp [Expr.children]
  | keys hop hlength h h' =>
      refine .keys hop hlength (forall₂_value_imp h ?_) (forall₂_value_imp h' ?_)
      · intro operand hoperand s
        exact hpart .value operand s (Or.inr ⟨_, List.mem_cons_self, hoperand⟩)
      · intro operand hoperand s
        exact hpart .value operand s
          (Or.inr ⟨_, List.mem_cons_of_mem _ List.mem_cons_self, hoperand⟩)
  | logical hop hleft hright =>
      exact .logical hop (hchild _ _ _ (by simp [Expr.children]) hleft)
        (hchild _ _ _ (by simp [Expr.children]) hright)
  | operator hop hnull hleft hright =>
      exact .operator hop hnull (hchild _ _ _ (by simp [Expr.children]) hleft)
        (hchild _ _ _ (by simp [Expr.children]) hright)
  | isFalse type hidioms hbool h =>
      exact .isFalse type hidioms hbool (hchild _ _ _ (by simp [Expr.children]) h)
  | not type h => exact .not type (hchild _ _ _ (by simp [Expr.children]) h)
  | negate type h => exact .negate type (hchild _ _ _ (by simp [Expr.children]) h)
  | constant h => exact .constant h
  | conditional htest htrue hfalse =>
      exact .conditional (hchild _ _ _ (by simp [Expr.children]) htest)
        (hchild _ _ _ (by simp [Expr.children]) htrue)
        (hchild _ _ _ (by simp [Expr.children]) hfalse)

theorem LoweredBy.imp (h : LoweredBy rules R position e t)
    (hpart : ∀ position' part s, part.IsPart e → R position' part s → R' position' part s)
    (hvalue : position = .condition → ∀ s, R .value e s → R' .value e s) :
    LoweredBy rules R' position e t := by
  cases h with
  | built h => exact .built (h.imp hpart hvalue)
  | value type hnullable h =>
      exact .value type hnullable (hpart _ _ _ (Or.inl List.mem_cons_self) h)
  | conversion type hop h =>
      exact .conversion type hop (hpart _ _ _ (Or.inl List.mem_cons_self) h)
  | lambda params h => exact .lambda params (hpart _ _ _ (Or.inl List.mem_cons_self) h)

end

namespace Expr

open LoweringRules

variable {rules : LoweringRules} {position : Position} {t : Sql}

/-- The relation of expressions to what they are lowered to. -/
def LowersTo (rules : LoweringRules) (position : Position) (e : Expr) (t : Sql) : Prop :=
  e.lower rules position = .ok t

theorem loweredBy_lowerMember {target : Expr} {name : String} (type : DataType)
    (h : rules.lowerMember target name (target.lower rules .value) = .ok t) :
    LoweredBy rules (LowersTo rules) position (.member target name type) t := by
  have hproperty : name ∈ SqlFunction.addedMethods →
      (do return .call name [← target.lower rules .value] false) = Except.ok t →
      LoweredBy rules (LowersTo rules) position (.member target name type) t := by
    intro hname hreturn
    obtain ⟨s, hs, hpure⟩ := bind_eq_ok_iff.mp hreturn
    obtain rfl := Except.ok.inj hpure
    exact .built (.property type hname hs)
  unfold lowerMember at h
  split at h
  · next hname =>
      subst hname
      obtain ⟨s, hs, hpure⟩ := bind_eq_ok_iff.mp h
      obtain rfl := Except.ok.inj hpure
      exact .built (.hasValue type hs)
  split at h
  · next hvalue =>
      obtain ⟨hname, hnullable⟩ := Bool.and_eq_true_iff.mp hvalue
      obtain rfl := of_decide_eq_true hname
      exact .value type hnullable h
  split at h
  · next hpart =>
      have hdate : isDatePart name := (Bool.and_eq_true_iff.mp hpart).1
      exact hproperty (SqlFunction.mem_addedMethods_of_isDatePart hdate) h
  split at h
  · next hlength =>
      obtain rfl := of_decide_eq_true (Bool.and_eq_true_iff.mp hlength).1
      exact hproperty (by decide) h
  · next hhas hvalue hpart hlength =>
      have hderived : isDerived target name = false := by
        simp [isDerived, hhas, hvalue, hpart, hlength]
      change rules.memberColumn target name = .ok t at h
      rcases rules.memberColumn_eq_error_or_column target name with
        ⟨failure, herror⟩ | ⟨column, hok⟩
      · rw [herror] at h
        cases h
      · obtain rfl := Except.ok.inj (hok.symm.trans h)
        exact .built (.member type hderived h)

theorem loweredBy_lowerCall {e : Expr} (target : Option Expr) {name : String} {args : List Expr}
    (hname : e.methodName? = some name) (hchildren : e.children = target.toList ++ args)
    (h : rules.lowerCall (target.map (·.lower rules .value)) name args (lowerArgs rules args) =
      .ok t) : LoweredBy rules (LowersTo rules) position e t := by
  unfold lowerCall at h
  split at h
  · cases h
  · obtain ⟨ts, hts, hpure⟩ := bind_eq_ok_iff.mp h
    obtain rfl := Except.ok.inj hpure
    -- What is left out, the group of an aggregating call, does not matter here.
    have hoperands : ∃ operands : List Expr, (∀ operand ∈ operands, operand ∈ e.children) ∧
        List.Forall₂ (LowersTo rules .value) operands ts := by
      rw [hchildren, lowerArgs_eq_map] at *
      have hkept := mapM_eq_ok_iff.mp hts
      cases target with
      | none =>
          dsimp only [Option.map_none] at hkept
          split at hkept
          · rw [← List.map_tail, List.forall₂_map_left_iff] at hkept
            exact ⟨args.tail, fun _ hmem => List.mem_of_mem_tail hmem, hkept⟩
          · rw [List.forall₂_map_left_iff] at hkept
            exact ⟨args, fun _ hmem => hmem, hkept⟩
      | some receiver =>
          dsimp only [Option.map_some] at hkept
          split at hkept
          · rw [List.forall₂_map_left_iff] at hkept
            exact ⟨args, fun _ hmem => List.mem_cons_of_mem _ hmem, hkept⟩
          · rw [← List.map_cons, List.forall₂_map_left_iff] at hkept
            exact ⟨receiver :: args, fun _ hmem => hmem, hkept⟩
    obtain ⟨operands, hmem, hlowered⟩ := hoperands
    exact .built (.call hname hmem hlowered _)

theorem loweredBy_lowerKeys {op : BinaryOp} {members members' : List (Option String × Expr)}
    (hop : op.isEquality)
    (h : rules.lowerKeys op (lowerMembers rules members) (lowerMembers rules members') = .ok t) :
    LoweredBy rules (LowersTo rules) position
      (.binary op (.object members) (.object members')) t := by
  unfold lowerKeys at h
  rw [lowerMembers_eq_map, lowerMembers_eq_map, List.length_map, List.length_map] at h
  split at h
  · cases h
  · next hlength =>
      have hlength : members.length = members'.length := Decidable.not_not.mp hlength
      obtain ⟨pairs, hpairs, hpure⟩ := bind_eq_ok_iff.mp h
      obtain ⟨ts, ts', rfl, hts, hts'⟩ := lowerKeyPairs_eq_ok (by simpa using hlength) hpairs
      obtain rfl := Except.ok.inj hpure
      rw [List.forall₂_map_left_iff] at hts hts'
      exact .built (.keys hop hlength (List.forall₂_map_left_iff.mpr hts)
        (List.forall₂_map_left_iff.mpr hts'))

theorem LowersTo.binary {op : BinaryOp} {left right : Expr}
    (h : LowersTo rules position (.binary op left right) t) :
    LoweredBy rules (LowersTo rules) position (.binary op left right) t := by
  simp only [LowersTo, lower] at h
  split at h
  · next hcompared =>
      obtain ⟨hop, hright⟩ := Bool.and_eq_true_iff.mp hcompared
      obtain ⟨s, hs, hpure⟩ := bind_eq_ok_iff.mp h
      obtain rfl := Except.ok.inj hpure
      exact .built (.nullTest hop (Or.inl ⟨hright, rfl⟩) hs)
  split at h
  · next hcompared =>
      obtain ⟨hop, hleft⟩ := Bool.and_eq_true_iff.mp hcompared
      obtain ⟨s, hs, hpure⟩ := bind_eq_ok_iff.mp h
      obtain rfl := Except.ok.inj hpure
      exact .built (.nullTest hop (Or.inr ⟨hleft, rfl⟩) hs)
  split at h
  · next hobjects =>
      obtain ⟨hequality, hright⟩ := Bool.and_eq_true_iff.mp hobjects
      obtain ⟨hop, hleft⟩ := Bool.and_eq_true_iff.mp hequality
      cases left <;> cases hleft
      cases right <;> cases hright
      exact loweredBy_lowerKeys hop h
  next hright hleft _ =>
  have hreturn : ∀ (place : Position) (build : Sql → Sql → Sql),
      (do return build (← left.lower rules place) (← right.lower rules place)) = Except.ok t →
      ∃ l r, LowersTo rules place left l ∧ LowersTo rules place right r ∧ t = build l r := by
    intro place build hbuild
    obtain ⟨l, hl, hafter⟩ := bind_eq_ok_iff.mp hbuild
    obtain ⟨r, hr, hpure⟩ := bind_eq_ok_iff.mp hafter
    exact ⟨l, r, hl, hr, (Except.ok.inj hpure).symm⟩
  split at h
  · obtain ⟨l, r, hl, hr, rfl⟩ := hreturn .condition (.binary .and) h
    exact .built (.logical (Or.inl ⟨rfl, rfl⟩) hl hr)
  · obtain ⟨l, r, hl, hr, rfl⟩ := hreturn .condition (.binary .or) h
    exact .built (.logical (Or.inr ⟨rfl, rfl⟩) hl hr)
  · obtain ⟨l, r, hl, hr, rfl⟩ := hreturn .value (fun l r => .call "Coalesce" [l, r] false) h
    exact .built (.coalesce hl hr)
  · unfold lowerOperator at h
    split at h
    · next symbol hsymbol =>
        obtain ⟨l, r, hl, hr, rfl⟩ := hreturn .value (.binary symbol) h
        refine .built (.operator hsymbol ?_ hl hr)
        intro hop
        simp only [hop, Bool.true_and, Bool.not_eq_true] at hright hleft
        exact ⟨hleft, hright⟩
    · cases h

theorem LowersTo.unary {op : UnaryOp} {operand : Expr} {type : DataType}
    (h : LowersTo rules position (.unary op operand type) t) :
    LoweredBy rules (LowersTo rules) position (.unary op operand type) t := by
  cases op with
  | not =>
      rw [LowersTo, lower_not] at h
      split at h
      · next hidiom =>
          obtain ⟨hcondition, hbool⟩ := Bool.and_eq_true_iff.mp hidiom
          obtain ⟨hposition, hidioms⟩ := Bool.and_eq_true_iff.mp hcondition
          obtain rfl := of_decide_eq_true hposition
          obtain ⟨s, hs, hpure⟩ := bind_eq_ok_iff.mp h
          obtain rfl := Except.ok.inj hpure
          exact .built (.isFalse type hidioms hbool hs)
      · obtain ⟨s, hs, hpure⟩ := bind_eq_ok_iff.mp h
        obtain rfl := Except.ok.inj hpure
        exact .built (.not type hs)
  | negate =>
      obtain ⟨s, hs, hpure⟩ := bind_eq_ok_iff.mp h
      obtain rfl := Except.ok.inj hpure
      exact .built (.negate type hs)
  | arrayLength =>
      obtain ⟨s, hs, hpure⟩ := bind_eq_ok_iff.mp h
      obtain rfl := Except.ok.inj hpure
      exact .built (.arrayLength type hs)
  | convert => exact .conversion type (by decide) h
  | convertChecked => exact .conversion type (by decide) h
  | typeAs => exact .conversion type (by decide) h

theorem LowersTo.by_rule {e : Expr} (h : LowersTo rules position e t) :
    LoweredBy rules (LowersTo rules) position e t := by
  cases e with
  | parameter name type =>
      obtain rfl := Except.ok.inj h
      exact .built (.parameter name type)
  | member target name type =>
      have hvalue : (Expr.member target name type).lower rules .value =
          rules.lowerMember target name (target.lower rules .value) := rfl
      rw [LowersTo, lower] at h
      split at h
      · next hidiom =>
          obtain ⟨hcondition, hbool⟩ := Bool.and_eq_true_iff.mp hidiom
          obtain ⟨hposition, hidioms⟩ := Bool.and_eq_true_iff.mp hcondition
          obtain rfl := of_decide_eq_true hposition
          obtain ⟨s, hs, hpure⟩ := bind_eq_ok_iff.mp h
          obtain rfl := Except.ok.inj hpure
          exact .built (.isTrue hidioms hbool (hvalue.trans hs))
      · exact loweredBy_lowerMember type h
  | bareMember name type =>
      obtain rfl := Except.ok.inj h
      exact .built (.bareMember name type)
  | call target name args type => exact loweredBy_lowerCall (some target) rfl rfl h
  | staticCall name args type => exact loweredBy_lowerCall none rfl rfl h
  | binary op left right => exact h.binary
  | unary op operand type => exact h.unary
  | constant value =>
      obtain ⟨text, htext, hpure⟩ := bind_eq_ok_iff.mp h
      obtain rfl := Except.ok.inj hpure
      exact .built (.constant htext)
  | conditional test ifTrue ifFalse =>
      rw [LowersTo, lower] at h
      obtain ⟨c, hc, hafterTest⟩ := bind_eq_ok_iff.mp h
      obtain ⟨a, ha, hafterTrue⟩ := bind_eq_ok_iff.mp hafterTest
      obtain ⟨b, hb, hpure⟩ := bind_eq_ok_iff.mp hafterTrue
      obtain rfl := Except.ok.inj hpure
      exact .built (.conditional hc ha hb)
  | object members => cases h
  | lambda params body => exact .lambda params h
  | source name => cases h

/-- Induction along the rules of lowering, with the hypothesis at every part that can be lowered,
also where the rule leaves it out. -/
theorem LowersTo.part_induction {motive : Position → Expr → Sql → Prop}
    (step : ∀ position e t, LowersTo rules position e t →
      (∀ position' part s, IsPart part e → LowersTo rules position' part s →
        motive position' part s) →
      LoweredBy rules (fun position e t => LowersTo rules position e t ∧ motive position e t)
        position e t → motive position e t)
    {e : Expr} (h : LowersTo rules position e t) : motive position e t := by
  induction e using Expr.part_induction generalizing position t with
  | step e ih =>
      have hpart : ∀ (position' : Position) (part : Expr) (s : Sql), part.IsPart e →
          LowersTo rules position' part s →
          LowersTo rules position' part s ∧ motive position' part s :=
        fun position' part s hpart hs => ⟨hs, ih part hpart hs⟩
      have hparts : ∀ (position' : Position) (part : Expr) (s : Sql), part.IsPart e →
          LowersTo rules position' part s → motive position' part s :=
        fun position' part s hpart hs => ih part hpart hs
      -- A condition may go back to the value of the same expression, but not the other way.
      have hvalue : ∀ s, LowersTo rules .value e s → motive .value e s := by
        intro s hs
        refine step .value e s hs hparts (hs.by_rule.imp hpart fun hcondition => ?_)
        cases hcondition
      exact step position e t h hparts (h.by_rule.imp hpart fun _ s hs => ⟨hs, hvalue s hs⟩)

/-- Induction along the rules of lowering. -/
theorem LowersTo.induction {motive : Position → Expr → Sql → Prop}
    (step : ∀ position e t,
      LoweredBy rules (fun position e t => LowersTo rules position e t ∧ motive position e t)
        position e t → motive position e t)
    {e : Expr} (h : LowersTo rules position e t) : motive position e t :=
  LowersTo.part_induction (fun position e t _ _ hrule => step position e t hrule) h

/-- A call that does not aggregate keeps all its operands. -/
theorem LowersTo.operands {e : Expr} {name : String} (h : LowersTo rules position e t)
    (hname : e.methodName? = some name) (hplain : SqlFunction.isAggregate name = false) :
    ∃ ts onInstance, t = .call name ts onInstance ∧
      List.Forall₂ (LowersTo rules .value) e.children ts := by
  cases e with
  | call target method args type =>
      obtain rfl := Option.some.inj hname
      obtain ⟨ts, rfl, hkept⟩ := lowerCall_eq_ok h
      have hlowered := hkept hplain
      rw [lowerArgs_eq_map, Option.toList_some, List.singleton_append, ← List.map_cons,
        List.forall₂_map_left_iff] at hlowered
      exact ⟨ts, _, rfl, hlowered⟩
  | staticCall method args type =>
      obtain rfl := Option.some.inj hname
      obtain ⟨ts, rfl, hkept⟩ := lowerCall_eq_ok h
      have hlowered := hkept hplain
      rw [lowerArgs_eq_map, Option.toList_none, List.nil_append,
        List.forall₂_map_left_iff] at hlowered
      exact ⟨ts, _, rfl, hlowered⟩
  | _ => cases hname

/-- Only a derived member becomes a call. -/
theorem LowersTo.isDerived_of_call {target : Expr} {name method : String} {type : DataType}
    {ts : List Sql} {onInstance : Bool}
    (h : LowersTo rules position (.member target name type) (.call method ts onInstance)) :
    isDerived target name = true := by
  by_contra hderived
  rw [Bool.not_eq_true] at hderived
  rw [LowersTo, lower, lowerMember_of_not_isDerived hderived] at h
  split at h
  · obtain ⟨s, -, hpure⟩ := bind_eq_ok_iff.mp h
    cases hpure
  · rcases rules.memberColumn_eq_error_or_column target name with ⟨failure, hother⟩ | ⟨_, hother⟩
    · rw [hother] at h
      cases h
    · rw [hother] at h
      cases h

/-- The nodes that lowering makes for the nodes of an expression. -/
inductive Makes (rules : LoweringRules) (e : Expr) : Sql → Prop
  | node {position : Position} {e' : Expr} {t : Sql} (hmem : e' ∈ e.nodes)
    (h : BuiltBy rules (LowersTo rules) position e' t) : Makes rules e t
  /-- The equality that an inequality of composite keys negates. -/
  | keys {op : BinaryOp} {members members' : List (Option String × Expr)} {ts ts' : List Sql}
    (hmem : .binary op (.object members) (.object members') ∈ e.nodes) (hop : op.isEquality)
    (hlength : members.length = members'.length)
    (h : List.Forall₂ (LowersTo rules .value) (members.map (·.2)) ts)
    (h' : List.Forall₂ (LowersTo rules .value) (members'.map (·.2)) ts') :
    Makes rules e (.keyEquality (ts.zip ts'))
  | truth (value : Bool) : Makes rules e (.literal (if value then "true" else "false"))

theorem Makes.of_isPart {e part : Expr} (hpart : part.IsPart e) (h : Makes rules part t) :
    Makes rules e t := by
  cases h with
  | node hmem h => exact .node (mem_nodes_of_isPart hpart hmem) h
  | keys hmem hop hlength h h' => exact .keys (mem_nodes_of_isPart hpart hmem) hop hlength h h'
  | truth value => exact .truth value

theorem mem_of_mem_pairs {ts ts' : List Sql} {child : Sql}
    (h : child ∈ (Sql.keyEquality (ts.zip ts')).children) : child ∈ ts ∨ child ∈ ts' := by
  rw [Sql.children_keyEquality] at h
  obtain ⟨pair, hpair, hchild⟩ := List.mem_flatMap.mp h
  obtain ⟨hleft, hright⟩ := List.of_mem_zip hpair
  rcases List.mem_pair.mp hchild with rfl | rfl
  · exact Or.inl hleft
  · exact Or.inr hright

theorem makes_keyEquality {op : BinaryOp} {members members' : List (Option String × Expr)}
    {ts ts' : List Sql} (hop : op.isEquality) (hlength : members.length = members'.length)
    (h : List.Forall₂ (fun e t => LowersTo rules .value e t ∧ ∀ node ∈ t.nodes, Makes rules e node)
      (members.map (·.2)) ts)
    (h' : List.Forall₂ (fun e t => LowersTo rules .value e t ∧ ∀ node ∈ t.nodes, Makes rules e node)
      (members'.map (·.2)) ts') :
    ∀ node ∈ (Sql.keyEquality (ts.zip ts')).nodes,
      Makes rules (.binary op (.object members) (.object members')) node := by
  intro node hnode
  rcases Sql.mem_nodes.mp hnode with rfl | ⟨child, hchild, hbelow⟩
  · exact .keys (self_mem_nodes _) hop hlength (h.imp fun _ _ hs => hs.1)
      (h'.imp fun _ _ hs => hs.1)
  · rcases mem_of_mem_pairs hchild with hmem | hmem
    · obtain ⟨part, hpart, hs⟩ := exists_mem_of_forall₂ h.flip hmem
      exact (hs.2 node hbelow).of_isPart (Or.inr ⟨_, List.mem_cons_self, hpart⟩)
    · obtain ⟨part, hpart, hs⟩ := exists_mem_of_forall₂ h'.flip hmem
      refine (hs.2 node hbelow).of_isPart (Or.inr ⟨.object members', ?_, hpart⟩)
      exact List.mem_cons_of_mem _ List.mem_cons_self

/-- Every node of the result was made for a node of the expression. -/
theorem LowersTo.makes {e : Expr} (h : LowersTo rules position e t) :
    ∀ node ∈ t.nodes, Makes rules e node := by
  refine LowersTo.induction (motive := fun _ e t => ∀ node ∈ t.nodes, Makes rules e node) ?_ h
  clear h
  intro position e t h node hnode
  have hpart : ∀ {position' : Position} {part : Expr} {s : Sql}, part.IsPart e →
      (LowersTo rules position' part s ∧ ∀ node ∈ s.nodes, Makes rules part node) →
      node ∈ s.nodes → Makes rules e node :=
    fun hpart hs hnode => (hs.2 node hnode).of_isPart hpart
  have hfirst : ∀ {part : Expr}, e.children.head? = some part → part.IsPart e :=
    fun hhead => Or.inl (List.mem_of_mem_head? hhead)
  cases h with
  | value type hnullable h => exact hpart (hfirst rfl) h hnode
  | conversion type hop h => exact hpart (hfirst rfl) h hnode
  | lambda params h => exact hpart (hfirst rfl) h hnode
  | built hbuilt =>
      have hmade : Makes rules e t :=
        .node (self_mem_nodes e) (hbuilt.imp (fun _ _ _ _ hs => hs.1) fun _ _ hs => hs.1)
      rcases Sql.mem_nodes.mp hnode with rfl | ⟨child, hchild, hbelow⟩
      · exact hmade
      cases hbuilt with
      | parameter name type => cases hchild
      | bareMember name type => cases hchild
      | member type hderived h => cases hchild
      | constant h => cases hchild
      | hasValue type h =>
          obtain rfl := List.mem_singleton.mp hchild
          exact hpart (hfirst rfl) h hbelow
      | isTrue hidioms hbool h =>
          rcases List.mem_pair.mp hchild with rfl | rfl
          · exact h.2 node hbelow
          · obtain rfl := List.mem_singleton.mp hbelow
            exact .truth true
      | call hname hoperands h onInstance =>
          obtain ⟨operand, hoperand, hlowered⟩ := exists_mem_of_forall₂ h.flip hchild
          exact hpart (Or.inl (hoperands operand hoperand)) hlowered hbelow
      | property type hname h =>
          obtain rfl := List.mem_singleton.mp hchild
          exact hpart (hfirst rfl) h hbelow
      | coalesce hleft hright =>
          rcases List.mem_pair.mp hchild with rfl | rfl
          · exact hpart (hfirst rfl) hleft hbelow
          · exact hpart (Or.inl (by simp [children])) hright hbelow
      | arrayLength type h =>
          obtain rfl := List.mem_singleton.mp hchild
          exact hpart (hfirst rfl) h hbelow
      | nullTest hop hnull h =>
          obtain rfl := List.mem_singleton.mp hchild
          refine hpart (Or.inl ?_) h hbelow
          rcases hnull with ⟨-, rfl⟩ | ⟨-, rfl⟩ <;> simp [children]
      | @keys _ op members members' ts ts' hop hlength h h' =>
          refine makes_keyEquality hop hlength h h' node ?_
          unfold Sql.keyTest at hchild
          split at hchild
          · obtain rfl := List.mem_singleton.mp hchild
            exact hbelow
          · exact Sql.mem_nodes.mpr (Or.inr ⟨child, hchild, hbelow⟩)
      | logical hop hleft hright =>
          rcases List.mem_pair.mp hchild with rfl | rfl
          · exact hpart (hfirst rfl) hleft hbelow
          · exact hpart (Or.inl (by simp [children])) hright hbelow
      | operator hop hnull hleft hright =>
          rcases List.mem_pair.mp hchild with rfl | rfl
          · exact hpart (hfirst rfl) hleft hbelow
          · exact hpart (Or.inl (by simp [children])) hright hbelow
      | isFalse type hidioms hbool h =>
          rcases List.mem_pair.mp hchild with rfl | rfl
          · exact hpart (hfirst rfl) h hbelow
          · obtain rfl := List.mem_singleton.mp hbelow
            exact .truth false
      | not type h =>
          obtain rfl := List.mem_singleton.mp hchild
          exact hpart (hfirst rfl) h hbelow
      | negate type h =>
          obtain rfl := List.mem_singleton.mp hchild
          exact hpart (hfirst rfl) h hbelow
      | conditional htest htrue hfalse =>
          simp only [Sql.children, List.mem_cons, List.not_mem_nil, or_false] at hchild
          rcases hchild with rfl | rfl | rfl
          · exact hpart (hfirst rfl) htest hbelow
          · exact hpart (Or.inl (by simp [children])) htrue hbelow
          · exact hpart (Or.inl (by simp [children])) hfalse hbelow

end Expr

end StreamQuery
