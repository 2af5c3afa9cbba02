import Mathlib.Data.List.Forall2
import StreamQuery.Lowering
import StreamQuery.Proofs.Expr.Nodes

/-!
# Lowerings that agree

Two lowerings agree when they fail with the same failure or succeed with related trees. For a
relation that every construction of the tree keeps, each step of lowering keeps agreement.
-/

namespace StreamQuery

/-- The same failure, or two values that are related. -/
inductive Agree {α β : Type} (R : α → β → Prop) : Except Failure α → Except Failure β → Prop
  | error (failure : Failure) : Agree R (.error failure) (.error failure)
  | ok {a : α} {b : β} (related : R a b) : Agree R (.ok a) (.ok b)

namespace Agree

variable {α β γ δ : Type} {R : α → β → Prop} {S : γ → δ → Prop}

theorem bind {x : Except Failure α} {y : Except Failure β} {f : α → Except Failure γ}
    {g : β → Except Failure δ} (h : Agree R x y) (hnext : ∀ a b, R a b → Agree S (f a) (g b)) :
    Agree S (x >>= f) (y >>= g) := by
  cases h with
  | error failure => exact .error failure
  | ok hab => exact hnext _ _ hab

theorem map {x : Except Failure α} {y : Except Failure β} {f : α → γ} {g : β → δ}
    (h : Agree R x y) (hnext : ∀ a b, R a b → S (f a) (g b)) :
    Agree S (do return f (← x)) (do return g (← y)) :=
  h.bind fun a b hab => .ok (hnext a b hab)

theorem mapLeft {x : Except Failure α} {y : Except Failure β} {f : α → γ} {T : γ → β → Prop}
    (h : Agree R x y) (hnext : ∀ a b, R a b → T (f a) b) : Agree T (do return f (← x)) y := by
  cases h with
  | error failure => exact .error failure
  | ok hab => exact .ok (hnext _ _ hab)

theorem imp {S : α → β → Prop} {x : Except Failure α} {y : Except Failure β} (h : Agree R x y)
    (hRS : ∀ a b, R a b → S a b) : Agree S x y := by
  cases h with
  | error failure => exact .error failure
  | ok hab => exact .ok (hRS _ _ hab)

theorem with_values {x : Except Failure α} {y : Except Failure β} (h : Agree R x y) :
    Agree (fun a b => x = .ok a ∧ y = .ok b ∧ R a b) x y := by
  cases h with
  | error failure => exact .error failure
  | ok hab => exact .ok ⟨rfl, rfl, hab⟩

theorem mapM_id {xs : List (Except Failure α)} {ys : List (Except Failure β)}
    (h : List.Forall₂ (Agree R) xs ys) :
    Agree (List.Forall₂ R) (xs.mapM id) (ys.mapM id) := by
  induction h with
  | nil => exact .ok .nil
  | cons hhead _ ih =>
      rw [List.mapM_cons, List.mapM_cons]
      refine hhead.bind fun a b hab => ?_
      exact ih.bind fun as bs hrest => .ok (.cons hab hrest)

theorem error_iff {x : Except Failure α} {y : Except Failure β} (h : Agree R x y)
    (failure : Failure) : x = .error failure ↔ y = .error failure := by
  cases h <;> simp

theorem related {a : α} {b : β} (h : Agree R (.ok a) (.ok b)) : R a b := by
  cases h with
  | ok hab => exact hab

theorem exists_of_ok {a : α} {y : Except Failure β} (h : Agree R (.ok a) y) :
    ∃ b, y = .ok b ∧ R a b := by
  cases h with
  | ok hab => exact ⟨_, rfl, hab⟩

theorem refl (x : Except Failure α) : Agree Eq x x := by
  cases x with
  | error failure => exact .error failure
  | ok a => exact .ok rfl

theorem eq {x y : Except Failure α} (h : Agree Eq x y) : x = y := by
  cases h with
  | error failure => rfl
  | ok hab => rw [hab]

end Agree

namespace Sql

/-- A relation that is kept by every construction but columns and literals, calls being made by
methods that are `named`. -/
structure Congruence (named : String → Prop) (R : Sql → Sql → Prop) : Prop where
  call : ∀ {method args args' onInstance}, named method → List.Forall₂ R args args' →
    R (.call method args onInstance) (.call method args' onInstance)
  binary : ∀ {op left left' right right'}, R left left' → R right right' →
    R (.binary op left right) (.binary op left' right')
  keyEquality : ∀ {pairs pairs'}, List.Forall₂ (fun p q => R p.1 q.1 ∧ R p.2 q.2) pairs pairs' →
    R (.keyEquality pairs) (.keyEquality pairs')
  not : ∀ {operand operand'}, R operand operand' → R (.not operand) (.not operand')
  negate : ∀ {operand operand'}, R operand operand' → R (.negate operand) (.negate operand')
  isNull : ∀ {operand operand' negated}, R operand operand' →
    R (.isNull operand negated) (.isNull operand' negated)
  case : ∀ {test test' ifTrue ifTrue' ifFalse ifFalse'}, R test test' → R ifTrue ifTrue' →
    R ifFalse ifFalse' → R (.case test ifTrue ifFalse) (.case test' ifTrue' ifFalse')

theorem congruence_eq (named : String → Prop) : Congruence named Eq where
  call _ hargs := by
    rw [List.forall₂_eq_eq_eq] at hargs
    rw [hargs]
  binary hleft hright := by rw [hleft, hright]
  keyEquality hpairs := by
    have hsame := hpairs.imp fun _ _ hpair => Prod.ext hpair.1 hpair.2
    rw [List.forall₂_eq_eq_eq] at hsame
    rw [hsame]
  not hoperand := by rw [hoperand]
  negate hoperand := by rw [hoperand]
  isNull hoperand := by rw [hoperand]
  case htest htrue hfalse := by rw [htest, htrue, hfalse]

end Sql

namespace LoweringRules

variable {named : String → Prop} {R : Sql → Sql → Prop} {rules rules' : LoweringRules}

/-- The column by which a member access is named, if no rule of its own applies to it. -/
def memberColumn (rules : LoweringRules) (target : Expr) (name : String) : Except Failure Sql :=
  match rules.groupKeyColumn? target name with
  | some column => .ok (.column column)
  | none => rules.columnOfPath name [name] target

theorem columnOfPath_congr (hclause : rules.clause = rules'.clause)
    (hnaming : rules.naming = rules'.naming) (haliases : rules.aliases = rules'.aliases)
    (leaf : String) (path : List String) (e : Expr) :
    rules.columnOfPath leaf path e = rules'.columnOfPath leaf path e := by
  induction e generalizing path with
  | parameter name type => rw [columnOfPath, columnOfPath, qualify, qualify, hnaming, haliases]
  | member target name type ih => exact ih _
  | unary op operand type ih =>
      cases op with
      | convert => exact ih path
      | convertChecked => exact ih path
      | typeAs => exact ih path
      | _ => simp only [columnOfPath, hclause]
  | _ => simp only [columnOfPath, hclause]

theorem memberColumn_eq_error_or_column (rules : LoweringRules) (target : Expr) (name : String) :
    (∃ failure, rules.memberColumn target name = .error failure) ∨
      ∃ column, rules.memberColumn target name = .ok (.column column) := by
  have hpath : ∀ (e : Expr) (path : List String),
      (∃ failure, rules.columnOfPath name path e = .error failure) ∨
        ∃ column, rules.columnOfPath name path e = .ok (.column column) := by
    intro e
    induction e with
    | parameter parameter type => exact fun path => Or.inr ⟨_, rfl⟩
    | member target name type ih => exact fun path => ih _
    | unary op operand type ih =>
        intro path
        cases op with
        | convert => exact ih path
        | convertChecked => exact ih path
        | typeAs => exact ih path
        | _ => exact Or.inl ⟨_, rfl⟩
    | _ => exact fun path => Or.inl ⟨_, rfl⟩
  unfold memberColumn
  split
  · exact Or.inr ⟨_, rfl⟩
  · exact hpath target [name]

/-- Whether a member access stands for something else than a column: a test, the value itself, or a
call on it. -/
def isDerived (target : Expr) (name : String) : Bool :=
  name = "HasValue" || (name = "Value" && target.dataType.isNullable) ||
    (isDatePart name && target.dataType.isTemporal) ||
    (name = "Length" && target.dataType = .string)

theorem lowerMember_of_not_isDerived {target : Expr} {name : String}
    (h : isDerived target name = false) (lowered : Except Failure Sql) :
    rules.lowerMember target name lowered = rules.memberColumn target name := by
  simp only [isDerived, Bool.or_eq_false_iff, decide_eq_false_iff_not] at h
  obtain ⟨⟨⟨hhas, hvalue⟩, hpart⟩, hlength⟩ := h
  rw [lowerMember, if_neg hhas, hvalue, hpart, hlength]
  rfl

theorem agree_lowerMember (hR : Sql.Congruence named R) {target target' : Expr} {name : String}
    {lowered lowered' : Except Failure Sql} (hname : named name)
    (htype : target.dataType = target'.dataType)
    (hlowered : isDerived target name = true → Agree R lowered lowered')
    (hcolumn : isDerived target name = false →
      Agree R (rules.memberColumn target name) (rules'.memberColumn target' name)) :
    Agree R (rules.lowerMember target name lowered) (rules'.lowerMember target' name lowered') := by
  have hcall : ∀ method, named method → isDerived target name = true →
      Agree R (do return .call method [← lowered] false)
        (do return .call method [← lowered'] false) := by
    intro method hmethod hderived
    exact (hlowered hderived).map fun _ _ h => hR.call hmethod (.cons h .nil)
  unfold lowerMember
  rw [← htype]
  split
  · next hvalue => exact (hlowered (by simp [isDerived, hvalue])).map fun _ _ h => hR.isNull h
  split
  · next hvalue => exact hlowered (by simp [isDerived, hvalue])
  split
  · next hpart => exact hcall name hname (by simp [isDerived, hpart])
  split
  · next hlength =>
      have hlengthName : name = "Length" := by
        simp only [Bool.and_eq_true, decide_eq_true_eq] at hlength
        exact hlength.1
      exact hcall "Length" (hlengthName ▸ hname) (by simp [isDerived, hlength])
  · next hhas hvalue hpart hlength =>
      exact hcolumn (by simp [isDerived, hhas, hvalue, hpart, hlength])

theorem agree_lowerCall (hR : Sql.Congruence named R) (hclause : rules.clause = rules'.clause)
    {target target' : Option (Except Failure Sql)} {name : String} {args args' : List Expr}
    {lowered lowered' : List (Except Failure Sql)} (hname : named name)
    (hlambda : args.any Expr.isLambda = args'.any Expr.isLambda)
    (hskip : skipsReceiver args = skipsReceiver args')
    (htarget : Option.Rel (Agree R) target target')
    (hlowered : List.Forall₂ (Agree R) lowered lowered') :
    Agree R (rules.lowerCall target name args lowered)
      (rules'.lowerCall target' name args' lowered') := by
  unfold lowerCall
  rw [hlambda, hskip, hclause]
  split
  · exact .error _
  · have hsome : target.isSome = target'.isSome := by
      cases htarget <;> rfl
    rw [hsome]
    refine Agree.bind (Agree.mapM_id ?_) fun as bs h => .ok (hR.call hname h)
    cases htarget with
    | some htarget =>
        dsimp only
        split
        · exact hlowered
        · exact .cons htarget hlowered
    | none =>
        dsimp only
        split
        · cases hlowered with
          | nil => exact .nil
          | cons _ htail => exact htail
        · exact hlowered

theorem agree_lowerKeyPairs {left left' right right' : List (Except Failure Sql)}
    (hleft : List.Forall₂ (Agree R) left left') (hright : List.Forall₂ (Agree R) right right') :
    Agree (List.Forall₂ fun p q => R p.1 q.1 ∧ R p.2 q.2) (lowerKeyPairs left right)
      (lowerKeyPairs left' right') := by
  unfold lowerKeyPairs
  induction hleft generalizing right right' with
  | nil => exact .ok .nil
  | cons hhead _ ih =>
      cases hright with
      | nil => exact .ok .nil
      | cons hhead' htail' =>
          rw [List.zip_cons_cons, List.zip_cons_cons, List.mapM_cons, List.mapM_cons]
          refine Agree.bind ?_ fun p q hpq => (ih htail').bind fun ps qs hrest =>
            .ok (.cons hpq hrest)
          exact hhead.bind fun a b hab => hhead'.bind fun c d hcd => .ok ⟨hab, hcd⟩

theorem agree_lowerKeys (hR : Sql.Congruence named R) (hclause : rules.clause = rules'.clause)
    (op : BinaryOp) {left left' right right' : List (Except Failure Sql)}
    (hleft : List.Forall₂ (Agree R) left left') (hright : List.Forall₂ (Agree R) right right') :
    Agree R (rules.lowerKeys op left right) (rules'.lowerKeys op left' right') := by
  unfold lowerKeys
  rw [hleft.length_eq, hright.length_eq, hclause]
  split
  · exact .error _
  · refine (agree_lowerKeyPairs hleft hright).bind fun ps qs hpairs => ?_
    split
    · exact .ok (hR.not (hR.keyEquality hpairs))
    · exact .ok (hR.keyEquality hpairs)

theorem agree_lowerOperator (hR : Sql.Congruence named R) (hclause : rules.clause = rules'.clause)
    (hinequality : rules.inequality = rules'.inequality) (op : BinaryOp)
    {left left' right right' : Except Failure Sql} (hleft : Agree R left left')
    (hright : Agree R right right') :
    Agree R (rules.lowerOperator op left right) (rules'.lowerOperator op left' right') := by
  have hop : rules.operator? op = rules'.operator? op := by
    cases op <;> simp [operator?, hinequality]
  unfold lowerOperator
  rw [hop, hclause]
  split
  · exact hleft.bind fun _ _ hl => hright.bind fun _ _ hr => .ok (hR.binary hl hr)
  · exact .error _

end LoweringRules

namespace Expr

theorem lowerArgs_eq_map (rules : LoweringRules) (args : List Expr) :
    lowerArgs rules args = args.map (·.lower rules .value) := by
  induction args with
  | nil => rfl
  | cons head tail ih => rw [lowerArgs, ih, List.map_cons]

theorem lowerMembers_eq_map (rules : LoweringRules) (members : List (Option String × Expr)) :
    lowerMembers rules members = members.map (·.2.lower rules .value) := by
  induction members with
  | nil => rfl
  | cons head tail ih => rw [lowerMembers, ih, List.map_cons]

theorem lower_not (rules : LoweringRules) (position : Position) (operand : Expr) (type : DataType) :
    (Expr.unary .not operand type).lower rules position =
      if position = .condition && rules.booleanIdioms && operand.isBoolMember then
        LoweringRules.comparedWith false (operand.lower rules .value)
      else do return .not (← operand.lower rules .condition) := by
  rw [lower]

theorem isLambda_eq_kind (e : Expr) : e.isLambda = decide (e.kind = .lambda) := by
  cases e <;> rfl

theorem isObject_eq_kind (e : Expr) : e.isObject = decide (e.kind = .object) := by
  cases e <;> rfl

theorem skipsReceiver_cons (receiver : Expr) (rest : List Expr) :
    LoweringRules.skipsReceiver (receiver :: rest) =
      (receiver.kind ≠ .lambda && (receiver.kind = .parameter || rest.any isLambda)) := by
  cases receiver <;> simp [LoweringRules.skipsReceiver, kind]

theorem any_isLambda_eq_of_kind_eq {args args' : List Expr}
    (h : List.Forall₂ (fun arg arg' => arg.kind = arg'.kind) args args') :
    args.any isLambda = args'.any isLambda := by
  induction h with
  | nil => rfl
  | cons hhead _ ih =>
      rw [List.any_cons, List.any_cons, isLambda_eq_kind, isLambda_eq_kind, hhead, ih]

theorem skipsReceiver_eq_of_kind_eq {args args' : List Expr}
    (h : List.Forall₂ (fun arg arg' => arg.kind = arg'.kind) args args') :
    LoweringRules.skipsReceiver args = LoweringRules.skipsReceiver args' := by
  cases h with
  | nil => rfl
  | cons hhead htail =>
      rw [skipsReceiver_cons, skipsReceiver_cons, hhead, any_isLambda_eq_of_kind_eq htail]

/-- Two expressions of one kind whose lowerings agree in every position, and member by member if
they are objects. -/
structure LowersAlike (R : Sql → Sql → Prop) (rules rules' : LoweringRules) (e e' : Expr) :
    Prop where
  kind_eq : e.kind = e'.kind
  isNullConstant_eq : e.isNullConstant = e'.isNullConstant
  lower : ∀ position, Agree R (e.lower rules position) (e'.lower rules' position)
  parts : List.Forall₂ (Agree R) (lowerParts rules e) (lowerParts rules' e')

namespace LowersAlike

variable {named : String → Prop} {R : Sql → Sql → Prop} {rules rules' : LoweringRules}

open LoweringRules

theorem of_ne_object {e e' : Expr} (hkind : e.kind = e'.kind) (hobject : e.kind ≠ .object)
    (hnull : e.isNullConstant = e'.isNullConstant)
    (hlower : ∀ position, Agree R (e.lower rules position) (e'.lower rules' position)) :
    LowersAlike R rules rules' e e' where
  kind_eq := hkind
  isNullConstant_eq := hnull
  lower := hlower
  parts := by
    have hparts : ∀ (rules : LoweringRules) (e : Expr), e.kind ≠ .object →
        lowerParts rules e = [] := by
      intro rules e hne
      cases e <;> first | rfl | exact absurd rfl hne
    rw [hparts rules e hobject, hparts rules' e' (hkind ▸ hobject)]
    exact .nil

theorem forall₂_lowerArgs {args args' : List Expr}
    (h : List.Forall₂ (LowersAlike R rules rules') args args') :
    List.Forall₂ (Agree R) (lowerArgs rules args) (lowerArgs rules' args') := by
  rw [lowerArgs_eq_map, lowerArgs_eq_map]
  refine List.forall₂_map_left_iff.mpr (List.forall₂_map_right_iff.mpr ?_)
  exact h.imp fun _ _ harg => harg.lower .value

theorem call (hR : Sql.Congruence named R) (hclause : rules.clause = rules'.clause)
    {target target' : Expr} {name : String} {args args' : List Expr} (type : DataType)
    (hname : named name) (htarget : LowersAlike R rules rules' target target')
    (hargs : List.Forall₂ (LowersAlike R rules rules') args args') :
    LowersAlike R rules rules' (.call target name args type) (.call target' name args' type) := by
  refine of_ne_object rfl (by simp [kind]) rfl fun position => ?_
  have hkinds := hargs.imp fun _ _ harg => harg.kind_eq
  rw [Expr.lower, Expr.lower]
  exact agree_lowerCall hR hclause hname (any_isLambda_eq_of_kind_eq hkinds)
    (skipsReceiver_eq_of_kind_eq hkinds) (.some (htarget.lower .value)) (forall₂_lowerArgs hargs)

theorem staticCall (hR : Sql.Congruence named R) (hclause : rules.clause = rules'.clause)
    {name : String} {args args' : List Expr} (type : DataType) (hname : named name)
    (hargs : List.Forall₂ (LowersAlike R rules rules') args args') :
    LowersAlike R rules rules' (.staticCall name args type) (.staticCall name args' type) := by
  refine of_ne_object rfl (by simp [kind]) rfl fun position => ?_
  have hkinds := hargs.imp fun _ _ harg => harg.kind_eq
  rw [Expr.lower, Expr.lower]
  exact agree_lowerCall hR hclause hname (any_isLambda_eq_of_kind_eq hkinds)
    (skipsReceiver_eq_of_kind_eq hkinds) .none (forall₂_lowerArgs hargs)

theorem binary (hR : Sql.Congruence named R) (hcoalesce : named "Coalesce")
    (hclause : rules.clause = rules'.clause) (hinequality : rules.inequality = rules'.inequality)
    (op : BinaryOp) {left left' right right' : Expr} (hleft : LowersAlike R rules rules' left left')
    (hright : LowersAlike R rules rules' right right') :
    LowersAlike R rules rules' (.binary op left right) (.binary op left' right') := by
  refine of_ne_object rfl (by simp [kind]) rfl fun position => ?_
  simp only [Expr.lower, hleft.isNullConstant_eq, hright.isNullConstant_eq, isObject_eq_kind,
    hleft.kind_eq, hright.kind_eq]
  split
  · exact (hleft.lower .value).map fun _ _ h => hR.isNull h
  split
  · exact (hright.lower .value).map fun _ _ h => hR.isNull h
  split
  · exact agree_lowerKeys hR hclause op hleft.parts hright.parts
  split
  · exact (hleft.lower .condition).bind fun _ _ hl => (hright.lower .condition).map fun _ _ hr =>
      hR.binary hl hr
  · exact (hleft.lower .condition).bind fun _ _ hl => (hright.lower .condition).map fun _ _ hr =>
      hR.binary hl hr
  · exact (hleft.lower .value).bind fun _ _ hl => (hright.lower .value).map fun _ _ hr =>
      hR.call hcoalesce (.cons hl (.cons hr .nil))
  · exact agree_lowerOperator hR hclause hinequality _ (hleft.lower .value) (hright.lower .value)

/-- The unary operators but logical negation, for which the place of the expression matters. -/
theorem unary (hR : Sql.Congruence named R) (hlength : named "ArrayLength") {op : UnaryOp}
    (hop : op ≠ .not) {operand operand' : Expr} (type : DataType)
    (h : LowersAlike R rules rules' operand operand') :
    LowersAlike R rules rules' (.unary op operand type) (.unary op operand' type) := by
  refine of_ne_object rfl (by simp [kind]) rfl fun position => ?_
  cases op with
  | not => exact absurd rfl hop
  | negate => exact (h.lower .value).map fun _ _ ho => hR.negate ho
  | convert => exact h.lower .value
  | convertChecked => exact h.lower .value
  | typeAs => exact h.lower .value
  | arrayLength => exact (h.lower .value).map fun _ _ ho => hR.call hlength (.cons ho .nil)

theorem conditional (hR : Sql.Congruence named R)
    {test test' ifTrue ifTrue' ifFalse ifFalse' : Expr}
    (htest : LowersAlike R rules rules' test test')
    (htrue : LowersAlike R rules rules' ifTrue ifTrue')
    (hfalse : LowersAlike R rules rules' ifFalse ifFalse') :
    LowersAlike R rules rules' (.conditional test ifTrue ifFalse)
      (.conditional test' ifTrue' ifFalse') := by
  refine of_ne_object rfl (by simp [kind]) rfl fun position => ?_
  rw [Expr.lower, Expr.lower]
  exact (htest.lower .condition).bind fun _ _ ht => (htrue.lower .value).bind fun _ _ hi =>
    (hfalse.lower .value).map fun _ _ hf => hR.case ht hi hf

theorem object (hclause : rules.clause = rules'.clause)
    {members members' : List (Option String × Expr)}
    (h : List.Forall₂ (fun entry entry' => LowersAlike R rules rules' entry.2 entry'.2)
      members members') :
    LowersAlike R rules rules' (.object members) (.object members') where
  kind_eq := rfl
  isNullConstant_eq := rfl
  lower position := by
    rw [Expr.lower, Expr.lower, hclause]
    exact .error _
  parts := by
    rw [lowerParts, lowerParts, lowerMembers_eq_map, lowerMembers_eq_map]
    refine List.forall₂_map_left_iff.mpr (List.forall₂_map_right_iff.mpr ?_)
    exact h.imp fun _ _ hentry => hentry.lower .value

theorem lambda (params params' : List String) {body body' : Expr}
    (h : LowersAlike R rules rules' body body') :
    LowersAlike R rules rules' (.lambda params body) (.lambda params' body') := by
  refine of_ne_object rfl (by simp [kind]) rfl fun position => ?_
  rw [Expr.lower, Expr.lower]
  exact h.lower position

theorem source (hclause : rules.clause = rules'.clause) (name : String) :
    LowersAlike R rules rules' (.source name) (.source name) := by
  refine of_ne_object rfl (by simp [kind]) rfl fun position => ?_
  rw [Expr.lower, Expr.lower, hclause]
  exact .error _

end LowersAlike

end Expr

end StreamQuery
