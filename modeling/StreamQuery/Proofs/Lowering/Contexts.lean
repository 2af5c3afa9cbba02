import StreamQuery.Proofs.Lowering.Leaves

/-!
# Lowering in other contexts

The aliases, the grouping keys and the naming of members decide by which columns an expression is
written. They do not decide whether it can be written.
-/

namespace StreamQuery

namespace LoweringRules

variable {rules rules' : LoweringRules} {R : Sql → Sql → Prop}

theorem agree_columnOfPath (hcolumn : ∀ name name', R (.column name) (.column name'))
    (hclause : rules.clause = rules'.clause) (leaf : String) (path path' : List String) (e : Expr) :
    Agree R (rules.columnOfPath leaf path e) (rules'.columnOfPath leaf path' e) := by
  induction e generalizing path path' with
  | parameter name type => exact .ok (hcolumn _ _)
  | member target name type ih => exact ih _ _
  | unary op operand type ih =>
      cases op with
      | convert => exact ih path path'
      | convertChecked => exact ih path path'
      | typeAs => exact ih path path'
      | _ =>
          simp only [columnOfPath, hclause]
          exact .error _
  | _ =>
      simp only [columnOfPath, hclause]
      exact .error _

/-- A grouping key gives columns only to members that have a column without it as well. -/
theorem exists_columnOfPath_of_groupKey {target : Expr} {name column : String}
    (h : rules.groupKeyColumn? target name = some column) (rules' : LoweringRules) :
    ∃ column', rules'.columnOfPath name [name] target = .ok (.column column') := by
  unfold groupKeyColumn? at h
  split at h
  · cases h
  split at h
  · exact ⟨_, rfl⟩
  · exact ⟨_, rfl⟩
  · cases h

theorem agree_memberColumn_of_clause_eq (hcolumn : ∀ name name', R (.column name) (.column name'))
    (hclause : rules.clause = rules'.clause) (target : Expr) (name : String) :
    Agree R (rules.memberColumn target name) (rules'.memberColumn target name) := by
  unfold memberColumn
  split
  · next hleft =>
      split
      · exact .ok (hcolumn _ _)
      · obtain ⟨column, hok⟩ := exists_columnOfPath_of_groupKey hleft rules'
        rw [hok]
        exact .ok (hcolumn _ _)
  · split
    · next hright =>
        obtain ⟨column, hok⟩ := exists_columnOfPath_of_groupKey hright rules
        rw [hok]
        exact .ok (hcolumn _ _)
    · exact agree_columnOfPath hcolumn hclause name [name] [name] target

end LoweringRules

namespace Expr

variable {rules rules' : LoweringRules}

/-- Under rules for one clause an expression is lowered to related trees, if all columns are related
and so are all stars. -/
theorem agree_lower_of_congruence {R : Sql → Sql → Prop}
    (hR : Sql.Congruence (fun _ => True) R)
    (hcolumn : ∀ name name', R (.column name) (.column name'))
    (hstar : ∀ qualifier qualifier', R (.star qualifier) (.star qualifier'))
    (hliteral : ∀ text, R (.literal text) (.literal text))
    (hclause : rules.clause = rules'.clause) (hinequality : rules.inequality = rules'.inequality)
    (hidioms : rules.booleanIdioms = rules'.booleanIdioms) (e : Expr) (position : Position) :
    Agree R (e.lower rules position) (e.lower rules' position) := by
  have hsimulation : LeafSimulation (fun _ => True) R rules rules' id id :=
    { congruence := hR
      named_coalesce := trivial
      named_arrayLength := trivial
      truth := fun _ => hliteral _
      clause_eq := hclause
      inequality_eq := hinequality
      idioms_eq := hidioms
      null_iff := by
        rintro value _ rfl
        rfl }
  have hleaves : LeavesAlike (fun _ => True) R rules rules' id id id id e := by
    refine ⟨fun node _ => ?_, fun access _ target' hsame => ?_⟩
    · cases node with
      | parameter name type => exact fun _ _ => hstar _ _
      | bareMember name type => exact hcolumn name name
      | constant value =>
          intro value' hsame
          obtain rfl : value = value' := hsame
          rw [hclause]
          cases value.literal rules'.clause with
          | error failure => exact .error failure
          | ok text => exact .ok (hliteral text)
      | _ => exact trivial
    · rw [mapLeaves_id, mapLeaves_id] at hsame
      rw [hsame]
      exact LoweringRules.agree_memberColumn_of_clause_eq hcolumn hclause _ _
  exact (lowersAlike_of_mapLeaves_eq hsimulation rfl hleaves).lower position

/-- Under rules for one clause an expression can be lowered or it cannot, whatever its columns are
called. -/
theorem agree_lower_of_clause_eq (hclause : rules.clause = rules'.clause)
    (hinequality : rules.inequality = rules'.inequality)
    (hidioms : rules.booleanIdioms = rules'.booleanIdioms) (e : Expr) (position : Position) :
    Agree (fun _ _ => True) (e.lower rules position) (e.lower rules' position) :=
  agree_lower_of_congruence (by constructor <;> intros <;> trivial) (fun _ _ => trivial)
    (fun _ _ => trivial) (fun _ => trivial) hclause hinequality hidioms e position

end Expr

end StreamQuery
