import Mathlib.Logic.Function.Basic
import StreamQuery.Proofs.Clause.GroupKeys
import StreamQuery.Proofs.Lowering.Leaves

/-!
# Lowering under other parameter names

The name of a parameter matters only for the alias that is looked up under it. An expression with
its parameters renamed is lowered to the same tree under rules that keep the same aliases under the
new names.
-/

namespace StreamQuery

/-- The expression with its parameters renamed, also where lambdas introduce them. -/
def Expr.renamed (rename : String → String) (e : Expr) : Expr :=
  e.mapLeaves id rename

namespace Dictionary

/-- Different keys stay different, so each value is found under the new name of its key. -/
theorem get?_ofList_rename {α : Type} {rename : String → String}
    (hrename : Function.Injective rename) (entries : List (String × α)) (key : String) :
    get? (rename key) (ofList (entries.map (Prod.map rename id))) = get? key (ofList entries) := by
  induction entries using List.reverseRecOn with
  | nil => rfl
  | append_singleton entries last ih =>
      rw [List.map_append, List.map_singleton, ofList_concat, ofList_concat, get?_insert,
        get?_insert, ih]
      simp only [Prod.map_fst, Prod.map_snd, hrename.eq_iff, id]

end Dictionary

namespace LoweringRules

/-- Rules that differ at most in the names under which they keep aliases. -/
structure Renamed (rename : String → String) (rules rules' : LoweringRules) : Prop where
  clause : rules.clause = rules'.clause
  naming : rules.naming = rules'.naming
  inequality : rules.inequality = rules'.inequality
  booleanIdioms : rules.booleanIdioms = rules'.booleanIdioms
  groupKeys : rules.groupKeys = rules'.groupKeys
  aliases : ∀ name, Dictionary.get? name rules.aliases =
    Dictionary.get? (rename name) rules'.aliases

namespace Renamed

variable {rename : String → String} {rules rules' : LoweringRules}

/-- Rules without aliases know no names. -/
theorem of_no_aliases (rename : String → String) (h : rules.aliases = []) :
    Renamed rename rules rules where
  clause := rfl
  naming := rfl
  inequality := rfl
  booleanIdioms := rfl
  groupKeys := rfl
  aliases name := by
    rw [h]
    rfl

theorem columnOfPath_eq (h : Renamed rename rules rules') (leaf : String) (path : List String)
    (e : Expr) :
    rules.columnOfPath leaf path e = rules'.columnOfPath leaf path (e.renamed rename) := by
  unfold Expr.renamed
  induction e generalizing path with
  | parameter name type =>
      simp only [Expr.mapLeaves, columnOfPath, qualify, h.naming, h.aliases name]
  | member target name type ih => exact ih _
  | unary op operand type ih =>
      cases op with
      | convert => exact ih path
      | convertChecked => exact ih path
      | typeAs => exact ih path
      | _ => simp only [Expr.mapLeaves, columnOfPath, h.clause, Expr.kind]
  | _ => simp only [Expr.mapLeaves, columnOfPath, h.clause, Expr.kind]

theorem memberColumn_eq (h : Renamed rename rules rules') (target : Expr) (name : String) :
    rules.memberColumn target name = rules'.memberColumn (target.renamed rename) name := by
  have hkey : rules.groupKeyColumn? target name =
      rules'.groupKeyColumn? (target.renamed rename) name := by
    unfold groupKeyColumn?
    rw [h.groupKeys]
    cases rules'.groupKeys with
    | none => rfl
    | some keys =>
        cases target with
        | member inner key type => cases inner <;> rfl
        | _ => rfl
  rw [memberColumn, memberColumn, hkey, h.columnOfPath_eq]

end Renamed

end LoweringRules

namespace Expr

variable {rename : String → String} {rules rules' : LoweringRules}

theorem leafSimulation_renamed (h : rules.Renamed rename rules') :
    LeafSimulation (fun _ => True) Eq rules rules' id id where
  congruence := Sql.congruence_eq _
  named_coalesce := trivial
  named_arrayLength := trivial
  truth _ := rfl
  clause_eq := h.clause
  inequality_eq := h.inequality
  idioms_eq := h.booleanIdioms
  null_iff := by
    rintro value _ rfl
    rfl

theorem leavesAlike_renamed (h : rules.Renamed rename rules') (e : Expr) :
    LeavesAlike (fun _ => True) Eq rules rules' id id rename id e where
  nodes node _ := by
    cases node with
    | parameter name type =>
        rintro _ rfl
        rw [h.aliases name]
    | constant value =>
        rintro _ rfl
        rw [h.clause]
        exact .refl _
    | bareMember name type => rfl
    | _ => trivial
  members access _ target htarget := by
    rw [mapLeaves_id] at htarget
    rw [← htarget, h.memberColumn_eq access.1 access.2]
    exact .refl _

/-- A renamed expression is lowered as before, if each alias is kept under the new name. -/
theorem lower_renamed (h : rules.Renamed rename rules') (e : Expr) (position : Position) :
    (e.renamed rename).lower rules' position = e.lower rules position := by
  have himage : e.mapLeaves id rename = (e.renamed rename).mapLeaves id id :=
    (mapLeaves_id _).symm
  have halike := lowersAlike_of_mapLeaves_eq (leafSimulation_renamed h) himage
    (leavesAlike_renamed h e)
  exact (halike.lower position).eq.symm

theorem lowerValue_renamed (h : rules.Renamed rename rules') (e : Expr) :
    (e.renamed rename).lowerValue rules' = e.lowerValue rules :=
  lower_renamed h e .value

end Expr

end StreamQuery
