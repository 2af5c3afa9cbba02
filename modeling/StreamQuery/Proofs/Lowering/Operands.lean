import StreamQuery.Proofs.Lowering.Inversion
import StreamQuery.Proofs.Lowering.StringConstants
import StreamQuery.Proofs.Sql.Operands

/-!
# Operands of lowered expressions

Lowering brings nothing into the text but names, literals and the columns of grouping keys. With
identifiers for names, and with units for key columns, the operands of what an expression is lowered
to are units, except for those that are written without parentheses of their own.
-/

namespace StreamQuery

open Lexeme (IsWord isUnit isBalanced)

namespace LoweringRules

/-- Aliases are identifiers, and key columns are units. -/
structure WellDelimited (rules : LoweringRules) : Prop where
  aliases : ∀ entry ∈ rules.aliases, isIdentifier entry.2
  columns : ∀ column ∈ rules.keyColumns, isUnit (Lexeme.read column.toList)

theorem IsPath.isUnit {text : List Char} (h : IsPath text) : isUnit (Lexeme.read text) := by
  have hword : IsWord text := by
    refine ⟨h.ne_nil, fun c hc => ?_⟩
    rw [Lexeme.isWordPart, show isIdentifierChar c || c = '.' from h.isPathChar c hc]
    rfl
  exact hword.isUnit

end LoweringRules

theorem Sql.mem_children_of_mem_operands {t operand : Sql} (h : operand ∈ t.operands) :
    operand ∈ t.children := by
  cases t with
  | binary op left right =>
      rw [operands] at h
      split at h
      · cases h
      · exact h
  | keyEquality pairs => exact h
  | negate operand => exact h
  | isNull operand negated => exact h
  | _ => cases h

namespace Expr

variable {rules : LoweringRules} {e : Expr} {node : Sql}

/-- What lowering brings into the text, given what the columns of members and the names of methods
are. -/
theorem Makes.brings (h : Makes rules e node)
    (haliases : ∀ entry ∈ rules.aliases, isIdentifier entry.2) {column method : String → Prop}
    (hbare : ∀ name type, .bareMember name type ∈ e.nodes → column name)
    (hmember : ∀ target name type text, .member target name type ∈ e.nodes →
      rules.memberColumn target name = .ok (.column text) → column text)
    (hcalled : ∀ node ∈ e.nodes, ∀ name ∈ node.methodName?, method name)
    (hadded : ∀ name ∈ "Coalesce" :: "ArrayLength" :: SqlFunction.addedMethods, method name) :
    node.Brings column method := by
  cases h with
  | truth value => exact ⟨.bool value, .bool value⟩
  | keys hmem hop hlength h h' => trivial
  | node hmem h =>
      cases h with
      | parameter name type =>
          intro qualifier hqualifier
          obtain ⟨entry, hentry, rfl⟩ := Dictionary.exists_mem_of_get? hqualifier
          exact haliases entry hentry
      | bareMember name type => exact hbare name type hmem
      | member type hderived h => exact hmember _ _ type _ hmem h
      | call hname hoperands h onInstance => exact hcalled _ hmem _ hname
      | property type hname h =>
          exact hadded _ (List.mem_cons_of_mem _ (List.mem_cons_of_mem _ hname))
      | coalesce hleft hright => exact hadded _ List.mem_cons_self
      | arrayLength type h => exact hadded _ (List.mem_cons_of_mem _ List.mem_cons_self)
      | keys hop hlength h h' =>
          unfold Sql.keyTest
          split <;> trivial
      | constant h => exact ⟨_, Constant.written_of_literal h⟩
      | _ => trivial

theorem Makes.isSound (h : Makes rules e node) (hrules : rules.WellDelimited)
    (hnames : e.isWellNamed) : node.IsSound := by
  refine h.brings hrules.aliases ?_ ?_ ?_ (by decide)
  · intro name type hmem
    have hname := (isIdentifier_of_mem_nodes hnames hmem).1 name rfl
    exact (LoweringRules.IsPath.of_isIdentifier hname).isUnit
  · intro target name type text hmem hcolumn
    rcases mem_keyColumns_or_isPath hrules.aliases hnames hmem hcolumn with hkey | hpath
    · exact hrules.columns text hkey
    · exact hpath.isUnit
  · exact fun node hmem => (isIdentifier_of_mem_nodes hnames hmem).2

/-- The brackets of the text match, and an operand is a unit exactly if it is not open. -/
theorem isUnit_operand_iff (rules : LoweringRules) (hrules : rules.WellDelimited) (e : Expr)
    (hnames : e.isWellNamed) (position : Position) (t : Sql)
    (h : e.lower rules position = .ok t) :
    (t.keepsSlots → isBalanced (Lexeme.read t.text.toList)) ∧
    ∀ node ∈ t.nodes, ∀ operand ∈ node.operands, operand.keepsSlots →
      (isUnit (Lexeme.read operand.text.toList) ↔ operand.isOpen = false) := by
  have hsound : ∀ node ∈ t.nodes, node.IsSound :=
    fun node hnode => (LowersTo.makes h node hnode).isSound hrules hnames
  constructor
  · exact fun hkept => (Sql.isDelimited hsound hkept).operand.balanced
  · intro node hnode operand hoperand hkept
    have hchild := Sql.mem_children_of_mem_operands hoperand
    have hbelow : ∀ inner ∈ operand.nodes, inner.IsSound := by
      intro inner hinner
      have hmem := Sql.mem_nodes.mpr (Or.inr ⟨operand, hchild, hinner⟩)
      exact hsound inner (Sql.nodes_trans hnode hmem)
    rw [(Sql.isDelimited hbelow hkept).isUnit_eq, Bool.not_eq_true']

/-- A choice of the customer against the place of a parenthesis in the title, negated. Columns have
the names of keywords. -/
def choiceBeyondTitle : Expr :=
  .binary .greaterThan
    (.conditional (.member (.parameter "c" .unknown) "Case" .bool)
      (.member (.parameter "c" .unknown) "End" .int) (.constant (.int (-2))))
    (.unary .negate (.call (.member (.parameter "o" .unknown) "Title" .string) "IndexOf"
      [.constant (.string ")")] .int) .int)

theorem isUnit_operand_iff_choiceBeyondTitle :
    regionRules.WellDelimited ∧ choiceBeyondTitle.isWellNamed ∧
    ∃ left right,
      choiceBeyondTitle.lower regionRules .condition = .ok (.binary .greater left right) ∧
      left.text = "CASE WHEN (Case = true) THEN End ELSE -2 END" ∧
      right.text = "-(INSTR(orders.Title, ')') - 1)" ∧
      left.keepsSlots ∧ right.keepsSlots ∧
      isUnit (Lexeme.read left.text.toList) ∧ ¬ isUnit (Lexeme.read right.text.toList) := by
  have hrules : regionRules.WellDelimited := ⟨by decide, by decide +kernel⟩
  have hnames : choiceBeyondTitle.isWellNamed := by decide +kernel
  have hlower : choiceBeyondTitle.lower regionRules .condition = .ok (.binary .greater
      (.case (.binary .equal (.column "Case") (.literal "true")) (.column "End") (.literal "-2"))
      (.negate (.call "IndexOf" [.column "orders.Title", .literal "')'"] true))) := rfl
  have hoperand :=
    (isUnit_operand_iff regionRules hrules choiceBeyondTitle hnames .condition _ hlower).2 _
      (Sql.self_mem_nodes _)
  refine ⟨hrules, hnames, _, _, hlower, by decide +kernel, by decide +kernel, by decide +kernel,
    by decide +kernel, ?_, ?_⟩
  · exact (hoperand _ List.mem_cons_self (by decide +kernel)).mpr rfl
  · intro hunit
    have hopen :=
      (hoperand _ (List.mem_cons_of_mem _ List.mem_cons_self) (by decide +kernel)).mp hunit
    revert hopen
    decide +kernel

/-- A negation that is negated, compared with a member. -/
def restoredAsTotal : Expr :=
  .binary .equal
    (.unary .negate (.unary .negate (.member (.parameter "o" .unknown) "B" .int) .int) .int)
    (.member (.parameter "o" .unknown) "C" .int)

/-- The equality of keys with one member each, compared with a member. -/
def sameKeyAsFlag : Expr :=
  .binary .equal
    (.binary .equal (.object [(none, .member (.parameter "o" .unknown) "A" .int)])
      (.object [(none, .member (.parameter "o" .unknown) "B" .int)]))
    (.member (.parameter "o" .unknown) "C" .bool)

/-- Whether orders without a name are those that contain a letter. -/
def unnamedAsSearched : Expr :=
  .binary .equal
    (.binary .equal (.member (.parameter "o" .unknown) "Name" .string) (.constant .null))
    (.call (.member (.parameter "o" .unknown) "Name" .string) "Contains" [.constant (.string "x")]
      .bool)

/-- The operands of these comparisons are not set apart from them. -/
theorem operands_without_parentheses :
    (∃ left right, restoredAsTotal.lower .filter .condition = .ok (.binary .equal left right) ∧
      (Sql.binary .equal left right).text = "(--B = C)" ∧
      ¬ isUnit (Lexeme.read left.text.toList)) ∧
    (∃ left right, sameKeyAsFlag.lower .filter .condition = .ok (.binary .equal left right) ∧
      (Sql.binary .equal left right).text = "(A = B = C)" ∧
      ¬ isUnit (Lexeme.read left.text.toList)) ∧
    ∃ left right, unnamedAsSearched.lower .filter .condition = .ok (.binary .equal left right) ∧
      (Sql.binary .equal left right).text = "(Name IS NULL = INSTR(Name, 'x') > 0)" ∧
      ¬ isUnit (Lexeme.read left.text.toList) ∧ ¬ isUnit (Lexeme.read right.text.toList) := by
  refine ⟨?_, ?_, ?_⟩
  · exact ⟨_, _, rfl, by decide +kernel, by decide +kernel⟩
  · exact ⟨_, _, rfl, by decide +kernel, by decide +kernel⟩
  · exact ⟨_, _, rfl, by decide +kernel, by decide +kernel, by decide +kernel⟩

end Expr

end StreamQuery
