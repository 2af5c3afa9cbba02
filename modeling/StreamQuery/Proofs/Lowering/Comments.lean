import StreamQuery.Proofs.Lowering.Operands
import StreamQuery.Proofs.Sql.Comments

/-!
# Comments in lowered expressions

With identifiers for names, the text of a lowered expression opens a comment only in the column of a
grouping key, or where an operand that begins with a minus sign is negated. Constants open none,
negative ones included, as long as no call fills the slots of an argument.
-/

namespace StreamQuery

open Token (opensComment)

namespace Expr

variable {rules : LoweringRules} {e : Expr} {node : Sql}

theorem opens_of_isPath {text : List Char} (h : LoweringRules.IsPath text) :
    Token.Opens text False :=
  .of_isUnsigned (Token.isUnsigned_of_forall rfl rfl h.isPathChar)

theorem opens_of_isIdentifier {name : String} (h : isIdentifier name) :
    Token.Opens name.toList False :=
  opens_of_isPath (.of_isIdentifier h)

theorem Makes.isNamed (h : Makes rules e node) (hrules : rules.WellNamed)
    (hnames : e.isWellNamed) : node.IsNamed := by
  refine h.brings hrules.aliases ?_ ?_ ?_ (by decide)
  · intro name type hmem
    exact (opens_of_isIdentifier ((isIdentifier_of_mem_nodes hnames hmem).1 name rfl)).closed
  · intro target name type text hmem hcolumn
    rcases mem_keyColumns_or_isPath hrules.aliases hnames hmem hcolumn with hkey | hpath
    · exact hrules.columns text hkey
    · exact (opens_of_isPath hpath).closed
  · exact fun node hmem => (isIdentifier_of_mem_nodes hnames hmem).2

/-- Where two minus signs that lowering brings together come from. -/
theorem Makes.cause_of_doublesMinus (h : Makes rules e node) (hrules : rules.WellNamed)
    (hnames : e.isWellNamed) (hdoubles : node.doublesMinus) :
    (∃ column ∈ rules.keyColumns, opensComment column.toList) ∨
    ∃ operand type t, .unary .negate operand type ∈ e.nodes ∧
      operand.lower rules .value = .ok t ∧ t.leadsWithMinus := by
  cases h with
  | truth value => cases hdoubles
  | keys hmem hop hlength h h' => cases hdoubles
  | node hmem h =>
      cases h with
      | negate type h => exact Or.inr ⟨_, type, _, hmem, h, hdoubles⟩
      | bareMember name type =>
          have hname := (isIdentifier_of_mem_nodes hnames hmem).1 name rfl
          exact ((opens_of_isIdentifier hname).opensComment_iff.mp hdoubles).elim
      | member type hderived h =>
          rcases mem_keyColumns_or_isPath hrules.aliases hnames hmem h with hkey | hpath
          · exact Or.inl ⟨_, hkey, hdoubles⟩
          · exact ((opens_of_isPath hpath).opensComment_iff.mp hdoubles).elim
      | keys hop hlength h h' =>
          unfold Sql.keyTest at hdoubles
          split at hdoubles <;> cases hdoubles
      | _ => cases hdoubles

/-- The text opens a comment exactly if a node of the tree brings two minus signs together. Then a
key column opens one, or the operand of a negation begins with a minus sign. -/
theorem opensComment_lower (rules : LoweringRules) (hrules : rules.WellNamed) (e : Expr)
    (hnames : e.isWellNamed) (position : Position) (t : Sql) (h : e.lower rules position = .ok t)
    (hkept : t.keepsSlots) :
    (opensComment t.text.toList ↔ t.hasDoubledMinus) ∧
    (opensComment t.text.toList →
      (∃ column ∈ rules.keyColumns, opensComment column.toList) ∨
      ∃ operand type s, .unary .negate operand type ∈ e.nodes ∧
        operand.lower rules .value = .ok s ∧ s.leadsWithMinus) := by
  have hmakes := LowersTo.makes h
  have hopens : opensComment t.text.toList ↔ t.hasDoubledMinus :=
    (Sql.opens_text (fun node hnode => (hmakes node hnode).isNamed hrules hnames)
      hkept).opensComment_iff
  refine ⟨hopens, fun hcomment => ?_⟩
  obtain ⟨node, hnode, hdoubles⟩ := List.any_eq_true.mp (hopens.mp hcomment)
  exact (hmakes node hnode).cause_of_doublesMinus hrules hnames hdoubles

/-- An amount less a negative number, against the place of a sign in dashes, negated. -/
def amountBeforeDashes : Expr :=
  .binary .greaterThan
    (.binary .subtract (.member (.parameter "o" .unknown) "Amount" .int) (.constant (.int (-2))))
    (.unary .negate (.call (.constant (.string "--")) "IndexOf" [.constant (.string "-")] .int)
      .int)

theorem opensComment_lower_amountBeforeDashes :
    regionRules.WellNamed ∧ amountBeforeDashes.isWellNamed ∧
    ∃ t, amountBeforeDashes.lower regionRules .condition = .ok t ∧
      t.text = "((orders.Amount - -2) > -(INSTR('--', '-') - 1))" ∧ t.keepsSlots ∧
      opensComment t.text.toList = false := by
  have hnames : amountBeforeDashes.isWellNamed := by decide +kernel
  have hlower : amountBeforeDashes.lower regionRules .condition = .ok (.binary .greater
      (.binary .subtract (.column "orders.Amount") (.literal "-2"))
      (.negate (.call "IndexOf" [.literal "'--'", .literal "'-'"] true))) := rfl
  refine ⟨wellNamed_regionRules, hnames, _, hlower, by decide +kernel, by decide +kernel, ?_⟩
  rw [Bool.eq_false_iff, ne_eq, (opensComment_lower regionRules wellNamed_regionRules _ hnames
    .condition _ hlower (by decide +kernel)).1]
  decide

def negatedTwice : Expr :=
  .unary .negate (.unary .negate (.member (.parameter "o" .unknown) "Amount" .int) .int) .int

/-- Whether a slot contains dashes. -/
def dashesInSlot : Expr :=
  .call (.constant (.string "\x7b1\x7d")) "Contains" [.constant (.string "--")] .bool

/-- A negation that is negated opens a comment, and so do dashes that fill the slot in a string. -/
theorem comment_of_negatedTwice :
    LoweringRules.filter.WellNamed ∧ negatedTwice.isWellNamed ∧ dashesInSlot.isWellNamed ∧
    (∃ t, negatedTwice.lower .filter .value = .ok t ∧ t.text = "--Amount" ∧ t.keepsSlots ∧
      opensComment t.text.toList) ∧
    ∃ t, dashesInSlot.lower .filter .condition = .ok t ∧ t.text = "INSTR(''--'', '--') > 0" ∧
      t.hasDoubledMinus = false ∧ opensComment t.text.toList := by
  have hrules : LoweringRules.filter.WellNamed :=
    ⟨List.forall_mem_nil _, List.forall_mem_nil _⟩
  refine ⟨hrules, by decide +kernel, by decide +kernel, ?_, ?_⟩
  · exact ⟨_, rfl, by decide +kernel, by decide +kernel, by decide +kernel⟩
  · exact ⟨_, rfl, by decide +kernel, by decide +kernel, by decide +kernel⟩

end Expr

end StreamQuery
