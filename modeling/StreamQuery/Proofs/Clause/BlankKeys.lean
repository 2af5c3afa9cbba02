import StreamQuery.Proofs.Clause.GroupKeys
import StreamQuery.Proofs.Sql.Blank

/-!
# Blank keys

The clause of a key is blank only if the key has no columns, or a single one with a blank name. A
key without blank names has no blank columns.
-/

namespace StreamQuery

open Text

namespace Dictionary

variable {α : Type}

theorem mem_of_mem_insert {key : String} {value : α} {dictionary : Dictionary α}
    {entry : String × α} (h : entry ∈ insert key value dictionary) :
    entry = (key, value) ∨ entry ∈ dictionary := by
  induction dictionary with
  | nil => simpa [insert] using h
  | cons first rest ih =>
      rw [insert] at h
      split at h
      · rcases List.mem_cons.mp h with heq | hrest
        · exact Or.inl heq
        · exact Or.inr (List.mem_cons_of_mem _ hrest)
      split at h
      · exact List.mem_cons.mp h
      · rcases List.mem_cons.mp h with heq | hrest
        · exact Or.inr (heq ▸ List.mem_cons_self)
        · exact (ih hrest).imp_right (List.mem_cons_of_mem _)

theorem mem_of_mem_ofList {entries : List (String × α)} {entry : String × α}
    (h : entry ∈ ofList entries) : entry ∈ entries := by
  induction entries using List.reverseRecOn with
  | nil => cases h
  | append_singleton entries last ih =>
      rw [ofList_concat] at h
      rcases mem_of_mem_insert h with rfl | hmem
      · simp
      · exact List.mem_append_left _ (ih hmem)

end Dictionary

namespace GroupByClause

/-- A key with two columns or more shows the comma between them. -/
theorem allBlank_build {key : Expr} {context : Context} {text : String}
    (h : build key context = .ok text) :
    allBlank text ↔ leaves none key = [] ∨ ∃ name leaf, leaves none key = [(name, leaf)] ∧
      leaf.IsBlank (LoweringRules.groupBy.withContext context) .value := by
  obtain ⟨list, hlist, hpure⟩ := bind_eq_ok_iff.mp h
  obtain rfl := Except.ok.inj hpure
  have hcolumns := forall₂_of_keys hlist
  generalize leaves none key = found at hcolumns ⊢
  cases hcolumns with
  | nil => simp [allBlank]
  | @cons leaf first rest columns hfirst hrest =>
      obtain ⟨t, ht, htext⟩ := hfirst.2
      cases hrest with
      | nil =>
          rw [List.map_singleton, String.intercalate_singleton, ← htext,
            Expr.allBlank_text_iff_isBlank ht]
          constructor
          · exact fun hblank => Or.inr ⟨leaf.1, leaf.2, rfl, hblank⟩
          · rintro (hnil | ⟨name, other, hother, hblank⟩)
            · cases hnil
            · obtain rfl : leaf = (name, other) := (List.cons.inj hother).1
              exact hblank
      | cons hsecond hrest =>
          have hcomma : allBlank ", " = false := by decide
          simp [allBlank_append, hcomma]

theorem mem_nodes_of_mem_leaves {e : Expr} {name : Option String} {leaf : Option String × Expr}
    (h : leaf ∈ leaves name e) : leaf.2 ∈ e.nodes := by
  have hchild : ∀ {e child : Expr}, child ∈ e.children → leaf.2 ∈ child.nodes →
      leaf.2 ∈ e.nodes :=
    fun hchild hmem => Expr.mem_nodes.mpr (Or.inr ⟨_, hchild, hmem⟩)
  induction e generalizing name with
  | lambda params body ih => exact hchild List.mem_cons_self (ih h)
  | unary op operand type ih =>
      cases op with
      | convert => exact hchild List.mem_cons_self (ih h)
      | convertChecked => exact hchild List.mem_cons_self (ih h)
      | _ =>
          rw [List.mem_singleton.mp h]
          exact Expr.self_mem_nodes _
  | object members ih =>
      obtain ⟨entry, hentry, hleaf⟩ := mem_memberLeaves.mp h
      exact hchild (List.mem_map_of_mem hentry) (ih entry hentry hleaf)
  | _ =>
      rw [List.mem_singleton.mp h]
      exact Expr.self_mem_nodes _

/-- A key without blank names has no blank columns. -/
theorem allBlank_of_keys {key : Expr} {base : String} {mode : ExecutionMode} {list : List Key}
    (hnames : key.hasBlankName = false) (h : keys key { base, mode } = .ok list) :
    ∀ entry ∈ list, allBlank entry.column = false := by
  have hleaves : ∀ leaf ∈ leaves none key, leaf.2.hasBlankName = false :=
    fun leaf hleaf => Expr.hasBlankName_of_mem_nodes hnames (mem_nodes_of_mem_leaves hleaf)
  have hcolumns := (List.forall₂_and_left _ _).mpr ⟨hleaves, forall₂_of_keys h⟩
  generalize leaves none key = found at hcolumns
  clear h hleaves
  induction hcolumns with
  | nil => simp
  | cons hfirst _ ih =>
      refine List.forall_mem_cons.mpr ⟨?_, ih⟩
      obtain ⟨hleaf, -, t, ht, htext⟩ := hfirst
      rw [LoweringRules.withContext_plain] at ht
      have hkeys : LoweringRules.groupBy.keyColumns = [] := rfl
      rw [← htext]
      exact Expr.allBlank_text_of_names rfl hleaf (by simp [hkeys]) ht

/-- The columns that a key gives to later clauses are not blank either. -/
theorem allBlank_of_groupKeys {key : Expr} {base : String} {mode : ExecutionMode}
    {groupKeys : GroupKeys} (hnames : key.hasBlankName = false)
    (h : GroupByClause.groupKeys key { base, mode } = .ok groupKeys) :
    allBlank (groupKeys.single.getD "Key") = false ∧
      ∀ entry ∈ groupKeys.members, allBlank entry.2 = false := by
  have hkey : allBlank "Key" = false := by decide
  obtain ⟨list, hlist, -⟩ := bind_eq_ok_iff.mp h
  have hshown := allBlank_of_keys hnames hlist
  rw [groupKeys_of_keys hlist] at h
  obtain rfl := Except.ok.inj h
  split
  · refine ⟨hkey, fun entry hentry => ?_⟩
    obtain ⟨found, hfound, hname⟩ := List.mem_filterMap.mp (Dictionary.mem_of_mem_ofList hentry)
    obtain ⟨name, -, rfl⟩ := Option.map_eq_some_iff.mp hname
    exact hshown found hfound
  · refine ⟨?_, by simp⟩
    cases list with
    | nil => exact hkey
    | cons first rest => exact hshown first List.mem_cons_self

end GroupByClause

end StreamQuery
