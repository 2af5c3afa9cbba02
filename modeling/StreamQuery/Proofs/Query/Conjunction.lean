import StreamQuery.Expr.Fluent
import StreamQuery.Proofs.Query.Shortcuts

/-!
# Several filters

The filters of a chain become one condition. It can be written exactly if each filter can be written
alone, and its text joins the texts of the filters from left to right. No filter is written in
another way because it stands beside others.
-/

namespace StreamQuery

namespace FilterClause

/-- Conditions that are already written, each joined to all before it. -/
def conjoined (first : String) (rest : List String) : String :=
  rest.foldl (fun left right => "(" ++ left ++ " AND " ++ right ++ ")") first

variable {context : Context} {text : String}

theorem build_eq_ok_iff {predicate : Expr} :
    build predicate context = .ok text ↔
      ∃ t, predicate.lowerCondition (LoweringRules.filter.withContext context) = .ok t ∧
        t.hasAggregate = false ∧ t.text = text := by
  rw [build, bind_eq_ok_iff]
  apply exists_congr
  intro t
  apply and_congr_right
  intro _
  cases t.hasAggregate with
  | false =>
      constructor
      · exact fun h => ⟨rfl, Except.ok.inj h⟩
      · rintro ⟨-, rfl⟩
        rfl
  | true =>
      constructor
      · intro h
        cases h
      · rintro ⟨h, -⟩
        cases h

theorem lowerCondition_andAlso (rules : LoweringRules) (left right : Expr) :
    (Expr.binary .andAlso left right).lowerCondition rules = (do
      return .binary .and (← left.lowerCondition rules) (← right.lowerCondition rules)) := by
  rw [Expr.lowerCondition, Expr.lower]
  rfl

/-- Both sides of a conjunction are conditions of their own. -/
theorem build_andAlso {left right : Expr} :
    build (.binary .andAlso left right) context = .ok text ↔
      ∃ l r, build left context = .ok l ∧ build right context = .ok r ∧
        "(" ++ l ++ " AND " ++ r ++ ")" = text := by
  simp only [build_eq_ok_iff, lowerCondition_andAlso]
  constructor
  · rintro ⟨t, hlowered, haggregate, rfl⟩
    obtain ⟨l, hl, hafter⟩ := bind_eq_ok_iff.mp hlowered
    obtain ⟨r, hr, hpure⟩ := bind_eq_ok_iff.mp hafter
    obtain rfl := Except.ok.inj hpure
    obtain ⟨hleft, hright⟩ := Bool.or_eq_false_iff.mp haggregate
    refine ⟨l.text, r.text, ⟨l, hl, hleft, rfl⟩, ⟨r, hr, hright, rfl⟩, ?_⟩
    simp only [Sql.text_binary, SqlOp.symbol, String.append_assoc]
    rfl
  · rintro ⟨_, _, ⟨l, hl, hleft, rfl⟩, ⟨r, hr, hright, rfl⟩, rfl⟩
    refine ⟨.binary .and l r, ?_, ?_, ?_⟩
    · rw [hl, hr]
      rfl
    · exact Bool.or_eq_false_iff.mpr ⟨hleft, hright⟩
    · simp only [Sql.text_binary, SqlOp.symbol, String.append_assoc]
      rfl

/-- The filters can be written, each alone, as these texts. -/
def BuiltAs (context : Context) (filters : List Expr) (texts : List String) : Prop :=
  List.Forall₂ (fun filter text => build filter context = .ok text) filters texts

theorem exists_builtAs_iff {filters : List Expr} :
    (∃ texts, BuiltAs context filters texts) ↔
      ∀ filter ∈ filters, ∃ text, build filter context = .ok text := by
  induction filters with
  | nil =>
      constructor
      · exact fun _ _ hfilter => absurd hfilter List.not_mem_nil
      · exact fun _ => ⟨[], .nil⟩
  | cons filter rest ih =>
      rw [List.forall_mem_cons, ← ih]
      constructor
      · rintro ⟨_, hbuilt⟩
        cases hbuilt with
        | cons htext hrest => exact ⟨⟨_, htext⟩, ⟨_, hrest⟩⟩
      · rintro ⟨⟨text, htext⟩, ⟨texts, hrest⟩⟩
        exact ⟨text :: texts, .cons htext hrest⟩

theorem build_foldl_andAlso {first : Expr} {rest : List Expr} :
    build (rest.foldl (.binary .andAlso) first) context = .ok text ↔
      ∃ head tail, build first context = .ok head ∧ BuiltAs context rest tail ∧
        conjoined head tail = text := by
  -- The first filter stands for all that are already joined.
  induction rest generalizing first with
  | nil =>
      constructor
      · exact fun h => ⟨text, [], h, .nil, rfl⟩
      · rintro ⟨head, tail, hhead, htail, rfl⟩
        cases htail
        exact hhead
  | cons next rest ih =>
      rw [List.foldl_cons, ih]
      constructor
      · rintro ⟨_, tail, hjoined, htail, rfl⟩
        obtain ⟨head, second, hhead, hsecond, rfl⟩ := build_andAlso.mp hjoined
        exact ⟨head, second :: tail, hhead, .cons hsecond htail, rfl⟩
      · rintro ⟨head, tail, hhead, htail, rfl⟩
        cases htail with
        | cons hsecond htail =>
            exact ⟨_, _, build_andAlso.mpr ⟨head, _, hhead, hsecond, rfl⟩, htail, rfl⟩

/-- A filter is written alike with and without the lambda around it. -/
theorem builtAs_stripLambda {filters : List Expr} {texts : List String} :
    BuiltAs context (filters.map (·.stripLambda)) texts ↔ BuiltAs context filters texts := by
  simp only [BuiltAs, List.forall₂_map_left_iff, build_stripLambda]

end FilterClause

namespace Chain

open FilterClause

theorem predicate?_of_filters {chain : Chain} {first : Expr} {rest : List Expr}
    (h : chain.filters = first :: rest) :
    chain.predicate? =
      some ((rest.map (·.stripLambda)).foldl (.binary .andAlso) first.stripLambda) := by
  rw [predicate?, Stages.predicate?, h]
  rfl

/-- What the filters of a chain are written as, all together. -/
theorem build_predicate_iff {chain : Chain} {first predicate : Expr} {rest : List Expr}
    (hfilters : chain.filters = first :: rest) (hpredicate : chain.predicate? = some predicate)
    {context : Context} {text : String} :
    FilterClause.build predicate context = .ok text ↔
      ∃ head tail, FilterClause.build first context = .ok head ∧ BuiltAs context rest tail ∧
        conjoined head tail = text := by
  rw [predicate?_of_filters hfilters] at hpredicate
  obtain rfl := Option.some.inj hpredicate
  simp only [build_foldl_andAlso, build_stripLambda, builtAs_stripLambda]

/-- Several filters are their conjunction. In every context the condition of the chain is written
exactly if each filter can be written alone, and then as these texts, joined from left to right.
That is the content of the one condition that an assembly of the chain has. -/
theorem filter_eq_conjoined (chain : Chain) (first : Expr) (rest : List Expr)
    (hfilters : chain.filters = first :: rest) :
    ∃ predicate, (∀ stages, Stages.ofChain chain = .ok stages →
        stages.predicate? = some predicate) ∧
      (∀ context,
        (∃ text, FilterClause.build predicate context = .ok text) ↔
          ∀ filter ∈ first :: rest, ∃ text, FilterClause.build filter context = .ok text) ∧
      (∀ context head tail, FilterClause.build first context = .ok head →
        BuiltAs context rest tail →
        FilterClause.build predicate context = .ok (conjoined head tail)) ∧
      ∀ (builders : Builders) context clauses final,
        (builders.assemble chain context).Gives clauses final →
        ∃ head tail, FilterClause.build first (chain.innerContext context) = .ok head ∧
          BuiltAs (chain.innerContext context) rest tail ∧
          (clauses.filter (·.part = .filter)).map (·.content) = [conjoined head tail] := by
  have hpredicate := predicate?_of_filters hfilters
  refine ⟨_, fun stages hstages => (Stages.predicate?_eq hstages).trans hpredicate, ?_, ?_, ?_⟩
  · intro context
    constructor
    · rintro ⟨text, htext⟩
      obtain ⟨head, tail, hhead, htail, -⟩ := (build_predicate_iff hfilters hpredicate).mp htext
      exact List.forall_mem_cons.mpr ⟨⟨head, hhead⟩, exists_builtAs_iff.mp ⟨tail, htail⟩⟩
    · intro h
      obtain ⟨⟨head, hhead⟩, hrest⟩ := List.forall_mem_cons.mp h
      obtain ⟨tail, htail⟩ := exists_builtAs_iff.mpr hrest
      exact ⟨_, (build_predicate_iff hfilters hpredicate).mpr ⟨head, tail, hhead, htail, rfl⟩⟩
  · intro context head tail hhead htail
    exact (build_predicate_iff hfilters hpredicate).mpr ⟨head, tail, hhead, htail, rfl⟩
  · intro builders context clauses final hgives
    obtain ⟨parts, hfit, rfl⟩ := exists_parts hgives
    have hfilter := hfit.filter
    rw [Stages.predicate?_eq hfit.stages, hpredicate, hfit.context_eq] at hfilter
    obtain ⟨text, hbuild, hclauses⟩ := hfilter
    obtain ⟨head, tail, hhead, htail, rfl⟩ :=
      (build_predicate_iff hfilters hpredicate).mp (Builders.result_of_build rfl hbuild)
    refine ⟨head, tail, hhead, htail, ?_⟩
    rw [hfit.filter_part, Parts.ofPart, hclauses]
    rfl

/-- Orders that are paid, whose city is known, and that are not shipped, ten of them. -/
def openOrders : Chain :=
  let order := Expr.parameter "o" .unknown
  { source := some "orders"
    stages := [.filter (.lambda ["o"] (.member order "Paid" .bool)),
      .filter (.lambda ["o"] (.lambda ["x"]
        (.binary .notEqual (.constant .null) (.member order "City" .string)))),
      .take 10,
      .filter (.unary .not (.member order "Shipped" .bool) .bool)] }

theorem filter_eq_conjoined_openOrders :
    ∃ predicate, (∀ stages, Stages.ofChain openOrders = .ok stages →
        stages.predicate? = some predicate) ∧
      FilterClause.build predicate { base := "orders" } =
        .ok "(((Paid = true) AND City IS NOT NULL) AND (Shipped = false))" ∧
      ∃ clauses, (Builders.standard.assemble openOrders { base := "orders" }).Gives clauses false ∧
        (clauses.filter (·.part = .filter)).map (·.content) =
          ["(((Paid = true) AND City IS NOT NULL) AND (Shipped = false))"] := by
  obtain ⟨predicate, hpredicate, -, htext, hclauses⟩ :=
    filter_eq_conjoined openOrders _ _ rfl
  refine ⟨predicate, hpredicate, ?_, ?_⟩
  · exact htext { base := "orders" } "(Paid = true)" ["City IS NOT NULL", "(Shipped = false)"] rfl
      (.cons rfl (.cons rfl .nil))
  · have hgives : (Builders.standard.assemble openOrders { base := "orders" }).Gives _ false :=
      ⟨rfl, rfl⟩
    obtain ⟨head, tail, hhead, htail, hcontent⟩ := hclauses _ _ _ _ hgives
    refine ⟨_, hgives, ?_⟩
    cases htail with
    | cons hsecond hrest =>
        cases hrest with
        | cons hthird hnil =>
            cases hnil
            rw [hcontent, ← Except.ok.inj hhead, ← Except.ok.inj hsecond, ← Except.ok.inj hthird]
            rfl

end Chain

end StreamQuery
