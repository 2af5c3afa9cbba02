import StreamQuery.Proofs.Clause.Window
import StreamQuery.Proofs.Duration
import StreamQuery.Proofs.Text.Items

/-!
# Lengths that a window prints

The clause of an accepted window can be read back: it tells the kind, the whole milliseconds of each
length that the kind prints, in order, and whether only final results are wished for. The lengths
lie in the limits that were checked.
-/

namespace StreamQuery

namespace WindowLength

def all : List WindowLength :=
  [.span .size, .span .advance, .span .gap, .allowance .retention, .allowance .gracePeriod]

theorem mem_all (length : WindowLength) : length ∈ all := by
  cases length with
  | span span => cases span <;> decide
  | allowance allowance => cases allowance <;> decide

def keyword : WindowLength → String
  | .span .size => "SIZE"
  | .span .advance => "ADVANCE BY"
  | .span .gap => "GAP"
  | .allowance .retention => "RETENTION"
  | .allowance .gracePeriod => "GRACE PERIOD"

/-- The limits of a length in milliseconds. -/
def InLimits : WindowLength → Int → Prop
  | .span _, ms => Duration.TimeUnit.seconds.length ≤ ms ∧ ms ≤ 30 * Duration.TimeUnit.days.length
  | .allowance _, ms => 0 ≤ ms

/-- Cutting off what is below a millisecond does not lead out of the limits. -/
theorem Allows.inLimits {length : WindowLength} {d : Duration} (h : length.Allows d) :
    length.InLimits d.milliseconds := by
  have hcut : 0 ≤ d.nanoseconds → d.milliseconds = d.nanoseconds / 1000000 := fun hnonneg =>
    Int.tdiv_eq_ediv_of_nonneg hnonneg
  cases length with
  | span span =>
      obtain ⟨hmin, hmax⟩ : 1000000000 ≤ d.nanoseconds ∧ d.nanoseconds ≤ 2592000000000000 := h
      change 1000 ≤ d.milliseconds ∧ d.milliseconds ≤ 30 * 86400000
      rw [hcut (by omega)]
      omega
  | allowance allowance =>
      have hnonneg : 0 ≤ d.nanoseconds := h
      change 0 ≤ d.milliseconds
      rw [hcut hnonneg]
      omega

end WindowLength

namespace WindowKind

def all : List WindowKind :=
  [.tumbling, .hopping, .session]

/-- The lengths that a window of the kind prints, in order. -/
def printed : WindowKind → List WindowLength
  | .tumbling => [.span .size, .allowance .retention, .allowance .gracePeriod]
  | .hopping => [.span .size, .span .advance, .allowance .retention, .allowance .gracePeriod]
  | .session => [.span .gap]

theorem mem_checked_of_mem_printed {kind : WindowKind} {length : WindowLength}
    (h : length ∈ kind.printed) : length ∈ kind.checked := by
  have hsub : ∀ kind ∈ all, ∀ length ∈ kind.printed, length ∈ kind.checked := by decide
  exact hsub kind (by cases kind <;> decide) length h

end WindowKind

namespace WindowSpec

variable {window : WindowSpec} {kind : WindowKind}

/-- The lengths that a window prints, each with its duration. -/
def printed (window : WindowSpec) (kind : WindowKind) : List (WindowLength × Duration) :=
  kind.printed.filterMap fun length => (window.length? length).map fun d => (length, d)

theorem mem_printed {length : WindowLength} {d : Duration} :
    (length, d) ∈ window.printed kind ↔ length ∈ kind.printed ∧ window.length? length = some d := by
  simp only [printed, List.mem_filterMap, Option.map_eq_some_iff, Prod.mk.injEq]
  constructor
  · rintro ⟨_, hmem, _, hlength, rfl, rfl⟩
    exact ⟨hmem, hlength⟩
  · rintro ⟨hmem, hlength⟩
    exact ⟨length, hmem, d, hlength, rfl, rfl⟩

theorem IsAdmitted.allows_of_mem (h : window.IsAdmitted kind) {length : WindowLength} {d : Duration}
    (hmem : (length, d) ∈ window.printed kind) : length.Allows d := by
  obtain ⟨hprinted, hlength⟩ := mem_printed.mp hmem
  exact h.2 length (WindowKind.mem_checked_of_mem_printed hprinted) d hlength

end WindowSpec

namespace WindowClause

section Reading

variable {window : WindowSpec} {kind : WindowKind}

/-- A length as it stands among the options of a window. -/
def lengthText (length : WindowLength) (d : Duration) : String :=
  length.keyword ++ " " ++ d.text

/-- The wish for final results as it follows a window. -/
def finalText (final : Bool) : String :=
  if final then emitFinalSuffix else ""

theorem map_printed (window : WindowSpec) (kind : WindowKind) :
    (window.printed kind).map (fun p => lengthText p.1 p.2) =
      kind.printed.flatMap fun length => optionText length.keyword (window.length? length) := by
  rw [WindowSpec.printed, List.filterMap_eq_flatMap_toList, List.map_flatMap]
  congr 1
  funext length
  cases window.length? length <;> rfl

theorem render_eq (hkind : window.kind = some kind) (h : (window.length? kind.required).isSome) :
    render kind window = kind.keyword ++ " (" ++
      String.intercalate ", " ((window.printed kind).map fun p => lengthText p.1 p.2) ++ ")" ++
        finalText window.emitsFinal := by
  have hfinal : window.emitsFinal = (window.emitFinal && decide (kind ≠ .session)) := by
    rw [WindowSpec.emitsFinal, hkind, Option.any_some]
  rw [map_printed, hfinal]
  cases kind with
  | session =>
      obtain ⟨gap, hgap⟩ := Option.isSome_iff_exists.mp h
      have hgap : window.gap = some gap := hgap
      simp [render, hgap, WindowKind.printed, WindowSpec.length?, optionText, finalText,
        WindowLength.keyword, WindowKind.keyword]
      rw [← String.append_assoc]
      rfl
  | tumbling =>
      simp [render, sizedText, WindowKind.printed, WindowSpec.length?, finalText, WindowLength.keyword]
  | hopping =>
      simp [render, sizedText, WindowKind.printed, WindowSpec.length?, finalText, WindowLength.keyword]

theorem render_session {gap : Duration} (h : window.gap = some gap) :
    render .session window = "SESSION (GAP " ++ gap.text ++ ")" := by
  rw [render, h]
  rfl

/-- What the clause of a window says. -/
structure Reading where
  kind : WindowKind
  lengths : List (WindowLength × Int)
  final : Bool
deriving DecidableEq

def Reading.of (kind : WindowKind) (window : WindowSpec) : Reading :=
  ⟨kind, (window.printed kind).map fun p => (p.1, p.2.milliseconds), window.emitsFinal⟩

def readLength? (text : List Char) : Option (WindowLength × Int) := do
  let length ← WindowLength.all.find? fun length => (length.keyword ++ " ").toList.isPrefixOf text
  let ms ← Duration.read? (text.drop (length.keyword ++ " ").toList.length)
  return (length, ms)

def readLengths? (text : List Char) : Option (List (WindowLength × Int)) :=
  ((text.splitOn ',').map fun option => option.dropWhile (· = ' ')).mapM readLength?

/-- The parts of a clause are told apart by the first blank and the parentheses. -/
def read? (text : List Char) : Option Reading := do
  let kind ← WindowKind.all.find? fun kind => kind.keyword.toList = text.takeWhile (· ≠ ' ')
  let lengths ← readLengths? (((text.dropWhile (· ≠ '(')).drop 1).takeWhile (· ≠ ')'))
  let final ← [false, true].find? fun final =>
    (finalText final).toList = (text.dropWhile (· ≠ ')')).drop 1
  return ⟨kind, lengths, final⟩

theorem toList_lengthText (length : WindowLength) (d : Duration) :
    (lengthText length d).toList = (length.keyword ++ " ").toList ++ d.text.toList :=
  String.toList_append

theorem readLength?_lengthText (length : WindowLength) (d : Duration) :
    readLength? (lengthText length d).toList = some (length, d.milliseconds) := by
  have hfind : WindowLength.all.find? (fun other => (other.keyword ++ " ").toList.isPrefixOf
      ((length.keyword ++ " ").toList ++ d.text.toList)) = some length := by
    cases length with
    | span span => cases span <;> rfl
    | allowance allowance => cases allowance <;> rfl
  rw [readLength?, toList_lengthText, hfind, Option.bind_eq_bind, Option.bind_some, List.drop_left,
    Duration.read?_text]
  rfl

theorem dropWhile_lengthText (length : WindowLength) (d : Duration) :
    (lengthText length d).toList.dropWhile (· = ' ') = (lengthText length d).toList := by
  rw [toList_lengthText]
  cases length with
  | span span => cases span <;> rfl
  | allowance allowance => cases allowance <;> rfl

/-- Neither a comma nor a parenthesis stands inside a length. -/
theorem not_mem_lengthText {length : WindowLength} {d : Duration} {c : Char}
    (hc : c = ',' ∨ c = ')') : c ∉ (lengthText length d).toList := by
  have hkeyword : ∀ length ∈ WindowLength.all,
      (length.keyword ++ " ").toList.all fun c => c = ' ' || c.isAlphanum := by decide
  intro hmem
  rw [toList_lengthText, List.mem_append] at hmem
  rcases hmem with hmem | hmem
  · have hchar := List.all_eq_true.mp (hkeyword length length.mem_all) c hmem
    rcases hc with rfl | rfl <;> exact absurd hchar (by decide)
  · have hchar := Duration.mem_text hmem
    rcases hc with rfl | rfl <;> exact absurd hchar (by decide)

/-- Blanks after the commas go to the pieces that they stand before. -/
theorem intercalate_comma (first : List Char) (rest : List (List Char)) :
    [',', ' '].intercalate (first :: rest) = [','].intercalate (first :: rest.map (' ' :: ·)) := by
  induction rest generalizing first with
  | nil => simp
  | cons second rest ih =>
      have hblank : [','].intercalate ((' ' :: second) :: rest.map (' ' :: ·)) =
          ' ' :: [','].intercalate (second :: rest.map (' ' :: ·)) := by
        cases rest <;> simp
      rw [List.map_cons, List.intercalate_cons_cons, List.intercalate_cons_cons, ih, hblank]
      simp

theorem map_dropWhile_splitOn {options : List (List Char)} (hne : options ≠ [])
    (hcomma : ∀ option ∈ options, ',' ∉ option) :
    (([',', ' '].intercalate options).splitOn ',').map (fun option => option.dropWhile (· = ' ')) =
      options.map fun option => option.dropWhile (· = ' ') := by
  obtain ⟨first, rest, rfl⟩ := List.exists_cons_of_ne_nil hne
  rw [List.forall_mem_cons] at hcomma
  have hpieces : ∀ piece ∈ first :: rest.map (' ' :: ·), ',' ∉ piece := by
    rw [List.forall_mem_cons, List.forall_mem_map]
    refine ⟨hcomma.1, fun option hoption => ?_⟩
    rw [List.mem_cons, not_or]
    exact ⟨by decide, hcomma.2 option hoption⟩
  rw [intercalate_comma, List.splitOn_intercalate ',' hpieces (List.cons_ne_nil _ _), List.map_cons,
    List.map_map]
  rfl

theorem readLengths?_intercalate {printed : List (WindowLength × Duration)} (hne : printed ≠ []) :
    readLengths? (String.intercalate ", " (printed.map fun p => lengthText p.1 p.2)).toList =
      some (printed.map fun p => (p.1, p.2.milliseconds)) := by
  have hcomma : ∀ option ∈ printed.map (fun p => (lengthText p.1 p.2).toList), ',' ∉ option := by
    rw [List.forall_mem_map]
    exact fun p _ => not_mem_lengthText (.inl rfl)
  have hread : (fun p : WindowLength × Duration =>
      readLength? ((lengthText p.1 p.2).toList.dropWhile (· = ' '))) =
        fun p => some (p.1, p.2.milliseconds) := by
    funext p
    rw [dropWhile_lengthText, readLength?_lengthText]
  rw [String.toList_intercalate, List.map_map]
  change readLengths? ([',', ' '].intercalate (printed.map fun p => (lengthText p.1 p.2).toList)) = _
  rw [readLengths?, map_dropWhile_splitOn (by simpa using hne) hcomma, List.map_map, List.mapM_map]
  change printed.mapM (fun p => readLength? ((lengthText p.1 p.2).toList.dropWhile (· = ' '))) = _
  rw [hread]
  exact List.mapM_pure

theorem read?_parts (kind : WindowKind) {inner : List Char} (hinner : ')' ∉ inner) (final : Bool) :
    read? ((kind.keyword ++ " (").toList ++ (inner ++ ')' :: (finalText final).toList)) =
      (readLengths? inner).map fun lengths => ⟨kind, lengths, final⟩ := by
  have hopen : ∀ c ∈ inner, decide (c ≠ ')') = true := Duration.forall_ne_of_not_mem hinner
  have hkind : ∀ rest : List Char, WindowKind.all.find? (fun other => other.keyword.toList =
      ((kind.keyword ++ " (").toList ++ rest).takeWhile (· ≠ ' ')) = some kind := by
    intro rest
    cases kind <;> rfl
  have hinside : ∀ rest : List Char,
      (((kind.keyword ++ " (").toList ++ rest).dropWhile (· ≠ '(')).drop 1 = rest := by
    intro rest
    cases kind <;> rfl
  have hafter : ((kind.keyword ++ " (").toList ++ (inner ++ ')' :: (finalText final).toList)).dropWhile
      (· ≠ ')') = ')' :: (finalText final).toList := by
    have hbefore : ∀ c ∈ (kind.keyword ++ " (").toList, decide (c ≠ ')') = true :=
      List.all_eq_true.mp (by cases kind <;> decide)
    rw [List.dropWhile_append_of_pos hbefore, List.dropWhile_append_of_pos hopen]
    rfl
  have hfinal : [false, true].find? (fun other => (finalText other).toList = (finalText final).toList) =
      some final := by
    cases final <;> rfl
  have hinnerRead : (inner ++ ')' :: (finalText final).toList).takeWhile (· ≠ ')') = inner := by
    rw [List.takeWhile_append_of_pos hopen]
    simp
  rw [read?, hkind, hinside, hafter, hinnerRead, List.drop_one, List.tail_cons, hfinal]
  cases readLengths? inner <;> rfl

/-- The clause of a window says what the window is. -/
theorem read?_render (hkind : window.kind = some kind)
    (h : (window.length? kind.required).isSome) :
    read? (render kind window).toList = some (.of kind window) := by
  have hne : window.printed kind ≠ [] := by
    obtain ⟨d, hd⟩ := Option.isSome_iff_exists.mp h
    have hrequired : kind.required ∈ kind.printed := by cases kind <;> decide
    exact List.ne_nil_of_mem (WindowSpec.mem_printed.mpr ⟨hrequired, hd⟩)
  have hinner : ')' ∉ (String.intercalate ", "
      ((window.printed kind).map fun p => lengthText p.1 p.2)).toList := by
    rw [String.toList_intercalate, List.map_map]
    refine not_mem_intercalate (by decide) ?_
    rw [List.forall_mem_map]
    exact fun p _ => not_mem_lengthText (.inr rfl)
  rw [render_eq hkind h, String.toList_append, String.toList_append, String.toList_append,
    List.append_assoc, List.append_assoc]
  change read? (_ ++ (_ ++ ')' :: (finalText window.emitsFinal).toList)) = _
  rw [read?_parts kind hinner, readLengths?_intercalate hne]
  rfl

theorem Reading.inLimits_of_mem (h : window.IsAdmitted kind) {length : WindowLength} {ms : Int}
    (hmem : (length, ms) ∈ (Reading.of kind window).lengths) : length.InLimits ms := by
  obtain ⟨⟨_, d⟩, hprinted, hreading⟩ := List.mem_map.mp hmem
  obtain ⟨rfl, rfl⟩ := Prod.mk.inj hreading
  exact (h.allows_of_mem hprinted).inLimits

theorem Reading.of_session {gap : Duration} (hkind : window.kind = some .session)
    (hgap : window.gap = some gap) :
    Reading.of .session window = ⟨.session, [(.span .gap, gap.milliseconds)], false⟩ := by
  simp [Reading.of, WindowSpec.printed, WindowKind.printed, WindowSpec.length?, hgap,
    WindowSpec.emitsFinal, hkind]

end Reading

/-- Accepted windows print lengths inside the limits. Such a window has a kind, and its clause reads
back as that kind with the whole milliseconds of the lengths that the kind prints. The length that
the kind is about is among them, sizes, advances and gaps are from a second to thirty days, and
retentions and grace periods are not negative. A session prints its gap and nothing else. A tumbling
or hopping window with lengths inside the limits is always accepted. -/
theorem lengths_of_build (argument : Expr) :
    (∀ text, (build argument).result = .ok text →
      ∃ window kind, spec argument = .ok window ∧ window.kind = some kind ∧
        read? text.toList = some (.of kind window) ∧
        (window.length? kind.required).isSome ∧
        (∀ length ms, (length, ms) ∈ (Reading.of kind window).lengths → length.InLimits ms) ∧
        (kind = .session → ∃ gap, window.gap = some gap ∧
          text = "SESSION (GAP " ++ gap.text ++ ")" ∧
          Reading.of kind window = ⟨.session, [(.span .gap, gap.milliseconds)], false⟩)) ∧
    ∀ window kind, spec argument = .ok window → window.kind = some kind → kind ≠ .session →
      (∃ size, window.size = some size ∧ (WindowLength.span .size).Allows size) →
      (∀ d, window.advanceBy = some d → (WindowLength.span .advance).Allows d) →
      (∀ d, window.retention = some d → .zero ≤ d) →
      (∀ d, window.gracePeriod = some d → .zero ≤ d) →
      ∃ text, (build argument).result = .ok text := by
  constructor
  · intro text htext
    obtain ⟨window, kind, hspec, hkind, hadmitted, rfl⟩ := result_build_eq_ok_iff.mp htext
    refine ⟨window, kind, hspec, hkind, read?_render hkind hadmitted.1, hadmitted.1,
      fun length ms => Reading.inLimits_of_mem hadmitted, ?_⟩
    rintro rfl
    obtain ⟨gap, hgap⟩ := Option.isSome_iff_exists.mp hadmitted.1
    exact ⟨gap, hgap, render_session hgap, Reading.of_session hkind hgap⟩
  · rintro window kind hspec hkind hsized ⟨size, hsize, hallows⟩ hadvance hretention hgrace
    refine ⟨render kind window, result_build_eq_ok_iff.mpr
      ⟨window, kind, hspec, hkind, isAdmitted_iff.mpr ⟨?_, hretention, hgrace⟩, rfl⟩⟩
    rw [if_neg hsized, result_checkSized_eq_ok_iff, hsize, WindowLength.admits_some]
    exact ⟨rfl, hallows, hadvance⟩

/-- A window whose lengths lie at the limits, or a nanosecond inside them. -/
def atLimits : Window :=
  [.kind .hopping, .size (.ofDays 30), .advanceBy ⟨1000000001⟩, .retention .zero, .gracePeriod ⟨1⟩,
    .emitFinal]

theorem lengths_of_build_atLimits :
    (∃ text, (build (.constant (.window atLimits))).result = .ok text) ∧
    read? ("HOPPING (SIZE 30 DAYS, ADVANCE BY 1 SECONDS, RETENTION 0 SECONDS, " ++
        "GRACE PERIOD 0 SECONDS) EMIT FINAL").toList =
      some ⟨.hopping, [(.span .size, 2592000000), (.span .advance, 1000), (.allowance .retention, 0),
        (.allowance .gracePeriod, 0)], true⟩ := by
  obtain ⟨hread, haccepts⟩ := lengths_of_build (.constant (.window atLimits))
  constructor
  · refine haccepts _ .hopping rfl rfl (by decide) ⟨.ofDays 30, rfl, by decide⟩ ?_ ?_ ?_
    · exact WindowLength.admits_some.mpr (by decide)
    · exact WindowLength.admits_some.mpr (by decide : (WindowLength.allowance .retention).Allows _)
    · exact WindowLength.admits_some.mpr (by decide : (WindowLength.allowance .gracePeriod).Allows _)
  · obtain ⟨window, kind, hspec, hkind, hreading, -⟩ := hread _ rfl
    obtain rfl := Except.ok.inj hspec
    obtain rfl := Option.some.inj hkind
    exact hreading

end WindowClause

end StreamQuery
