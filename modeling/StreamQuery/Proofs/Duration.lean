import Mathlib
import StreamQuery.Duration
import StreamQuery.Proofs.Sql.Reading

/-!
# Texts of durations

A duration is written as a count of the coarsest unit that divides its whole milliseconds. Reading
the text gives back these milliseconds, so that the text of a duration tells them and nothing else.
The quotients and remainders on the way are the same in 64-bit words as in whole numbers.
-/

namespace StreamQuery

namespace Duration

namespace TimeUnit

/-- All units, from the coarsest on. -/
def all : List TimeUnit :=
  [.days, .hours, .minutes, .seconds, .milliseconds]

/-- Whether `unit` divides `ms` and no coarser unit does. -/
def IsCoarsest (unit : TimeUnit) (ms : Int) : Prop :=
  unit.length ∣ ms ∧ ∀ other : TimeUnit, other.length ∣ ms → other.length ≤ unit.length

theorem mem_all (unit : TimeUnit) : unit ∈ all := by
  cases unit <;> decide

theorem find?_coarsest {ms : Int} (hms : ms ≠ 0) :
    all.find? (fun unit => ms.tmod unit.length = 0) = some (coarsest ms) := by
  simp only [all, coarsest, length, List.find?_cons, if_neg hms, Int.tmod_one]
  split_ifs <;> simp [*]

/-- Units are tried from the coarsest on, so that those before the chosen one do not divide. -/
theorem isCoarsest_coarsest {ms : Int} (hms : ms ≠ 0) : (coarsest ms).IsCoarsest ms := by
  obtain ⟨hdivides, before, after, hall, hbefore⟩ :=
    List.find?_eq_some_iff_append.mp (find?_coarsest hms)
  have hlengths : all.Pairwise fun unit finer => finer.length < unit.length := by decide
  rw [hall, List.pairwise_append, List.pairwise_cons] at hlengths
  refine ⟨Int.dvd_iff_tmod_eq_zero.mpr (of_decide_eq_true hdivides), ?_⟩
  intro other hother
  have hmem := mem_all other
  rw [hall, List.mem_append, List.mem_cons] at hmem
  rcases hmem with hmem | rfl | hmem
  · have hnot := hbefore other hmem
    rw [decide_eq_true (Int.dvd_iff_tmod_eq_zero.mp hother)] at hnot
    cases hnot
  · exact le_refl _
  · exact le_of_lt (hlengths.2.1.1 other hmem)

theorem length_coarsest_dvd (ms : Int) : (coarsest ms).length ∣ ms := by
  by_cases hms : ms = 0
  · rw [hms]
    exact dvd_zero _
  · exact (isCoarsest_coarsest hms).1

end TimeUnit

section Reading

/-- The milliseconds that a count of a unit stands for. -/
def read? (text : List Char) : Option Int := do
  let count ← (String.ofList (text.takeWhile (· ≠ ' '))).toInt?
  let unit ← TimeUnit.all.find? fun unit => unit.keyword.toList = (text.dropWhile (· ≠ ' ')).tail
  return count * unit.length

theorem forall_ne_of_not_mem {c : Char} {text : List Char} (h : c ∉ text) :
    ∀ d ∈ text, decide (d ≠ c) = true := by
  intro d hd
  refine decide_eq_true ?_
  rintro rfl
  exact h hd

theorem read?_count (count : Int) (unit : TimeUnit) :
    read? (toString count ++ " " ++ unit.keyword).toList = some (count * unit.length) := by
  have hblank : ' ' ∉ (toString count).toList := fun hmem =>
    absurd (Sql.mem_toString_int hmem) (by decide)
  have hword := forall_ne_of_not_mem hblank
  have htext : (toString count ++ " " ++ unit.keyword).toList =
      (toString count).toList ++ ' ' :: unit.keyword.toList := by
    rw [String.toList_append, String.toList_append, List.append_assoc]
    rfl
  have hunit : TimeUnit.all.find? (fun other => other.keyword.toList = unit.keyword.toList) =
      some unit := by
    cases unit <;> rfl
  rw [read?, htext, List.takeWhile_append_of_pos hword, List.dropWhile_append_of_pos hword]
  simp [hunit]

/-- A duration is read back up to whole milliseconds. -/
theorem read?_text (d : Duration) : read? d.text.toList = some d.milliseconds := by
  rw [text, TimeUnit.format, read?_count,
    Int.tdiv_mul_cancel (TimeUnit.length_coarsest_dvd d.milliseconds)]

/-- The characters of a text: those of a number, a blank and those of a unit. -/
theorem mem_text {d : Duration} {c : Char} (h : c ∈ d.text.toList) :
    c = '-' ∨ c = ' ' ∨ c.isAlphanum := by
  rw [text, TimeUnit.format, String.toList_append, String.toList_append, List.mem_append,
    List.mem_append] at h
  rcases h with (hcount | hblank) | hunit
  · refine (Sql.mem_toString_int hcount).imp_right fun hdigit => .inr ?_
    exact Bool.or_eq_true_iff.mpr (.inr hdigit)
  · exact .inr (.inl (List.mem_singleton.mp hblank))
  · have hkeyword : ∀ unit ∈ TimeUnit.all, unit.keyword.toList.all Char.isAlphanum := by decide
    exact .inr (.inr (List.all_eq_true.mp (hkeyword _ (TimeUnit.mem_all _)) c hunit))

theorem text_eq_iff {d other : Duration} :
    d.text = other.text ↔ d.milliseconds = other.milliseconds := by
  constructor
  · intro htext
    have hread := read?_text d
    rw [htext, read?_text] at hread
    exact (Option.some.inj hread).symm
  · intro hms
    rw [text, text, hms]

end Reading

section Words

/-- The divisions of 64-bit numbers that have no result among them. -/
def DivisionOverflows (a b : Int64) : Prop :=
  b = 0 ∨ a = Int64.minValue ∧ b = -1

/-- Whether a division of 64-bit numbers is that of whole numbers. -/
def DividesExactly (a b : Int) : Prop :=
  ¬DivisionOverflows (.ofInt a) (.ofInt b) ∧
    (Int64.ofInt a / Int64.ofInt b).toInt = a.tdiv b ∧
    (Int64.ofInt a % Int64.ofInt b).toInt = a.tmod b

variable {ms : Int}

theorem toInt_ofInt_length (unit : TimeUnit) : (Int64.ofInt unit.length).toInt = unit.length := by
  cases unit <;> rfl

theorem dividesExactly_length (hmin : Int64.minValue.toInt < ms) (hmax : ms ≤ Int64.maxValue.toInt)
    (unit : TimeUnit) : DividesExactly ms unit.length := by
  have hms : (Int64.ofInt ms).toInt = ms :=
    Int64.toInt_ofInt_of_le (le_of_lt hmin) (Int.lt_add_one_of_le hmax)
  have hne : Int64.ofInt ms ≠ Int64.minValue := by
    intro heq
    rw [← hms, heq] at hmin
    exact lt_irrefl _ hmin
  refine ⟨?_, ?_, ?_⟩
  · rintro (hzero | ⟨heq, -⟩)
    · cases unit <;> exact absurd hzero (by decide)
    · exact hne heq
  · rw [Int64.toInt_div_of_ne_left _ _ hne, hms, toInt_ofInt_length]
  · rw [Int64.toInt_mod, hms, toInt_ofInt_length]

end Words

/-- Durations print exactly in the coarsest unit. The text is a count of a unit, the count times the
length of the unit are the whole milliseconds of the duration, and the unit is the coarsest that
divides them (seconds for none). Two durations print alike exactly if they have the same whole
milliseconds. No unit makes a division of 64-bit numbers overflow or differ from that of whole
numbers. -/
theorem text_in_coarsest_unit (d : Duration) (hmin : Int64.minValue.toInt < d.milliseconds)
    (hmax : d.milliseconds ≤ Int64.maxValue.toInt) :
    (∃ (count : Int) (unit : TimeUnit), d.text = toString count ++ " " ++ unit.keyword ∧
      count * unit.length = d.milliseconds ∧
      (d.milliseconds = 0 → unit = .seconds) ∧
      (d.milliseconds ≠ 0 → unit.IsCoarsest d.milliseconds)) ∧
    (∀ other : Duration, d.text = other.text ↔ d.milliseconds = other.milliseconds) ∧
    ∀ unit : TimeUnit, DividesExactly d.milliseconds unit.length := by
  refine ⟨⟨d.milliseconds.tdiv (TimeUnit.coarsest d.milliseconds).length,
    TimeUnit.coarsest d.milliseconds, rfl, ?_, ?_, TimeUnit.isCoarsest_coarsest⟩, ?_, ?_⟩
  · exact Int.tdiv_mul_cancel (TimeUnit.length_coarsest_dvd d.milliseconds)
  · intro hzero
    rw [hzero]
    rfl
  · exact fun other => text_eq_iff
  · exact dividesExactly_length hmin hmax

/-- Ninety minutes before, and half a microsecond. -/
def ninetyMinutesAgo : Duration :=
  ⟨-5400000000500⟩

theorem text_in_coarsest_unit_ninetyMinutesAgo :
    ninetyMinutesAgo.text = "-90 MINUTES" ∧
    ninetyMinutesAgo.text = (ofSeconds (-5400)).text ∧
    ninetyMinutesAgo.text ≠ (ofSeconds (-5401)).text ∧
    DividesExactly ninetyMinutesAgo.milliseconds TimeUnit.minutes.length := by
  obtain ⟨-, halike, hexact⟩ := text_in_coarsest_unit ninetyMinutesAgo (by decide) (by decide)
  refine ⟨rfl, (halike _).mpr rfl, ?_, hexact .minutes⟩
  rw [Ne, halike]
  decide

end Duration

end StreamQuery
