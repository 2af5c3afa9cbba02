import StreamQuery.Function.Catalog

/-!
# Filling templates

A text with holes is filled at once when every hole gets its argument as it stands. Templates are
filled slot after slot instead, so the slots in the text of an earlier argument are filled too. The
two agree on the templates of the catalogue exactly if no argument holds the slot of a later one.
-/

namespace StreamQuery

/-- A character of a text, or a hole in it. -/
inductive Piece (α : Type) where
  | char (c : Char)
  | hole (place : α)
deriving DecidableEq

namespace Piece

variable {α : Type}

def write (fill : α → List Char) : List (Piece α) → List Char
  | [] => []
  | .char c :: rest => c :: write fill rest
  | .hole place :: rest => fill place ++ write fill rest

/-- Whether a hole before these pieces is set apart from them. -/
def endsHole : List (Piece α) → Bool
  | [] => true
  | .char c :: _ => c ≠ '\x27' && c ≠ '\x7d' && !c.isDigit
  | .hole _ :: _ => false

/-- Whether all holes are set apart from what follows and no character opens a string or a slot. -/
def isSpaced : List (Piece α) → Bool
  | [] => true
  | .char c :: rest => c ≠ '\x27' && c ≠ '\x7b' && isSpaced rest
  | .hole _ :: rest => endsHole rest && isSpaced rest

theorem write_congr {fill fill' : α → List Char} {pieces : List (Piece α)}
    (h : ∀ place, .hole place ∈ pieces → fill place = fill' place) :
    write fill pieces = write fill' pieces := by
  induction pieces with
  | nil => rfl
  | cons piece rest ih =>
      have hrest := ih fun place hplace => h place (by simp [hplace])
      cases piece with
      | char c => rw [write, write, hrest]
      | hole place => rw [write, write, hrest, h place (by simp)]

theorem length_write_le {fill fill' : α → List Char} {pieces : List (Piece α)}
    (h : ∀ place, .hole place ∈ pieces → (fill place).length ≤ (fill' place).length) :
    (write fill pieces).length ≤ (write fill' pieces).length := by
  induction pieces with
  | nil => exact Nat.le_refl _
  | cons piece rest ih =>
      have hrest := ih fun place hplace => h place (by simp [hplace])
      cases piece with
      | char c => simpa [write] using hrest
      | hole place =>
          have hplace := h place (by simp)
          simp only [write, List.length_append]
          omega

theorem fill_eq_of_length_le {fill fill' : α → List Char} {pieces : List (Piece α)}
    (hlength : ∀ place, .hole place ∈ pieces → (fill place).length ≤ (fill' place).length)
    (h : write fill pieces = write fill' pieces) :
    ∀ place, .hole place ∈ pieces → fill place = fill' place := by
  induction pieces with
  | nil => simp
  | cons piece rest ih =>
      have hrest : ∀ place, .hole place ∈ rest → (fill place).length ≤ (fill' place).length :=
        fun place hplace => hlength place (by simp [hplace])
      cases piece with
      | char c => simpa using ih hrest (List.cons.inj h).2
      | hole first =>
          have hsum := congrArg List.length h
          have hfirst := hlength first (by simp)
          have hwrite := length_write_le hrest
          simp only [write, List.length_append] at hsum
          obtain ⟨hsame, hsameRest⟩ := List.append_inj h (by omega)
          intro place hplace
          rcases List.mem_cons.mp hplace with heq | hplace
          · rw [Piece.hole.inj heq, hsame]
          · exact ih hrest hsameRest place hplace

/-- Fillings that differ in one place only give different texts. -/
theorem fill_eq_of_write_eq {fill fill' : α → List Char} {pieces : List (Piece α)} {place : α}
    (hplace : .hole place ∈ pieces)
    (hothers : ∀ other, .hole other ∈ pieces → other ≠ place → fill other = fill' other)
    (h : write fill pieces = write fill' pieces) : fill place = fill' place := by
  have hlength : ∀ {fill fill' : α → List Char}, (fill place).length ≤ (fill' place).length →
      (∀ other, .hole other ∈ pieces → other ≠ place → fill other = fill' other) →
      ∀ other, .hole other ∈ pieces → (fill other).length ≤ (fill' other).length := by
    intro fill fill' hle hothers other hother
    by_cases heq : other = place
    · rwa [heq]
    · exact Nat.le_of_eq (congrArg List.length (hothers other hother heq))
  rcases Nat.le_total (fill place).length (fill' place).length with hle | hle
  · exact fill_eq_of_length_le (hlength hle hothers) h place hplace
  · refine (fill_eq_of_length_le (hlength hle fun other hother hne => ?_) h.symm place hplace).symm
    exact (hothers other hother hne).symm

end Piece

namespace SqlFunction

def slotText (index : Nat) : List Char :=
  ['\x7b', slotDigit index, '\x7d']

theorem fillSlot_cons (index : Nat) (arg : List Char) (c : Char) (rest : List Char) :
    fillSlot index arg (c :: rest) =
      if c = '\x7b' ∧ rest.take 2 = [slotDigit index, '\x7d'] then
        arg ++ fillSlot index arg (rest.drop 2)
      else c :: fillSlot index arg rest := by
  rw [fillSlot.eq_def]
  split
  · next d rest heq =>
      obtain ⟨rfl, rfl⟩ := List.cons.inj heq
      simp
  · next hslot heq =>
      obtain ⟨rfl, rfl⟩ := List.cons.inj heq
      rw [if_neg]
      rintro ⟨rfl, htake⟩
      match rest, htake with
      | d :: e :: rest, htake =>
          obtain ⟨rfl, rfl⟩ : d = slotDigit index ∧ e = '\x7d' := by simpa using htake
          exact hslot _ _ rfl rfl
  · next heq => cases heq

theorem isDigit_slotDigit {index : Nat} (h : index < 10) : (slotDigit index).isDigit := by
  decide +revert

/-- No slot begins in one text and ends in the next, if the next begins with no end of a slot. -/
theorem fillSlot_append {index : Nat} {rest : List Char}
    (hrest : ∀ c, rest.head? = some c → c ≠ slotDigit index ∧ c ≠ '\x7d') (arg text : List Char) :
    fillSlot index arg (text ++ rest) = fillSlot index arg text ++ fillSlot index arg rest := by
  have htake : ∀ text : List Char, (text ++ rest).take 2 = [slotDigit index, '\x7d'] →
      text.take 2 = [slotDigit index, '\x7d'] := by
    intro text hslot
    match text with
    | [] =>
        cases rest with
        | nil => simp at hslot
        | cons c rest => exact absurd (List.cons.inj hslot).1 (hrest c rfl).1
    | [d] =>
        cases rest with
        | nil => simp at hslot
        | cons c rest => simp [(hrest c rfl).2] at hslot
    | d :: e :: text => simpa using hslot
  fun_induction fillSlot index arg text with
  | case1 text ih => simp [fillSlot_cons, ih]
  | case2 d text hd ih =>
      rw [List.cons_append, fillSlot_cons, if_neg, ih, List.cons_append]
      simp [hd]
  | case3 c text hslot ih =>
      rw [List.cons_append, fillSlot_cons, if_neg, ih, List.cons_append]
      rintro ⟨rfl, hnext⟩
      match text, htake text hnext with
      | d :: e :: text, hnext =>
          obtain ⟨rfl, rfl⟩ : d = slotDigit index ∧ e = '\x7d' := by simpa using hnext
          exact hslot _ _ rfl rfl
  | case4 => rfl

/-- Filling a slot fills it in every hole and leaves the rest as it is. -/
theorem fillSlot_write {α : Type} {index : Nat} (hindex : index < 10) (arg : List Char)
    (fill : α → List Char) {pieces : List (Piece α)} (hspaced : Piece.isSpaced pieces) :
    fillSlot index arg (Piece.write fill pieces) =
      Piece.write (fun place => fillSlot index arg (fill place)) pieces := by
  induction pieces with
  | nil => rfl
  | cons piece rest ih =>
      cases piece with
      | char c =>
          obtain ⟨⟨-, hc⟩, hrest⟩ : (c ≠ '\x27' ∧ c ≠ '\x7b') ∧ Piece.isSpaced rest := by
            simpa [Piece.isSpaced] using hspaced
          rw [Piece.write, Piece.write, fillSlot_cons, if_neg (by simp [hc]), ih hrest]
      | hole place =>
          obtain ⟨hends, hrest⟩ : Piece.endsHole rest ∧ Piece.isSpaced rest := by
            simpa [Piece.isSpaced] using hspaced
          have hhead : ∀ c, (Piece.write fill rest).head? = some c →
              c ≠ slotDigit index ∧ c ≠ '\x7d' := by
            intro c hc
            have hdigit := isDigit_slotDigit hindex
            match rest with
            | [] => simp [Piece.write] at hc
            | .char d :: rest =>
                obtain rfl : d = c := by simpa [Piece.write] using hc
                grind [Piece.endsHole]
          rw [Piece.write, Piece.write, fillSlot_append hhead, ih hrest]

theorem fillSlots_write {α : Type} (fill : α → List Char) {pieces : List (Piece α)}
    (hspaced : Piece.isSpaced pieces) {index : Nat} (args : List String)
    (hcount : index + args.length ≤ 10) :
    fillSlots index (Piece.write fill pieces) args =
      Piece.write (fun place => fillSlots index (fill place) args) pieces := by
  induction args generalizing index fill with
  | nil => rfl
  | cons arg rest ih =>
      rw [List.length_cons] at hcount
      simp only [fillSlots]
      rw [fillSlot_write (by omega) arg.toList fill hspaced, ih _ (by omega)]

theorem length_fillSlot (index : Nat) (arg text : List Char) :
    ∃ count, (count = 0 ↔ hasSlot index text = false) ∧
      (fillSlot index arg text).length + 3 * count = text.length + count * arg.length := by
  fun_induction fillSlot index arg text with
  | case1 text ih =>
      obtain ⟨count, -, hlength⟩ := ih
      refine ⟨count + 1, by simp [hasSlot], ?_⟩
      simp only [List.length_append, List.length_cons, Nat.add_mul]
      omega
  | case2 d text hd ih =>
      obtain ⟨count, hcount, hlength⟩ := ih
      refine ⟨count, by simpa [hasSlot, hd] using hcount, ?_⟩
      simp only [List.length_cons] at hlength ⊢
      omega
  | case3 c text hslot ih =>
      obtain ⟨count, hcount, hlength⟩ := ih
      refine ⟨count, by rwa [hasSlot.eq_2 _ _ _ hslot], ?_⟩
      simp only [List.length_cons] at hlength ⊢
      omega
  | case4 => exact ⟨0, by simp [hasSlot], by simp⟩

theorem eq_slotText_of_fillSlot_eq_self {index : Nat} {arg text : List Char}
    (hlength : arg.length = 3) (hslot : hasSlot index text) (h : fillSlot index arg text = text) :
    arg = slotText index := by
  fun_induction fillSlot index arg text with
  | case1 text ih => exact (List.append_inj h hlength).1
  | case2 d text hd ih => exact ih (by simpa [hasSlot, hd] using hslot) (List.cons.inj h).2
  | case3 c text hnone ih =>
      exact ih (by rwa [hasSlot.eq_2 _ _ _ hnone] at hslot) (List.cons.inj h).2
  | case4 => simp [hasSlot] at hslot

/-- Filling a slot leaves exactly those texts as they are that do not have it, unless it is filled
with itself. -/
theorem fillSlot_eq_self_iff {index : Nat} {arg text : List Char} :
    fillSlot index arg text = text ↔ hasSlot index text = false ∨ arg = slotText index := by
  constructor
  · intro h
    obtain ⟨count, hcount, hlength⟩ := length_fillSlot index arg text
    by_cases hslot : hasSlot index text
    · have hpos : 0 < count := by
        refine Nat.pos_of_ne_zero fun hzero => ?_
        simp [hcount.mp hzero] at hslot
      have harg : count * arg.length = count * 3 := by
        rw [h] at hlength
        omega
      exact Or.inr
        (eq_slotText_of_fillSlot_eq_self (Nat.eq_of_mul_eq_mul_left hpos harg) hslot h)
    · exact Or.inl (by simpa using hslot)
  · rintro (hslot | rfl)
    · fun_induction fillSlot index arg text with
      | case1 text ih => simp [hasSlot] at hslot
      | case2 d text hd ih => rw [ih (by simpa [hasSlot, hd] using hslot)]
      | case3 c text hnone ih => rw [ih (by rwa [hasSlot.eq_2 _ _ _ hnone] at hslot)]
      | case4 => rfl
    · fun_induction fillSlot index (slotText index) text with
      | case1 text ih =>
          rw [ih]
          rfl
      | case2 d text hd ih => rw [ih]
      | case3 c text hnone ih => rw [ih]
      | case4 => rfl

theorem slotDigit_inj : ∀ i < 10, ∀ j < 10, slotDigit i = slotDigit j → i = j := by
  decide

theorem fillSlot_slotText_self (index : Nat) (arg : List Char) :
    fillSlot index arg (slotText index) = arg := by
  simp [slotText, fillSlot]

theorem fillSlot_slotText_of_ne {index other : Nat} (hindex : index < 10) (hother : other < 10)
    (hne : other ≠ index) (arg : List Char) :
    fillSlot index arg (slotText other) = slotText other := by
  have hdigit : slotDigit other ≠ slotDigit index :=
    fun h => hne (slotDigit_inj other hother index hindex h)
  rw [fillSlot_eq_self_iff]
  exact Or.inl (by simp [slotText, hasSlot, hdigit])

/-- The slots of a template as holes. -/
def slots : List Char → List (Piece Nat)
  | '\x7b' :: d :: '\x7d' :: rest =>
    if d.isDigit then .hole (d.toNat - 0x30) :: slots rest
    else .char '\x7b' :: slots (d :: '\x7d' :: rest)
  | c :: rest => .char c :: slots rest
  | [] => []

theorem slotDigit_toNat {d : Char} (h : d.isDigit) : slotDigit (d.toNat - 0x30) = d := by
  have hdigit : 0x30 ≤ d.toNat := by
    simp only [Char.isDigit, Bool.and_eq_true, decide_eq_true_eq] at h
    exact h.1
  rw [slotDigit, Nat.add_sub_cancel' hdigit, Char.ofNat_toNat]

theorem write_slots (template : List Char) : Piece.write slotText (slots template) = template := by
  fun_induction slots template with
  | case1 d rest hd ih => rw [Piece.write, ih, slotText, slotDigit_toNat hd]; rfl
  | case2 d rest hd ih => rw [Piece.write, ih]
  | case3 c rest hnone ih => rw [Piece.write, ih]
  | case4 => rfl

theorem lt_ten_of_mem_slots {template : List Char} {index : Nat}
    (h : .hole index ∈ slots template) : index < 10 := by
  fun_induction slots template with
  | case1 d rest hd ih =>
      rcases List.mem_cons.mp h with heq | hrest
      · have hdigit : d.toNat ≤ 0x39 := by
          simp only [Char.isDigit, Bool.and_eq_true, decide_eq_true_eq] at hd
          exact hd.2
        rw [Piece.hole.inj heq]
        omega
      · exact ih hrest
  | case2 d rest hd ih => exact ih (by simpa using h)
  | case3 c rest hnone ih => exact ih (by simpa using h)
  | case4 => simp at h

/-- The text of the argument for slot `index`; a slot without argument stays as it is. -/
def argText (args : List String) (index : Nat) : List Char :=
  (args[index]?.map String.toList).getD (slotText index)

/-- The template with every slot filled by its argument as it stands. -/
def fillOnce (args : List String) (template : List Char) : List Char :=
  Piece.write (argText args) (slots template)

/-- Whether no argument has the slot of a later one, unless that one is the slot itself. The first
argument is for slot `index`. -/
def keepsSlots (index : Nat) : List String → Bool
  | [] => true
  | arg :: rest =>
    (rest.zipIdx (index + 1)).all (fun (later, slot) =>
      !hasSlot slot arg.toList || later.toList = slotText slot) && keepsSlots (index + 1) rest

theorem fillSlots_eq_self {index : Nat} {args : List String} {text : List Char}
    (h : ∀ entry ∈ args.zipIdx index,
      hasSlot entry.2 text = false ∨ entry.1.toList = slotText entry.2) :
    fillSlots index text args = text := by
  induction args generalizing index with
  | nil => rfl
  | cons arg rest ih =>
      rw [List.zipIdx_cons] at h
      rw [fillSlots, fillSlot_eq_self_iff.mpr (h (arg, index) (by simp))]
      exact ih fun entry hentry => h entry (by simp [hentry])

theorem fillSlots_slotText {index place : Nat} {args : List String}
    (hkept : keepsSlots index args) (hplace : index + place < 10)
    (hcount : index + args.length ≤ 10) :
    fillSlots index (slotText (index + place)) args =
      (args[place]?.map String.toList).getD (slotText (index + place)) := by
  induction args generalizing index place with
  | nil => rfl
  | cons arg rest ih =>
      simp only [keepsSlots, Bool.and_eq_true, List.all_eq_true, Bool.or_eq_true,
        Bool.not_eq_true', decide_eq_true_eq] at hkept
      rw [List.length_cons] at hcount
      rw [fillSlots]
      cases place with
      | zero =>
          have hself : fillSlot index arg.toList (slotText (index + 0)) = arg.toList :=
            fillSlot_slotText_self index arg.toList
          rw [hself, fillSlots_eq_self hkept.1]
          simp
      | succ place =>
          have hnext := @ih (index + 1) place hkept.2 (by omega) (by omega)
          rw [fillSlot_slotText_of_ne (by omega) hplace (by omega)]
          rw [show index + (place + 1) = index + 1 + place by omega, hnext]
          simp

theorem fillSlots_eq_write {template : List Char} (hspaced : Piece.isSpaced (slots template))
    {args : List String} (hcount : args.length ≤ 10) :
    fillSlots 0 template args =
      Piece.write (fun place => fillSlots 0 (slotText place) args) (slots template) := by
  have hfill := fillSlots_write slotText hspaced args (by omega : 0 + args.length ≤ 10)
  rwa [write_slots] at hfill

theorem fillSlots_eq_fillOnce {template : List Char} (hspaced : Piece.isSpaced (slots template))
    {args : List String} (hcount : args.length ≤ 10) (hkept : keepsSlots 0 args) :
    fillSlots 0 template args = fillOnce args template := by
  rw [fillSlots_eq_write hspaced hcount]
  refine Piece.write_congr fun place hplace => ?_
  have hfilled := @fillSlots_slotText 0 place args hkept
    (by simpa using lt_ten_of_mem_slots hplace) (by omega)
  simpa [argText] using hfilled

/-- A template with up to two slots is filled as if at once exactly if its slots are kept. -/
theorem fillSlots_eq_fillOnce_iff {template : List Char}
    (hspaced : Piece.isSpaced (slots template)) {args : List String} (hcount : args.length ≤ 2)
    (hfirst : args.length = 2 → .hole 0 ∈ slots template) :
    fillSlots 0 template args = fillOnce args template ↔ keepsSlots 0 args := by
  refine ⟨fun h => ?_, fillSlots_eq_fillOnce hspaced (by omega)⟩
  match args with
  | [] => rfl
  | [arg] => rfl
  | [first, second] =>
      rw [fillSlots_eq_write hspaced (by simp)] at h
      have hothers : ∀ place, .hole place ∈ slots template → place ≠ 0 →
          fillSlots 0 (slotText place) [first, second] = argText [first, second] place := by
        intro place hplace hne
        have hlt := lt_ten_of_mem_slots hplace
        rw [fillSlots, fillSlots, fillSlot_slotText_of_ne (by omega) hlt hne]
        match place with
        | 1 => exact fillSlot_slotText_self 1 second.toList
        | place + 2 =>
            rw [fillSlots, fillSlot_slotText_of_ne (by omega) hlt (by omega)]
            rfl
      have hkept := Piece.fill_eq_of_write_eq (hfirst rfl) hothers h
      rw [fillSlots, fillSlots, fillSlots, fillSlot_slotText_self] at hkept
      have hsecond := fillSlot_eq_self_iff.mp hkept
      simpa [keepsSlots] using hsecond

/-- What filling relies on in a template: its slots are set apart, and there are at most two. -/
def WellSlotted (template : List Char) : Prop :=
  Piece.isSpaced (slots template) ∧ slotCount template ≤ 2 ∧
    (slotCount template = 2 → .hole 0 ∈ slots template)

instance (template : List Char) : Decidable (WellSlotted template) :=
  inferInstanceAs (Decidable (_ ∧ _ ∧ (_ → _)))

theorem wellSlotted_of_mem_catalog : ∀ f ∈ catalog, ∀ template ∈ f.template,
    WellSlotted template.toList := by
  decide

end SqlFunction

end StreamQuery
