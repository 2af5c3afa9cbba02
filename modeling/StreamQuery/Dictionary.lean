/-!
# Dictionaries

Values under text keys, kept in the order of the keys, each key once.
-/

namespace StreamQuery

abbrev Dictionary (α : Type) := List (String × α)

namespace Dictionary

variable {α : Type}

/-- Adds a value under a key, in place of the one that was there. -/
def insert (key : String) (value : α) : Dictionary α → Dictionary α
  | [] => [(key, value)]
  | (k, v) :: rest =>
    if key = k then (key, value) :: rest
    else if key < k then (key, value) :: (k, v) :: rest
    else (k, v) :: insert key value rest

def get? (key : String) : Dictionary α → Option α
  | [] => none
  | (k, v) :: rest => if key = k then some v else get? key rest

def contains (key : String) (entries : Dictionary α) : Bool :=
  (get? key entries).isSome

def keys (entries : Dictionary α) : List String :=
  entries.map (·.1)

/-- The dictionary of a list of entries; of two with one key the later counts. -/
def ofList (entries : List (String × α)) : Dictionary α :=
  entries.foldl (fun dictionary (key, value) => insert key value dictionary) []

theorem get?_insert (key other : String) (value : α) (entries : Dictionary α) :
    get? other (insert key value entries) =
      if other = key then some value else get? other entries := by
  induction entries with
  | nil => simp [insert, get?]
  | cons entry rest ih =>
    obtain ⟨k, v⟩ := entry
    by_cases hkey : key = k
    · subst hkey
      by_cases hother : other = key <;> simp [insert, get?, hother]
    · by_cases hlt : key < k
      · simp [insert, get?, hkey, hlt]
      · by_cases hother : other = k
        · subst hother
          simp [insert, get?, hkey, hlt, Ne.symm hkey]
        · simp [insert, get?, hkey, hlt, hother, ih]

end Dictionary

end StreamQuery
