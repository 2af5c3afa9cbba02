import StreamQuery.Clause.Filter
import StreamQuery.Clause.GroupBy
import StreamQuery.Clause.Join
import StreamQuery.Clause.OrderBy
import StreamQuery.Clause.Select
import StreamQuery.Clause.Window

/-!
# Clause builders

The builders that a generator has for its clauses. Any builder can be registered for a kind; the
builders that come with the library are the standard ones.
-/

namespace StreamQuery

abbrev ClauseBuilder := Expr → Context → Report String

/-- Builds the clause of a kind; there is none for a bare projection. -/
def ClauseKind.build? : ClauseKind → Option ClauseBuilder
  | .select => some fun e context => .ofExcept (SelectClause.build e context)
  | .filter => some fun e context => .ofExcept (FilterClause.build e context)
  | .groupBy => some fun e context => .ofExcept (GroupByClause.build e context)
  | .having => some fun e context => .ofExcept (HavingClause.build e context)
  | .join => some fun e context => .ofExcept (JoinClause.build e context)
  | .window => some fun e _ => WindowClause.build e
  | .orderBy => some OrderByClause.build
  | .projection => none

structure Registry where
  builder? : ClauseKind → Option ClauseBuilder

namespace Registry

def empty : Registry := ⟨fun _ => none⟩

/-- Registers a builder, in the place of any other of its kind. -/
def insert (registry : Registry) (kind : ClauseKind) (builder : ClauseBuilder) : Registry :=
  ⟨fun other => if other = kind then some builder else registry.builder? other⟩

def erase (registry : Registry) (kind : ClauseKind) : Registry :=
  ⟨fun other => if other = kind then none else registry.builder? other⟩

theorem builder?_insert (registry : Registry) (kind : ClauseKind) (builder : ClauseBuilder)
    (other : ClauseKind) :
    (registry.insert kind builder).builder? other =
      if other = kind then some builder else registry.builder? other :=
  rfl

theorem builder?_erase (registry : Registry) (kind other : ClauseKind) :
    (registry.erase kind).builder? other =
      if other = kind then none else registry.builder? other :=
  rfl

def contains (registry : Registry) (kind : ClauseKind) : Bool :=
  (registry.builder? kind).isSome

/-- The required kinds that cannot be built. -/
def missing (registry : Registry) (required : List ClauseKind) : List ClauseKind :=
  required.filter (!registry.contains ·)

/-- Fails if a builder that is required is missing. -/
def check (registry : Registry) (required : List ClauseKind) : Except Failure Unit :=
  match registry.missing required with
  | [] => .ok ()
  | missing => .error (.settings (.missingBuilders missing))

/-- Builds a clause. A failure tells the clause. -/
def build (registry : Registry) (kind : ClauseKind) (e : Expr) (context : Context) :
    Report String :=
  match registry.builder? kind with
  | some builder => (builder e context).mapFailure (.inClause kind)
  | none => throw (.settings (.noBuilder kind))

end Registry

/-- A registry of standard builders. -/
structure Builders extends Registry where
  standard_of_mem : ∀ kind builder, builder? kind = some builder → kind.build? = some builder

instance : Coe Builders Registry := ⟨Builders.toRegistry⟩

namespace Builders

def empty : Builders where
  toRegistry := .empty
  standard_of_mem _ _ h := by cases h

def standard : Builders where
  builder? := ClauseKind.build?
  standard_of_mem _ _ h := h

/-- Registers the standard builder of a kind, if there is one. -/
def insert (builders : Builders) (kind : ClauseKind) : Builders :=
  match hkind : kind.build? with
  | none => builders
  | some builder =>
    { toRegistry := builders.toRegistry.insert kind builder
      standard_of_mem := fun other found h => by
        by_cases hother : other = kind
        · rw [Registry.builder?_insert, if_pos hother] at h
          rw [hother, hkind, h]
        · rw [Registry.builder?_insert, if_neg hother] at h
          exact builders.standard_of_mem other found h }

def erase (builders : Builders) (kind : ClauseKind) : Builders where
  toRegistry := builders.toRegistry.erase kind
  standard_of_mem other found h := by
    by_cases hother : other = kind
    · rw [Registry.builder?_erase, if_pos hother] at h
      cases h
    · rw [Registry.builder?_erase, if_neg hother] at h
      exact builders.standard_of_mem other found h

/-- The builders themselves, if none that is required is missing. -/
def requiring (builders : Builders) (required : List ClauseKind) : Except Failure Builders := do
  builders.check required
  return builders

end Builders

/-- The registry with every standard builder. -/
abbrev Registry.standard : Registry := Builders.standard.toRegistry

end StreamQuery
