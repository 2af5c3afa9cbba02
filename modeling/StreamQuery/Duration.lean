/-!
# Durations

A duration is a whole number of nanoseconds. SQL texts give it in whole milliseconds, in the
coarsest unit that measures these exactly.
-/

namespace StreamQuery

structure Duration where
  nanoseconds : Int
deriving DecidableEq, Inhabited

namespace Duration

/-- The largest number of milliseconds in a duration, on either side of zero. -/
def maxMilliseconds : Int := 0x7FFFFFFFFFFFFFFF

/-- The duration of that many nanoseconds, if its milliseconds fit in 64 bits. -/
def ofNanoseconds? (n : Int) : Option Duration :=
  if -maxMilliseconds * 1000000 ≤ n ∧ n ≤ maxMilliseconds * 1000000 then some ⟨n⟩ else none

def ofMilliseconds? (n : Int) : Option Duration :=
  ofNanoseconds? (n * 1000000)

def ofSeconds? (n : Int) : Option Duration :=
  ofMilliseconds? (n * 1000)

def ofMinutes? (n : Int) : Option Duration :=
  ofSeconds? (n * 60)

def ofHours? (n : Int) : Option Duration :=
  ofSeconds? (n * 3600)

def ofSeconds (n : Int) : Duration :=
  ⟨n * 1000000000⟩

def ofDays (n : Int) : Duration :=
  ofSeconds (n * 86400)

/-- Whole milliseconds, rounded toward zero. -/
def milliseconds (d : Duration) : Int :=
  d.nanoseconds.tdiv 1000000

instance : LT Duration := ⟨fun a b => a.nanoseconds < b.nanoseconds⟩
instance : LE Duration := ⟨fun a b => a.nanoseconds ≤ b.nanoseconds⟩

instance (a b : Duration) : Decidable (a < b) :=
  inferInstanceAs (Decidable (a.nanoseconds < b.nanoseconds))

instance (a b : Duration) : Decidable (a ≤ b) :=
  inferInstanceAs (Decidable (a.nanoseconds ≤ b.nanoseconds))

def zero : Duration := ⟨0⟩

inductive TimeUnit where
  | days
  | hours
  | minutes
  | seconds
  | milliseconds
deriving DecidableEq

def TimeUnit.length : TimeUnit → Int
  | .days => 86400000
  | .hours => 3600000
  | .minutes => 60000
  | .seconds => 1000
  | .milliseconds => 1

def TimeUnit.keyword : TimeUnit → String
  | .days => "DAYS"
  | .hours => "HOURS"
  | .minutes => "MINUTES"
  | .seconds => "SECONDS"
  | .milliseconds => "MILLISECONDS"

/-- The coarsest unit that divides `ms`; seconds for zero. -/
def TimeUnit.coarsest (ms : Int) : TimeUnit :=
  if ms = 0 then .seconds
  else if ms.tmod 86400000 = 0 then .days
  else if ms.tmod 3600000 = 0 then .hours
  else if ms.tmod 60000 = 0 then .minutes
  else if ms.tmod 1000 = 0 then .seconds
  else .milliseconds

/-- The count of `unit`s in `ms` and the name of the unit. -/
def TimeUnit.format (unit : TimeUnit) (ms : Int) : String :=
  toString (ms.tdiv unit.length) ++ " " ++ unit.keyword

def text (d : Duration) : String :=
  (TimeUnit.coarsest d.milliseconds).format d.milliseconds

end Duration

end StreamQuery
