import StreamQuery.Duration

/-!
# Windows

A window is described by the list of settings that were made, in order. Folding the list keeps the
last value of each setting.
-/

namespace StreamQuery

inductive WindowKind where
  | tumbling
  | hopping
  | session
deriving DecidableEq

inductive WindowSetting where
  | kind (kind : WindowKind)
  | size (value : Duration)
  | advanceBy (value : Duration)
  | gap (value : Duration)
  | retention (value : Duration)
  | gracePeriod (value : Duration)
  | emitFinal
deriving DecidableEq

def WindowSetting.name : WindowSetting → String
  | .kind .tumbling => "TumblingWindow"
  | .kind .hopping => "HoppingWindow"
  | .kind .session => "SessionWindow"
  | .size _ => "Size"
  | .advanceBy _ => "AdvanceBy"
  | .gap _ => "Gap"
  | .retention _ => "Retention"
  | .gracePeriod _ => "GracePeriod"
  | .emitFinal => "EmitFinal"

abbrev Window := List WindowSetting

namespace Window

def tumblingOf (size : Duration) : Window :=
  [.kind .tumbling, .size size]

def hoppingOf (size : Duration) : Window :=
  [.kind .hopping, .size size]

def sessionOf (gap : Duration) : Window :=
  [.kind .session, .gap gap]

def text (window : Window) : String :=
  "Window[" ++ String.intercalate "." (window.map (·.name)) ++ "]"

end Window

/-- The last value of each setting of a window. -/
structure WindowSpec where
  kind : Option WindowKind := none
  size : Option Duration := none
  advanceBy : Option Duration := none
  gap : Option Duration := none
  retention : Option Duration := none
  gracePeriod : Option Duration := none
  emitFinal : Bool := false
deriving DecidableEq, Inhabited

namespace WindowSpec

def apply (spec : WindowSpec) : WindowSetting → WindowSpec
  | .kind kind => { spec with kind := some kind }
  | .size value => { spec with size := some value }
  | .advanceBy value => { spec with advanceBy := some value }
  | .gap value => { spec with gap := some value }
  | .retention value => { spec with retention := some value }
  | .gracePeriod value => { spec with gracePeriod := some value }
  | .emitFinal => { spec with emitFinal := true }

def ofWindow (window : Window) : WindowSpec :=
  window.foldl apply {}

end WindowSpec

end StreamQuery
