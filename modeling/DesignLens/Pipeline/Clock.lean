import DesignLens.Json.Value

/-!
# The clock

The clock of the pipeline stands still: no stage takes any time, and reports carry the same date.
-/

namespace DesignLens.Pipeline

/-- The time that a stage takes in seconds. -/
def noTime : Json := .float (.zero false)

def today : String := "2000-01-01"

def timeOfDay : String := "00:00:00"

end DesignLens.Pipeline
