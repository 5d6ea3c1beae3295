import DesignLens.Scan.Indicators

/-!
# Scanning for bad design

A scan gives one result for each sample of a subject: what the meter reads from it, its indicators
and what they recommend. A file that the file system refuses to give stands for its refusal; bytes
that are no text make the whole scan fail.
-/

namespace DesignLens.Scan

open Analysis Metrics Workspace

structure Result where
  source : String
  metrics : Json
  indicators : List Indicator

def Result.recommendations (r : Result) : List String := Scan.recommendations r.indicators

def Result.toJson (r : Result) : Json :=
  .obj [("source", .str r.source), ("metrics", r.metrics),
    ("indicators", .arr (r.indicators.map Indicator.toJson)),
    ("recommendations", .strings r.recommendations)]

/-- The text that stands for a sample that cannot be read. -/
def readErrorText (failure : Failure) : String := s!"<read-error: {failure.message}>"

/-- The text of a sample, with refusals of the file system as texts. -/
def scannedText (s : Sample) : Except Failure String :=
  match s.text with
  | .ok text => .ok text
  | .error failure =>
    if failure.kind.isSystem then .ok (readErrorText failure) else .error failure

def scanText (meter : Meter) (label text : String) : Except Failure Result := do
  let r := meter text
  let found ← indicators r text
  return ⟨label, ← r.snapshot, found⟩

/-- The meter for a scan, or why it cannot be used. -/
def scanMeter : Instruments → Except String Meter
  | .missing => .error "radon not available: mocked missing"
  | instruments => instruments.meter

/-- The results of a scan, or a message. -/
abbrev Results : Type := Except String (List Result)

def scan (instruments : Instruments) (t : Tree) (s : Subject) : Except Failure Results :=
  match scanMeter instruments with
  | .error message => .ok (.error message)
  | .ok meter =>
    if s.isEmpty then .ok (.error Subject.emptyMessage)
    else do
      let texts ← (s.withoutEmptyCode.samples t).mapM fun sample =>
        (scannedText sample).map fun text => (sample.label, text)
      return .ok (← texts.mapM fun (label, text) => scanText meter label text)

def resultsJson : Results → Json
  | .ok results => .obj [("results", .arr (results.map Result.toJson))]
  | .error message => messageJson message

end DesignLens.Scan
