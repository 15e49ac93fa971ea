import PubSubTrials.Decimal.Binary64
import PubSubTrials.Run.Result

/-!
# Summaries

The results of one pairing for people: a line for every case with its mismatches below it, and
the totals with the time that all cases took.
-/

namespace PubSubTrials.Summary

open Decimal

/-- A duration in seconds as a double: whole seconds and the rest are rounded on their own
before they are added. -/
def secondsAsDouble (time : Duration) : Option Binary64 := do
  let whole ← Binary64.ofNat? time.seconds
  let subsecond ← Binary64.ofNat? time.subsecond
  let unit ← Binary64.ofNat? Duration.perSecond
  whole.add (← subsecond.div unit)

/-- A duration in seconds with one decimal place. -/
def renderTime (time : Duration) : String :=
  ((secondsAsDouble time).getD .zero).renderTenths

/-- The lines of a case. -/
def caseLines (case : CaseResult) : List String :=
  case.verdict :: case.mismatches.map (fun line => "    " ++ line)

/-- The line of totals. -/
def totalsLine (series : SeriesResult) (time : Duration) : String :=
  "test result: " ++ (if series.allPassed then "ok" else "FAILED") ++ ". " ++
    toString series.passed ++ " passed; " ++ toString series.failed ++ " failed; finished in " ++
    renderTime time ++ "s"

/-- The lines of a summary. -/
def lines (publisher subscriber : String) (series : SeriesResult) (time : Duration) :
    List String :=
  (publisher ++ " -> " ++ subscriber) :: series.cases.flatMap caseLines ++
    ["", totalsLine series time] ++
    (if series.interrupted then ["interrupted: remaining test cases were skipped"] else [])

/-- The summary of a series of cases, unless the cases took longer than any duration. -/
def render (publisher subscriber : String) (series : SeriesResult) : Option String :=
  series.duration?.map (fun time =>
    String.join ((lines publisher subscriber series time).map (fun line => line ++ "\n")))

end PubSubTrials.Summary
