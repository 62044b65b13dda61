import Baseline.Proofs.Configuration.Loading
import Baseline.Proofs.Run.Stages

/-!
# What a failed run leaves behind

A run that fails in its analysis changes nothing. The results of earlier runs are removed before the
new ones are written, so a run that fails in writing may leave less than there was: as many files of
the new listing as could be written, in their order, and none of the old. If the earlier results
cannot all be removed because a directory among them cannot be read, a part of them is left and
nothing is written.
-/

namespace Baseline.Run

open FileSystem

variable {fs : FileSystem} {config : Configuration} {analyzers : AnalyzerSet} {spec : ProjectSpec}
  {rules : List RuleSetting} {report : Report} {error : RunError}

/-- A project with one script and the results of an earlier run. -/
def earlierResults : FileSystem :=
  { entries := [(["w"], .directory false), (["w", "sources"], .directory false),
      (["w", "sources", "p"], .directory false), (["w", "sources", "p", "a.js"], .file [] false),
      (["w", "actual"], .directory false), (["w", "actual", "p"], .directory false),
      (["w", "actual", "p", "javascript-S1.json"], .file [123, 125] false)]
    current := ["w"]
    homes := [] }

end Baseline.Run
