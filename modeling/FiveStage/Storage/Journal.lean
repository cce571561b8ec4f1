import FiveStage.Log
import FiveStage.Storage.Basic

/-!
# Journals in the log

Of what a journal lists, fills and write-backs are reported in the log.
-/

namespace FiveStage

open Text

/-- The line about a happening, if it is one to report. -/
def Happening.report? : Happening → Option String
  | .filled cache address set line cycles =>
    some s!"{cache} miss at {hex address}: set {set} entry {line} filled in {wrapped cycles} cycles"
  | .flushed cache address => some s!"{cache} flushed dirty block {hex address}"
  | .bypassAsked .. | .setAnnounced .. | .prefetchAsked .. => none

/-- The log with the lines about the events of a journal. -/
def Log.addJournal (log : Log) (journal : List Event) : Log :=
  if log.keeps .trace then
    (journal.filterMap (·.happening.report?)).foldl
      (fun log line => log.add .trace fun _ => line) log
  else log

end FiveStage
