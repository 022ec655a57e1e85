import VideoProcess.GoText
import Mathlib.Data.List.Sort

namespace VideoProcess

/-! Worker affinity, with the host read from the worker id. -/

def cut (separator : List Char) : List Char → Option (List Char × List Char)
  | [] => if separator = [] then some ([], []) else none
  | char :: text =>
    if separator.isPrefixOf (char :: text) then
      some ([], (char :: text).drop separator.length)
    else (cut separator text).map fun parts => (char :: parts.1, parts.2)

/-- The host of `...worker@host:pid`; empty where the id names none. -/
def extractWorkerHost (workerID : String) : String :=
  match cut "worker@".toList workerID.toList with
  | none => ""
  | some (_, suffix) =>
    String.ofList (GoText.trimSpace (((cut [':'] suffix).map Prod.fst).getD suffix))

def mostFrequent (hosts : List String) : List String :=
  let most := hosts.foldl (fun most host => max most (hosts.count host)) 0
  (hosts.dedup.filter fun host => hosts.count host = most).insertionSort (· ≤ ·)

end VideoProcess
