import Mathlib.Data.Rat.Cast.Order
import VideoProcess.Autoflow.Rights
import VideoProcess.Data.Dedupe

namespace VideoProcess.Autoflow.ClipRanker

open Data Python

/-! `ClipRanker._dedupe` of `clip_ranker.py`. -/

structure Candidate extends AutoFlowClipCandidate where
  title : String
  (startSec endSec : Option Rat)
deriving DecidableEq

/-- What the interpreter makes of texts and numbers, where it raises nothing. -/
structure Interpreter where
  unicode : Unicode
  /-- A character that `[\w一-鿿]` matches. -/
  word : Char → Bool
  float : ConfigValue → Rat
  round : Rat → Int

/-- What the loop remembers of a candidate. -/
inductive Key where
  | url (normalized : String)
  | asset (id : String)
  | title (normalized : String) (seconds : Int)
  | window (source : String) (start finish : Rat)
deriving DecidableEq

def overlaps (aStart aEnd bStart bEnd : Rat) : Bool := max aStart bStart < min aEnd bEnd

def clashes : Key → Key → Bool
  | .url first, .url second => first = second
  | .asset first, .asset second => first = second
  | .title first seconds, .title second other => first ≠ "" ∧ first = second ∧ seconds = other
  | .window first start finish, .window second start' finish' =>
    first = second ∧ overlaps start finish start' finish'
  | _, _ => false

variable (interpreter : Interpreter)

def duration (candidate : Candidate) : Rat :=
  match candidate.startSec, candidate.endSec with
  | some start, some finish => max 0 (finish - start)
  | _, _ =>
    let duration := candidate.metadata.getD "duration" .null
    let seconds := candidate.metadata.getD "duration_sec" .null
    if truthy duration then interpreter.float duration
    else if truthy seconds then interpreter.float seconds else 0

def normalizeTitle (value : String) : String :=
  " ".intercalate ((((interpreter.unicode.lower value).toList.splitOnP
    fun char => !interpreter.word char).filter (· ≠ [])).map String.ofList)

def window (candidate : Candidate) : Option Key :=
  match candidate.metadata.getD "source_video_id" .null with
  | .str source =>
    let start := candidate.startSec.getD 0
    if source = "" then none
    else some (.window source start ((candidate.endSec.filter (· ≠ 0)).getD start))
  | _ => none

def keys (candidate : Candidate) : List Key :=
  ((candidate.url.filter (· ≠ "")).map fun url => Key.url
    (interpreter.unicode.lower (interpreter.unicode.strip url))).toList ++
  ((candidate.assetID.filter (· ≠ "")).map Key.asset).toList ++
  [.title (normalizeTitle interpreter candidate.title)
    (interpreter.round (duration interpreter candidate))] ++
  (window candidate).toList

variable (candidates : List Candidate)

/-- The candidates, each with whether it gets into the result. -/
def visited : List (Candidate × Bool) :=
  Dedupe.marks clashes (keys interpreter) [] candidates

def dedupe : List Candidate :=
  Dedupe.kept (visited interpreter candidates)

def Conflict (candidate other : Candidate) : Prop :=
  Dedupe.Conflict clashes (keys interpreter) candidate other

theorem clashes_comm (first second : Key) : clashes first second = clashes second first := by
  cases first <;> cases second <;>
    simp only [clashes, overlaps, max_comm, min_comm, decide_eq_decide]
  · exact eq_comm
  · exact eq_comm
  · grind
  · grind

theorem Conflict.symm (conflict : Conflict interpreter candidate other) :
  Conflict interpreter other candidate := by
  obtain ⟨key, own, seen, held, clash⟩ := conflict
  exact ⟨seen, held, key, own, clashes_comm key seen ▸ clash⟩

theorem dedupe_spec (candidates : List Candidate) :
  (dedupe interpreter candidates).Sublist candidates ∧
  (dedupe interpreter candidates).Pairwise (fun candidate later =>
    ¬ Conflict interpreter candidate later) ∧
  dedupe interpreter (dedupe interpreter candidates) = dedupe interpreter candidates ∧
  ∀ before candidate after, visited interpreter candidates = before ++ (candidate, false) :: after →
    ∃ other ∈ before, Conflict interpreter candidate other.1 := by
  have ⟨_, apart⟩ := @Dedupe.kept_apart _ _ clashes (keys interpreter) [] candidates
  refine ⟨Dedupe.kept_sublist, apart.imp fun free conflict =>
    free (conflict.symm), Dedupe.kept_eq (by simp [Dedupe.Free]) apart, ?_⟩
  intro before candidate after split
  refine (Dedupe.conflict_of_dropped split).resolve_left ?_
  simp [Dedupe.Free]

def plain : Interpreter := ⟨ascii, Char.isAlpha, fun _ => 0, fun _ => 0⟩

def clip (title url : String) : Candidate :=
  ⟨⟨"youtube", some url, none, "allowed", .empty⟩, title, none, none⟩

/-- The second clip goes for its title, and the third for the url of the
second, although it has nothing in common with the one that is kept. -/
theorem dropped_url_drops : visited plain [clip "a" "a.com", clip "a" "b.com", clip "c" "b.com"] =
  [(clip "a" "a.com", true), (clip "a" "b.com", false), (clip "c" "b.com", false)] ∧
  ¬ Conflict plain (clip "c" "b.com") (clip "a" "a.com") := by
  constructor
  · decide +kernel
  · rw [Conflict, Dedupe.not_conflict, ← Dedupe.all_isFree]
    decide +kernel

end VideoProcess.Autoflow.ClipRanker
