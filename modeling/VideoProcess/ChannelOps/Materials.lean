import VideoProcess.ChannelOps.Payload
import Mathlib.Tactic.MkIffOfInductiveProp

namespace VideoProcess.ChannelOps.Materials

open Data GoText

/-! The material references of JSON payloads (`materials.go`), for every order
in which `range` may run over a map. -/

abbrev Fields := List (String × Json)

structure MaterialReference where
  (materialID assetID : List Char)
  (startMS endMS : Option Int)
  segmentSignature : List Char
  metadata : Fields

/-- How values are read: `scaled` is what `millisValue` makes of seconds. -/
structure Reader where
  round : Rounding
  (intValue scaled : Json → Option Int)
  sha256 : List Char → List Char

def MaterialReference.key (ref : MaterialReference) : List Char × List Char :=
  (ref.materialID, ref.segmentSignature)

section

variable (reader : Reader)

def stringValue : Json → List Char
  | .null => []
  | value => trimSpace (sprint reader.round value)

def itoa (value : Int) : List Char := signText (value < 0) ++ natText value.natAbs

def segmentSignature (materialID : List Char) (startMS endMS : Option Int) : List Char :=
  reader.sha256 (materialID ++ ':' :: startMS.elim [] itoa ++ ':' :: endMS.elim [] itoa)

def orElse (text other : List Char) : List Char := if text = [] then other else text

def referenceFromMap (item : Fields) : Option MaterialReference :=
  let value key := (item.lookup key).getD .null
  let text key := stringValue reader (value key)
  let millisValue ms sec := (reader.intValue (value ms)).or (reader.scaled (value sec))
  let assetID := orElse (text "asset_id") (text "assetId")
  let materialID := orElse (orElse (text "material_id") (text "materialId")) assetID
  if materialID = [] then none
  else
    let startMS := millisValue "start_ms" "start_sec"
    let endMS := millisValue "end_ms" "end_sec"
    let signature := orElse (orElse (text "segment_signature") (text "segmentSignature"))
      (segmentSignature reader materialID startMS endMS)
    some ⟨materialID, assetID, startMS, endMS, signature, item⟩

def asMap : Json → Option Fields
  | .object fields => some fields
  | _ => none

def children : Json → List Json
  | .object fields => fields.map Prod.snd
  | .array items => items
  | _ => []

/-- The maps that `walkMaps` visits in a list of values. -/
inductive Walk : List Json → List Fields → Prop
  | done : Walk [] []
  | value : order.Perm (children value) → (asMap value = none → order = children value) →
    Walk (order ++ rest) visited → Walk (value :: rest) ((asMap value).toList ++ visited)

/-- The keys of the references are those that were seen. -/
def visit (refs : List MaterialReference) (item : Fields) : List MaterialReference :=
  (referenceFromMap reader item).elim refs fun ref =>
    if ref.key ∈ refs.map (·.key) then refs else refs ++ [ref]

/-- A run of `ExtractMaterialReferences`. -/
def Extracts (payloads : List Fields) (refs : List MaterialReference) : Prop :=
  ∃ visited, Walk (payloads.map .object) visited ∧ visited.foldl (visit reader) [] = refs

end

@[mk_iff]
inductive Contains : Json → Fields → Prop
  | self : asMap value = some item → Contains value item
  | child : child ∈ children value → Contains child item → Contains value item

variable {reader : Reader} {item : Fields} {visited : List Fields} {refs : List MaterialReference}

theorem Walk.mem_iff (walk : Walk values visited) :
  item ∈ visited ↔ ∃ value ∈ values, Contains value item := by
  induction walk with
  | done => simp
  | value order _ _ induction =>
    simp only [List.mem_append, Option.mem_toList, induction, order.mem_iff, List.mem_cons,
      or_and_right, exists_or, exists_eq_left]
    rw [contains_iff, or_assoc]

theorem Walk.enter {value : Json} {rest : List Json}
  (walk : Walk (children value ++ rest) visited) :
  Walk (value :: rest) ((asMap value).toList ++ visited) :=
  .value .rfl (fun _ => rfl) walk

theorem exists_walk (values : List Json) : ∃ visited, Walk values visited := by
  let Open (values : List Json) : Prop :=
    ∀ rest, (∃ visited, Walk rest visited) → ∃ visited, Walk (values ++ rest) visited
  have close {value : Json} (inner : Open (children value)) : Open [value] := by
    intro rest found
    obtain ⟨visited, walk⟩ := inner rest found
    exact ⟨_, walk.enter⟩
  have both {value : Json} {rest : List Json} (first : Open [value]) (others : Open rest) :
    Open (value :: rest) := fun after found => first _ (others after found)
  have nil : Open [] := fun _ found => found
  have every (value : Json) : Open [value] :=
    @Json.rec (fun value => Open [value]) Open (fun fields => Open (fields.map Prod.snd))
      (fun field => Open [field.2]) (close nil) (fun _ => close nil) (fun _ => close nil)
      (fun _ => close nil) (fun _ => @close (.array _))
      (fun _ => @close (.object _)) nil (fun _ _ => both) nil
      (fun _ _ => both) (fun _ _ inner => inner) value
  induction values with
  | nil => exact ⟨[], .done⟩
  | cons value rest induction => exact every value rest induction

theorem keys_foldl (distinct : (refs.map (·.key)).Nodup) :
  ((visited.foldl (visit reader) refs).map (·.key)).Nodup ∧
    ∀ key, key ∈ (visited.foldl (visit reader) refs).map (·.key) ↔ key ∈ refs.map (·.key) ∨
      ∃ item ∈ visited, ∃ found ∈ referenceFromMap reader item, found.key = key := by
  induction visited generalizing refs with
  | nil => simp [distinct]
  | cons item rest induction =>
    have step : ((visit reader refs item).map (·.key)).Nodup ∧
      ∀ key, key ∈ (visit reader refs item).map (·.key) ↔ key ∈ refs.map (·.key) ∨
        ∃ found ∈ referenceFromMap reader item, found.key = key := by
      unfold visit
      cases referenceFromMap reader item with
      | none => simp [distinct]
      | some ref =>
        rw [Option.elim_some]
        split
        · grind
        · rw [List.map_append]
          grind
    obtain ⟨unique, listed⟩ := induction step.1
    refine ⟨unique, fun key => ?_⟩
    rw [List.foldl_cons, listed key, step.2 key]
    grind

theorem extracts_spec (payloads : List Fields) : (∃ refs, Extracts reader payloads refs) ∧
  ∀ refs, Extracts reader payloads refs → (refs.map (·.key)).Nodup ∧
    (∀ payload ∈ payloads, ∀ item, Contains (.object payload) item →
      ∀ found ∈ referenceFromMap reader item, found.key ∈ refs.map (·.key)) ∧
    ∀ others, Extracts reader payloads others → (others.map (·.key)).Perm (refs.map (·.key)) := by
  constructor
  · obtain ⟨visited, walk⟩ := exists_walk (payloads.map .object)
    exact ⟨_, visited, walk, rfl⟩
  rintro _ ⟨visited, walk, rfl⟩
  obtain ⟨unique, listed⟩ := @keys_foldl reader visited [] .nil
  refine ⟨unique, ?_, ?_⟩
  · intro payload given item inner found read
    have met := walk.mem_iff.2 ⟨_, List.mem_map_of_mem given, inner⟩
    exact (listed _).2 (.inr ⟨item, met, found, read, rfl⟩)
  · rintro _ ⟨others, other, rfl⟩
    obtain ⟨distinct, met⟩ := @keys_foldl reader others [] .nil
    refine (List.perm_ext_iff_of_nodup distinct unique).2 fun key => ?_
    simp only [met, listed, walk.mem_iff, other.mem_iff]

/-- Of two maps with one key the first stands. -/
theorem order_shows : ∃ reader payload refs others, Extracts reader [payload] refs ∧
  Extracts reader [payload] others ∧
    refs.map (fun ref => (ref.materialID, ref.assetID)) = [(['x'], ['x']), (['y'], [])] ∧
    others.map (fun ref => (ref.materialID, ref.assetID)) = [(['y'], []), (['x'], [])] := by
  let named (field : String × String) : Fields := [(field.1, .string field.2)]
  have each (fields : List (String × String)) :
    Walk ((fields.map fun field => .object (named field)) ++ []) (fields.map named) := by
    induction fields with
    | nil => exact .done
    | cons _ _ ih => exact .enter (.enter ih)
  let fields := [("asset_id", "x"), ("material_id", "x"), ("material_id", "y")]
  let payload : Fields := fields.map fun field => (field.1 ++ field.2, .object (named field))
  exact ⟨⟨fun _ => ⟨false, [], 0⟩, fun _ => none, fun _ => none, id⟩, payload, _, _,
    ⟨payload :: fields.map named, (each fields).enter, rfl⟩,
    ⟨payload :: fields.reverse.map named, .value (fields.reverse_perm.map _) (fun absent =>
      nomatch absent) (each fields.reverse), rfl⟩, by decide +kernel, by decide +kernel⟩

end VideoProcess.ChannelOps.Materials
