import VideoProcess.Validation.Refinement

namespace VideoProcess.Validation

open Data Program List

/-! The inputs of a node with dynamic video inputs on their way to the worker
(`concat_many.go`). -/

namespace Go

def intLimit : Nat := 9223372036854775808

def magnitude? (digits : List Char) : Option Nat :=
  if digits ≠ [] ∧ digits.all Char.isDigit then
    some (Python.decimal (digits.map fun char => char.toNat - 48))
  else none

/-- `strconv.Atoi` with an `int` of 64 bits. -/
def atoi : List Char → Option Int
  | '-' :: digits => ((magnitude? digits).filter fun value => value ≤ intLimit).map Int.negOfNat
  | '+' :: digits => ((magnitude? digits).filter fun value => value < intLimit).map Int.ofNat
  | digits => ((magnitude? digits).filter fun value => value < intLimit).map Int.ofNat

structure InputItem where
  (handle path : String)
deriving DecidableEq, Repr

def videoIndex (handle : String) : Option Int :=
  if "video_".toList.isPrefixOf handle.toList then
    atoi (handle.toList.drop 6)
  else none

def indexUnlessExists (indexed : Dict Int InputItem) (index : Int)
  (item : InputItem) : Dict Int InputItem :=
  if index ∈ indexed.keys then indexed else indexed.set index item

def indexInput (indexed : Dict Int InputItem) (entry : String × String) : Dict Int InputItem :=
  match videoIndex entry.1 with
  | some index => indexed.set index ⟨entry.1, entry.2⟩
  | none =>
    if entry.1 = "video_first" then
      indexUnlessExists indexed 1 ⟨entry.1, entry.2⟩
    else if entry.1 = "video_second" then
      indexUnlessExists indexed 2 ⟨entry.1, entry.2⟩
    else indexed

/-- The entries come in the order in which the map is ranged over. -/
def selectedVideoInputItems (entries : List (String × String)) : List InputItem :=
  let indexed := entries.foldl indexInput .empty
  (indexed.keys.insertionSort (· ≤ ·)).filterMap indexed.get?

def slot (handle : String) : Option Int :=
  (videoIndex handle).or (if handle = "video_first" then some 1
    else if handle = "video_second" then some 2
    else none)

theorem indexInput_of_notMem {indexed : Dict Int InputItem}
  {entry : String × String} (stored : slot entry.1 = some index)
  (fresh : index ∉ indexed.keys) :
  indexInput indexed entry = indexed.set index ⟨entry.1, entry.2⟩ := by
  unfold slot at stored
  unfold indexInput
  cases parsed : videoIndex entry.1 with
  | some =>
    rw [parsed] at stored
    cases stored
    rfl
  | none =>
    simp only [parsed, Option.none_or] at stored
    split at stored
    next first =>
      cases stored
      simp [first, indexUnlessExists, if_neg fresh]
    next other =>
      split at stored
      next second =>
        cases stored
        simp only [second, if_true, indexUnlessExists, if_neg fresh]
        rfl
      · cases stored

theorem indexInput_cases (indexed : Dict Int InputItem) (entry : String × String) :
  indexInput indexed entry = indexed ∨ ∃ index, slot entry.1 = some index ∧
    indexInput indexed entry = indexed.set index ⟨entry.1, entry.2⟩ := by
  unfold indexInput slot
  cases videoIndex entry.1 with
  | some index => exact .inr ⟨index, rfl, rfl⟩
  | none =>
    simp only [Option.none_or]
    unfold indexUnlessExists
    split_ifs <;> simp

variable {entries : List (String × String)}

theorem get?_foldl_indexInput (found : (entries.foldl indexInput start).get? index = some item) :
  start.get? index = some item ∨ slot item.handle = some index := by
  induction entries generalizing start with
  | nil => exact .inl found
  | cons entry _ ih =>
    obtain found | stored := ih found
    · obtain kept | ⟨_, stored, assigned⟩ := indexInput_cases start entry
      · rw [kept] at found
        exact .inl found
      · rw [assigned, Dict.get?_set] at found
        split at found
        next same =>
          cases found
          exact .inr (same ▸ stored)
        · exact .inl found
    · exact .inr stored

theorem mem_selectedVideoInputItems (member : item ∈ selectedVideoInputItems entries) :
  ∃ index, (entries.foldl indexInput .empty).get? index = some item ∧
    slot item.handle = some index := by
  obtain ⟨index, -, found⟩ := mem_filterMap.1 member
  refine ⟨index, found, ?_⟩
  obtain impossible | stored := get?_foldl_indexInput found
  · cases impossible
  · exact stored

theorem selectedVideoInputItems_eq (index : String × String → Int) {sorted : List (String × String)}
  (stored : ∀ entry ∈ entries, slot entry.1 = some (index entry))
  (distinct : (entries.map index).Nodup) (same : sorted.Perm entries)
  (ordered : sorted.Pairwise fun earlier later => index earlier ≤ index later) :
  selectedVideoInputItems entries = sorted.map fun entry => ⟨entry.1, entry.2⟩ := by
  have collected : (entries.foldl indexInput .empty).entries =
    entries.map fun entry => (index entry, ⟨entry.1, entry.2⟩) := by
    have assigns : ∀ dict, ∀ entry ∈ entries, index entry ∉ Dict.keys dict →
      indexInput dict entry = dict.set (index entry) ⟨entry.1, entry.2⟩ :=
      fun dict entry member fresh =>
        indexInput_of_notMem (stored entry member) fresh
    have fresh : ((Dict.empty : Dict Int InputItem).keys ++ entries.map index).Nodup := distinct
    exact Dict.entries_foldl assigns fresh
  have keys : (entries.foldl indexInput .empty).keys = entries.map index := by
    rw [Dict.keys, collected, map_map]
    rfl
  have sortedKeys : (entries.map index).insertionSort (· ≤ ·) = sorted.map index := by
    apply List.Perm.eq_of_pairwise' (pairwise_insertionSort _ _)
    · rw [pairwise_map]
      exact ordered
    · exact (perm_insertionSort _ _).trans (same.map index).symm
  rw [selectedVideoInputItems, keys, sortedKeys, filterMap_map, ← filterMap_eq_map]
  apply filterMap_congr
  intro entry member
  apply Dict.get?_eq_some_iff.2
  rw [collected]
  exact mem_map.2 ⟨entry, same.mem_iff.1 member, rfl⟩

end Go

section

variable {φ : Type} {interpreter : Python.Interpreter φ}

/-- A handle that Go reads as Python does: `video_` and ASCII digits, or one of
the old names of the first two inputs of a timeline. -/
def Written (nodeType handle : String) : Prop :=
  (∃ digits : List Char, (∀ char ∈ digits, char.isDigit = true) ∧
    handle.toList = "video_".toList ++ digits) ∨
  nodeType = "concat_timeline" ∧ (handle = "video_first" ∨ handle = "video_second")

theorem toNat_lt_of_isDigit {char : Char} (digit : char.isDigit = true) : char.toNat < 128 := by
  simp only [Char.isDigit, Bool.and_eq_true, decide_eq_true_eq, UInt32.le_iff_toNat_le] at digit
  have bound := digit.2
  change char.val.toNat ≤ 57 at bound
  change char.val.toNat < 128
  omega

theorem beforeNewline_of_isDigit
  (digits : ∀ char, text.getLast? = some char → char.isDigit = true) :
  Python.beforeNewline text = text := by
  refine if_neg fun newline => ?_
  have digit := digits _ newline
  revert digit
  decide

theorem videoInputDigits_eq_some {digits : List Nat}
  (matched : Python.videoInputDigits interpreter handle = some digits) :
  "video_".toList <+: handle.toList ∧ Python.beforeNewline (handle.toList.drop 6) ≠ [] ∧
    (∀ char ∈ Python.beforeNewline (handle.toList.drop 6), (interpreter.digit char).isSome = true) ∧
    digits = (Python.beforeNewline (handle.toList.drop 6)).map
      fun char => (interpreter.digit char).getD 0 := by
  unfold Python.videoInputDigits at matched
  split at matched
  next started =>
    dsimp only at matched
    split at matched
    next read =>
      cases matched
      rw [all_map, all_eq_true] at read
      exact ⟨List.isPrefixOf_iff_prefix.1 started,
        fun empty => read.1 (by rw [empty, map_nil]), read.2,
        map_map⟩
    · cases matched
  · cases matched

theorem videoInputDigits_of_isDigit {read : List Nat} (all : ∀ char ∈ digits, char.isDigit = true)
  (spelled : handle.toList = "video_".toList ++ digits)
  (matched : Python.videoInputDigits interpreter handle = some read) :
  digits ≠ [] ∧ read = digits.map fun char => char.toNat - 48 := by
  obtain ⟨-, given, -, rfl⟩ := videoInputDigits_eq_some matched
  have rest : handle.toList.drop 6 = digits := by
    rw [spelled]
    rfl
  rw [rest, beforeNewline_of_isDigit fun char last =>
    all char (mem_of_getLast? last)] at given ⊢
  refine ⟨given, map_congr_left fun char member => ?_⟩
  rw [interpreter.digit_ascii char (toNat_lt_of_isDigit (all char member)),
    if_pos (all char member), Option.getD_some]

theorem atoi_of_isDigit (all : ∀ char ∈ digits, char.isDigit = true) : Go.atoi digits =
  ((Go.magnitude? digits).filter fun value => value < Go.intLimit).map Int.ofNat := by
  unfold Go.atoi
  split
  · exact absurd (all '-' (by simp)) (by decide)
  · exact absurd (all '+' (by simp)) (by decide)
  · rfl

theorem dynamicVideoInputIndex_eq_some
  (found : Python.dynamicVideoInputIndex interpreter nodeType handle = .ok (some index)) :
  ∃ digits, Python.videoInputDigits interpreter
    (Python.canonicalTargetHandle nodeType handle) = some digits ∧
    Python.decimal digits = index := by
  unfold Python.dynamicVideoInputIndex at found
  split at found
  · cases found
  · unfold Python.matchedIndex at found
    split at found
    · cases found
    next digits matched =>
      refine ⟨digits, matched, ?_⟩
      unfold Python.intOfDigits at found
      split at found
      · simp only [Except.map, Except.ok.injEq, Option.filter_eq_some_iff,
          Option.some.injEq] at found
        exact found.1
      · cases found

theorem canonicalTargetHandle_of_ne (first : handle ≠ "video_first")
  (second : handle ≠ "video_second") :
  Python.canonicalTargetHandle nodeType handle = handle := by
  rw [Python.canonicalTargetHandle, Python.legacyTimelineInputHandle,
    if_neg first, if_neg second, ite_self]

theorem canonicalTargetHandle_of_videoIndex (parsed : Go.videoIndex handle = some index) :
  Python.canonicalTargetHandle nodeType handle = handle := by
  apply canonicalTargetHandle_of_ne
  · rintro rfl
    have unparsed : Go.videoIndex "video_first" = none := by decide
    rw [unparsed] at parsed
    cases parsed
  · rintro rfl
    have unparsed : Go.videoIndex "video_second" = none := by decide
    rw [unparsed] at parsed
    cases parsed

theorem canonicalTargetHandle_of_isDigit (all : ∀ char ∈ digits, char.isDigit = true)
  (spelled : handle.toList = "video_".toList ++ digits) :
  Python.canonicalTargetHandle nodeType handle = handle := by
  have plain (name : List Char) (letter : ∃ char ∈ name, char.isDigit = false) :
    handle ≠ String.ofList ("video_".toList ++ name) := by
    rintro rfl
    rw [String.toList_ofList, append_cancel_left_eq] at spelled
    obtain ⟨char, member, letter⟩ := letter
    rw [all char (spelled ▸ member)] at letter
    cases letter
  exact canonicalTargetHandle_of_ne (plain "first".toList ⟨'f', by decide, by decide⟩)
    (plain "second".toList ⟨'s', by decide, by decide⟩)

theorem slot_of_written (written : Written nodeType handle)
  (found : Python.dynamicVideoInputIndex interpreter nodeType handle =
    .ok (some index)) (within : index ≤ Python.dynamicVideoInputMaxCount) :
  Go.slot handle = some (index : Int) := by
  obtain ⟨digits, all, spelled⟩ | ⟨rfl, legacy⟩ := written
  · obtain ⟨_, matched, rfl⟩ := dynamicVideoInputIndex_eq_some found
    rw [canonicalTargetHandle_of_isDigit all spelled] at matched
    obtain ⟨given, rfl⟩ := videoInputDigits_of_isDigit all spelled matched
    have parsed : Go.magnitude? digits =
      some (Python.decimal (digits.map fun char => char.toNat - 48)) :=
      if_pos ⟨given, all_eq_true.2 all⟩
    have fits : Python.decimal (digits.map fun char => char.toNat - 48) <
      Go.intLimit := Nat.lt_of_le_of_lt within (by decide)
    have rest : handle.toList.drop 6 = digits := by
      rw [spelled]
      rfl
    have started : "video_".toList.isPrefixOf handle.toList = true := by
      rw [spelled]
      exact isPrefixOf_iff_prefix.2 (prefix_append _ _)
    rw [Go.slot, Go.videoIndex, if_pos started, rest, atoi_of_isDigit all, parsed]
    simp [fits]
  · obtain rfl | rfl := legacy
    · change (Python.matchedIndex interpreter "video_1").map _ = _ at found
      rw [matchedIndex_video_1] at found
      cases found
      decide
    · change (Python.matchedIndex interpreter "video_2").map _ = _ at found
      rw [matchedIndex_video_2] at found
      cases found
      decide

theorem magnitude?_eq_some (parsed : Go.magnitude? digits = some value) :
  digits ≠ [] ∧ ∀ char ∈ digits, char.isDigit = true := by
  unfold Go.magnitude? at parsed
  split at parsed
  next read => exact ⟨read.1, all_eq_true.1 read.2⟩
  · cases parsed

theorem atoi_eq_some (parsed : Go.atoi text = some value) : (∀ char ∈ text, char.isDigit = true) ∨
  ∃ sign digits, text = sign :: digits ∧ (sign = '-' ∨ sign = '+') ∧
    digits ≠ [] ∧ ∀ char ∈ digits, char.isDigit = true := by
  unfold Go.atoi at parsed
  split at parsed <;>
    obtain ⟨magnitude, read, -⟩ := Option.map_eq_some_iff.1 parsed <;>
    have facts := magnitude?_eq_some (Option.filter_eq_some_iff.1 read).1
  · exact .inr ⟨'-', _, rfl, .inl rfl, facts⟩
  · exact .inr ⟨'+', _, rfl, .inr rfl, facts⟩
  · exact .inl facts.2

theorem videoInputDigits_ne_some {digits : List Nat} (char : Char)
  (ascii : char.toNat < 128) (letter : char.isDigit = false)
  (member : char ∈ Python.beforeNewline (handle.toList.drop 6)) :
  Python.videoInputDigits interpreter handle ≠ some digits := by
  intro matched
  have read := (videoInputDigits_eq_some matched).2.2.1 char member
  rw [interpreter.digit_ascii char ascii, letter] at read
  cases read

theorem written_of_slot (stored : Go.slot handle = some key)
  (found : Python.dynamicVideoInputIndex interpreter nodeType handle =
    .ok (some index)) : Written nodeType handle := by
  obtain ⟨_, matched, -⟩ := dynamicVideoInputIndex_eq_some found
  unfold Go.slot at stored
  cases parsed : Go.videoIndex handle with
  | some =>
    rw [canonicalTargetHandle_of_videoIndex parsed] at matched
    unfold Go.videoIndex at parsed
    split at parsed
    next started =>
      obtain ⟨text, spelled⟩ := isPrefixOf_iff_prefix.1 started
      have rest : handle.toList.drop 6 = text := by
        rw [← spelled]
        rfl
      rw [rest] at parsed
      obtain all | ⟨sign, digits, rfl, signed, given, all⟩ := atoi_eq_some parsed
      · exact .inl ⟨text, all, spelled.symm⟩
      · -- Atoi takes a sign, which the expression of Python does not
        have whole : Python.beforeNewline (sign :: digits) = sign :: digits := by
          apply beforeNewline_of_isDigit
          intro char last
          rw [getLast?_cons_of_ne_nil given] at last
          exact all char (mem_of_getLast? last)
        have member : sign ∈ Python.beforeNewline (handle.toList.drop 6) := by
          rw [rest, whole]
          exact mem_cons_self
        obtain rfl | rfl := signed
        · exact absurd matched (videoInputDigits_ne_some '-' (by decide) (by decide) member)
        · exact absurd matched (videoInputDigits_ne_some '+' (by decide) (by decide) member)
    · cases parsed
  | none =>
    rw [parsed, Option.none_or] at stored
    by_cases timeline : nodeType = "concat_timeline"
    · split at stored
      next first => exact .inr ⟨timeline, .inl first⟩
      · split at stored
        next second => exact .inr ⟨timeline, .inr second⟩
        · cases stored
    · rw [Python.canonicalTargetHandle, if_neg timeline] at matched
      split at stored
      next first =>
        rw [first] at matched
        exact absurd matched (videoInputDigits_ne_some 'f' (by decide) (by decide) (by decide))
      · split at stored
        next second =>
          rw [second] at matched
          exact absurd matched (videoInputDigits_ne_some 's' (by decide) (by decide) (by decide))
        · cases stored

end

section

variable {φ : Type} {interpreter : Python.Interpreter φ}
  {registry : Registry φ} {definition : PipelineDefinition}

def incoming (definition : PipelineDefinition) (id : String) : List PipelineEdge :=
  definition.edges.filter fun edge => edge.target = id

/-- The input map of a node whose dependencies have all succeeded, with the
paths under which the worker finds the artifacts. -/
def inputPaths (definition : PipelineDefinition) (path : PipelineEdge → String)
  (id : String) : Dict String String :=
  (incoming definition id).foldl
    (fun inputs edge => inputs.set edge.targetHandle (path edge)) .empty

def inputIndex (interpreter : Python.Interpreter φ) (nodeType handle : String) : Nat :=
  match Python.dynamicVideoInputIndex interpreter nodeType handle with
  | .ok (some index) => index
  | _ => 0

theorem duplicateInputErrorsFrom_once {edges : List PipelineEdge}
  (clean : Python.duplicateInputErrorsFrom definition seen edges = []) :
  (edges.Pairwise fun earlier later => earlier.target = later.target →
    Python.canonicalInput definition earlier ≠ Python.canonicalInput definition later) ∧
  ∀ edge ∈ edges, Python.canonicalInput definition edge ∉
    Python.connectedInputs definition seen edge.target := by
  induction edges generalizing seen with
  | nil => simp
  | cons edge _ ih =>
    rw [Python.duplicateInputErrorsFrom, append_eq_nil_iff] at clean
    obtain ⟨first, rest⟩ := clean
    obtain ⟨once, new⟩ := ih rest
    have fresh : Python.canonicalInput definition edge ∉
      Python.connectedInputs definition seen edge.target := by
      intro known
      simp [known] at first
    refine ⟨pairwise_cons.2 ⟨?_, once⟩, ?_⟩
    · intro other member sameTarget sameInput
      apply new other member
      exact mem_map.2 ⟨edge, mem_filter.2 ⟨by simp, by simpa using sameTarget⟩, sameInput⟩
    · intro other member
      obtain rfl | member := mem_cons.1 member
      · exact fresh
      · intro known
        apply new other member
        obtain ⟨earlier, held, same⟩ := mem_map.1 known
        obtain ⟨held, target⟩ := mem_filter.1 held
        exact mem_map.2 ⟨earlier, mem_filter.2
          ⟨mem_append_left _ held, target⟩, same⟩

section

variable (clean : Python.Clean interpreter registry definition)

include clean

theorem nodup_targetHandle (id : String) :
  ((incoming definition id).map (·.targetHandle)).Nodup := by
  have once := (duplicateInputErrorsFrom_once clean.duplicates).1
  rw [List.Nodup, pairwise_map]
  refine (once.sublist filter_sublist).imp_of_mem ?_
  intro earlier later held member differ same
  have earlierTarget := of_decide_eq_true (mem_filter.1 held).2
  have laterTarget := of_decide_eq_true (mem_filter.1 member).2
  apply differ (earlierTarget.trans laterTarget.symm)
  rw [Python.canonicalInput, Python.canonicalInput, earlierTarget, laterTarget, same]

theorem entries_inputPaths (path : PipelineEdge → String) (id : String) :
  (inputPaths definition path id).entries = (incoming definition id).map fun edge =>
    (edge.targetHandle, path edge) := by
  have fresh : ((Dict.empty : Dict String String).keys ++
    (incoming definition id).map (·.targetHandle)).Nodup :=
    nodup_targetHandle clean id
  exact Dict.entries_foldl (fun _ _ _ _ => rfl) fresh

end

theorem index_le_of_limitError
  (limit : Python.dynamicVideoInputLimitError interpreter nodeType handle = .ok none)
  (found : Python.dynamicVideoInputIndex interpreter nodeType handle =
    .ok (some index)) : index ≤ Python.dynamicVideoInputMaxCount := by
  unfold Python.dynamicVideoInputIndex at found
  unfold Python.dynamicVideoInputLimitError at limit
  split at found
  · cases found
  next dynamic =>
    rw [if_neg dynamic] at limit
    cases matched : Python.matchedIndex interpreter
      (Python.canonicalTargetHandle nodeType handle) with
    | error =>
      rw [matched] at found
      cases found
    | ok =>
      rw [matched] at found limit
      simp only [Except.map, Except.ok.injEq, Option.filter_eq_some_iff] at found
      simp only [Except.map, found.1, Except.ok.injEq,
        Option.map_eq_none_iff, Option.filter_some] at limit
      by_contra beyond
      simp [Nat.lt_of_not_le beyond] at limit

variable {edge : PipelineEdge} {node : PipelineNode} {entries : List (String × String)}

theorem otherHandle_errors {target : PipelineNode}
  (dynamic : target.type ∈ Python.dynamicVideoInputNodeTypes)
  (other : Python.dynamicVideoInputIndex interpreter target.type edge.targetHandle = .ok none) :
  (if Python.isPlannerEdge source target then
    Python.plannerEdgeErrors interpreter edge source target
  else .ok (Python.declaredEdgeErrors interpreter registry edge source target)) ≠ .ok [] := by
  split
  · have plain : target.type ≠ "zip_records" ∧
      target.type ≠ "url_download" ∧ target.type ≠ "source" := by
      generalize target.type = type at dynamic
      revert type
      decide
    simp [Python.plannerEdgeErrors, Python.isPlannerValid, plain, Except.map]
  · have invalid : registry.validateEdge source.type edge.sourceHandle
      target.type edge.targetHandle = false := by
      by_contra valid
      rw [Bool.not_eq_false] at valid
      have declared := handle_of_validateEdge dynamic valid
      obtain ⟨_, matched, least, -⟩ := matchedIndex_timelineInput interpreter declared
      rw [dynamicVideoInputIndex_timelineInput dynamic declared matched least] at other
      cases other
    simp [Python.declaredEdgeErrors, invalid]

theorem dynamicVideoInputIndex_of_clean
  (clean : Python.Clean interpreter registry definition) {id : String}
  (found : (nodesByID definition).get? id = some node)
  (dynamic : node.type ∈ Python.dynamicVideoInputNodeTypes)
  (member : edge ∈ incoming definition id) :
  ∃ index, Python.dynamicVideoInputIndex interpreter node.type
    edge.targetHandle = .ok (some index) ∧
    index ≤ Python.dynamicVideoInputMaxCount := by
  obtain ⟨held, target⟩ := mem_filter.1 member
  have target := of_decide_eq_true target
  have known : edge.source ∈ definition.nodeIDs := by
    have graph := flatMap_eq_nil_iff.1 clean.graph edge held
    by_contra unknown
    simp [unknown] at graph
  obtain ⟨_, sourceFound⟩ := Option.isSome_iff_exists.1 (get?_nodesByID_isSome_iff.2 known)
  have ports := clean.ports edge held
  rw [Python.edgeErrors, sourceFound, target, found] at ports
  obtain ⟨limit, limitRead, ports⟩ := bind_eq_ok ports
  cases limit with
  | some => cases ports
  | none =>
    obtain ⟨index, indexRead, ports⟩ := bind_eq_ok ports
    cases index with
    | some index => exact ⟨index, indexRead, index_le_of_limitError limitRead indexRead⟩
    | none => exact absurd ports (otherHandle_errors dynamic indexRead)

def Survives (interpreter : Python.Interpreter φ)
  (definition : PipelineDefinition) (path : PipelineEdge → String)
  (node : PipelineNode) (selected : List Go.InputItem) : Prop :=
  ∃ edges : List PipelineEdge, edges.Perm (incoming definition node.id) ∧
    selected = edges.map (fun edge => ⟨edge.targetHandle, path edge⟩) ∧
    edges.Pairwise fun earlier later =>
      inputIndex interpreter node.type earlier.targetHandle ≤
        inputIndex interpreter node.type later.targetHandle

/-- Every handle into a node is one both languages read, and no two handles
have the same number. -/
structure Unambiguous (interpreter : Python.Interpreter φ)
  (definition : PipelineDefinition) (node : PipelineNode) : Prop where
  written : ∀ edge ∈ incoming definition node.id, Written node.type edge.targetHandle
  distinct : (incoming definition node.id).Pairwise fun earlier later =>
    inputIndex interpreter node.type earlier.targetHandle ≠
      inputIndex interpreter node.type later.targetHandle

theorem inputIndex_eq (found : Python.dynamicVideoInputIndex interpreter nodeType handle =
    .ok (some index)) : inputIndex interpreter nodeType handle = index := by
  rw [inputIndex, found]

section

variable (clean : Python.Clean interpreter registry definition)
  (found : (nodesByID definition).get? node.id = some node)
  (dynamic : node.type ∈ Python.dynamicVideoInputNodeTypes)

include clean found dynamic

theorem slot_of_clean (member : edge ∈ incoming definition node.id)
  (written : Written node.type edge.targetHandle) :
  Go.slot edge.targetHandle = some (inputIndex interpreter node.type edge.targetHandle : Int) := by
  obtain ⟨_, read, within⟩ := dynamicVideoInputIndex_of_clean clean found dynamic member
  rw [inputIndex_eq read]
  exact slot_of_written written read within

theorem Unambiguous.of_survives (survives : Survives interpreter definition path node
  (Go.selectedVideoInputItems entries)) :
  Unambiguous interpreter definition node := by
  obtain ⟨_, same, selected, -⟩ := survives
  have stored (edge : PipelineEdge) (member : edge ∈ incoming definition node.id) :=
    Go.mem_selectedVideoInputItems (selected ▸ mem_map.2 ⟨edge, same.mem_iff.2 member, rfl⟩)
  have written (edge : PipelineEdge) (member : edge ∈ incoming definition node.id) :
    Written node.type edge.targetHandle := by
    obtain ⟨_, read, -⟩ := dynamicVideoInputIndex_of_clean clean found dynamic member
    obtain ⟨_, -, slot⟩ := stored edge member
    exact written_of_slot slot read
  refine ⟨written, ?_⟩
  have handles := nodup_targetHandle clean node.id
  rw [List.Nodup, pairwise_map] at handles
  refine handles.imp_of_mem ?_
  intro earlier later held member differ collide
  -- the map holds one item for an index
  obtain ⟨_, earlierRead, earlierSlot⟩ := stored earlier held
  obtain ⟨_, laterRead, laterSlot⟩ := stored later member
  rw [slot_of_clean clean found dynamic held (written earlier held)] at earlierSlot
  rw [slot_of_clean clean found dynamic member (written later member)] at laterSlot
  cases earlierSlot
  cases laterSlot
  rw [collide, laterRead] at earlierRead
  exact differ (congrArg Go.InputItem.handle (Option.some.inj earlierRead)).symm

end

theorem exists_sorted {ρ : Type} (index : ρ → Nat) (rows : List ρ) :
  ∃ sorted : List ρ, sorted.Perm rows ∧
    sorted.Pairwise fun earlier later => index earlier ≤ index later := by
  have trans : IsTrans ρ fun earlier later => index earlier ≤ index later :=
    ⟨fun _ _ _ => Nat.le_trans⟩
  have total : Std.Total fun earlier later => index earlier ≤ index later :=
    ⟨fun _ _ => Nat.le_total _ _⟩
  exact ⟨_, perm_insertionSort _ rows, pairwise_insertionSort _ rows⟩

theorem Unambiguous.survives (clean : Python.Clean interpreter registry definition)
  (found : (nodesByID definition).get? node.id = some node)
  (dynamic : node.type ∈ Python.dynamicVideoInputNodeTypes)
  (ranged : entries.Perm (inputPaths definition path node.id).entries)
  (unambiguous : Unambiguous interpreter definition node) :
  Survives interpreter definition path node (Go.selectedVideoInputItems entries) := by
  rw [entries_inputPaths clean] at ranged
  obtain ⟨edges, same, ordered⟩ := exists_sorted
    (fun edge => inputIndex interpreter node.type edge.targetHandle)
    (incoming definition node.id)
  have stored : ∀ entry ∈ entries, Go.slot entry.1 =
    some (inputIndex interpreter node.type entry.1 : Int) := by
    intro entry member
    obtain ⟨edge, held, rfl⟩ := mem_map.1 (ranged.mem_iff.1 member)
    exact slot_of_clean clean found dynamic held (unambiguous.written edge held)
  have distinct : (entries.map fun entry =>
    (inputIndex interpreter node.type entry.1 : Int)).Nodup := by
    refine (ranged.map _).nodup_iff.2 ?_
    rw [map_map, List.Nodup, pairwise_map]
    exact unambiguous.distinct.imp fun differ collide =>
      differ (Int.ofNat_inj.1 collide)
  have sorted : (edges.map fun edge => (edge.targetHandle, path edge)).Pairwise fun earlier later =>
    (inputIndex interpreter node.type earlier.1 : Int) ≤
      inputIndex interpreter node.type later.1 := by
    rw [pairwise_map]
    exact ordered.imp fun le => Int.ofNat_le.2 le
  have selected := Go.selectedVideoInputItems_eq
    (fun entry => (inputIndex interpreter node.type entry.1 : Int))
    stored distinct ((same.map _).trans ranged.symm) sorted
  rw [map_map] at selected
  exact ⟨edges, same, selected, ordered⟩

end

/-- A node with dynamic video inputs of an accepted definition hands its worker
one item for every incoming edge, in their order, just where its handles are
unambiguous, in whatever order the map is ranged over. -/
theorem survives_iff_unambiguous {φ : Type}
  (interpreter : Python.Interpreter φ) (registry : Registry φ)
  (definition : PipelineDefinition)
  (accepted : Python.Accepts interpreter registry definition)
  (node : PipelineNode)
  (found : (nodesByID definition).get? node.id = some node)
  (dynamic : node.type ∈ Python.dynamicVideoInputNodeTypes)
  (path : PipelineEdge → String) (entries : List (String × String))
  (ranged : entries.Perm (inputPaths definition path node.id).entries) :
  Survives interpreter definition path node (Go.selectedVideoInputItems entries) ↔
    Unambiguous interpreter definition node := by
  have clean := accepts_iff_clean.1 accepted
  exact ⟨Unambiguous.of_survives clean found dynamic,
    Unambiguous.survives clean found dynamic ranged⟩

def joinNode : PipelineNode := ⟨"join", "concat_many", ⟨"Join", .empty, none⟩⟩

def concatOf (first second : String) : PipelineDefinition where
  nodes := [
    ⟨"clip", "source", ⟨"Clip", Dict.empty.set "asset_id" (.str "asset"), none⟩⟩,
    joinNode]
  edges := [⟨"left", "clip", "join", "output", first⟩, ⟨"right", "clip", "join", "output", second⟩]

/-- `video_1` and `video_01` are two inputs to Python and one to Go. -/
theorem padded_input_lost : Python.Accepts asciiInterpreter builtinRegistry
  (concatOf "video_1" "video_01") ∧
  (Go.selectedVideoInputItems (inputPaths (concatOf "video_1" "video_01")
    PipelineEdge.id "join").entries) = [⟨"video_01", "right"⟩] ∧
  ¬ Survives asciiInterpreter (concatOf "video_1" "video_01") PipelineEdge.id joinNode
    (Go.selectedVideoInputItems (inputPaths (concatOf "video_1" "video_01")
      PipelineEdge.id "join").entries) := by
  have selected : Go.selectedVideoInputItems
    (inputPaths (concatOf "video_1" "video_01") PipelineEdge.id
      "join").entries = [⟨"video_01", "right"⟩] := by
    decide +kernel
  refine ⟨accepts_iff_valid.2 (by decide +kernel), selected, ?_⟩
  rw [selected]
  rintro ⟨_, same, items, -⟩
  have lengths := congrArg length items
  rw [length_map, same.length_eq] at lengths
  revert lengths
  decide +kernel

theorem swapped_inputs_unambiguous :
  Unambiguous asciiInterpreter (concatOf "video_2" "video_1") joinNode :=
  (survives_iff_unambiguous asciiInterpreter builtinRegistry
    (concatOf "video_2" "video_1") (accepts_iff_valid.2 (by decide +kernel))
    joinNode (by decide +kernel) (by decide +kernel) PipelineEdge.id
    (inputPaths (concatOf "video_2" "video_1") PipelineEdge.id "join").entries
    (List.Perm.refl _)).1 ⟨[⟨"right", "clip", "join", "output", "video_1"⟩,
      ⟨"left", "clip", "join", "output", "video_2"⟩],
      List.Perm.swap _ _ _, by decide +kernel, by decide +kernel⟩

end VideoProcess.Validation
