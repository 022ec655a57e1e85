import VideoProcess.ChannelOps.Queue

namespace VideoProcess.ChannelOps

open Data GoText

/-! The runner resolves the channel of a claimed item once more. -/

inductive AuthorityCause where
  | invalid (error : UUIDError)
  | missingRow
deriving DecidableEq, Repr

structure QueueAuthorityError where
  kind : QueueKind
  id : Uuid
  cause : AuthorityCause
deriving DecidableEq, Repr

section

variable (item : QueueItemRow)

def queueAuthorityError (cause : AuthorityCause) :
  Except QueueAuthorityError (Option Uuid) := .error ⟨item.kind, item.id, cause⟩

def scanChannel (row : Option Uuid) : Except QueueAuthorityError (Option Uuid) :=
  match row with
  | none => queueAuthorityError item .missingRow
  | some channel => .ok (some channel)

def resolveReference (field : String) (find : Uuid → Option Uuid) (value : List Char) :
  Except QueueAuthorityError (Option Uuid) :=
  match requireUUID field value with
  | .error error => queueAuthorityError item (.invalid error)
  | .ok () => scanChannel item (find (uuidValue value))

end

def resolveQueueAuthority (round : Rounding) (directory : Directory)
  (item : QueueItemRow) : Except QueueAuthorityError (Option Uuid) :=
  let field (key : String) := firstString round item.payloadJSON [key]
  match item.kind with
  | .planTask | .executeTask | .observeJob | .publishTask =>
    resolveReference item "production_task_id" directory.taskChannel (field "production_task_id")
  | .promotePublication | .reconcilePublication | .collectMetrics =>
    resolveReference item "publication_id" directory.publicationChannel (field "publication_id")
  | .accountHealth =>
    resolveReference item "account_id" directory.accountChannel (field "account_id")
  | .agentTick | .learningRecompute | .ingestDiscovery =>
    resolveReference item "channel_id" directory.channel (field "channel_id")
  | .sendAlert =>
    if field "channel_id" = [] then
      match item.channelProfileID with
      | none => .ok none
      -- A stored id is a UUID already.
      | some stored => scanChannel item (directory.channel stored)
    else
      resolveReference item "channel_id" directory.channel (field "channel_id")
  | .cleanupExpired => .ok none

structure Agrees (authority : QueueAuthority)
  (resolved : Except QueueAuthorityError (Option Uuid)) : Prop where
  isGlobal : authority.isGlobal = true ↔ resolved = .ok none
  channel : ∀ channel, authority.channel = some channel ↔ resolved = .ok (some channel)
  unresolved : authority.channel = none ∧ authority.isGlobal = false ↔
    ∃ error, resolved = .error error

/-- The field names an existing row, but with space around the id. -/
def Padded (find : Uuid → Option Uuid) (value : Json) : Prop :=
  ∃ text, value = .string text ∧ trimSpace text.toList ≠ text.toList ∧
    ((castUUID (trimSpace text.toList)).bind find).isSome = true

/-- The runner takes the field for absent, the claim query does not. -/
def Unseen (value : Json) : Prop :=
  ∃ text, value = .string text ∧
    trimSpace text.toList ∈ [[], "<nil>".toList] ∧ btrim text.toList ≠ []

def Misread (directory : Directory) (item : QueueItemRow) : Prop :=
  let field (key : String) := item.payloadJSON.getD key .null
  match item.kind with
  | .planTask | .executeTask | .observeJob | .publishTask =>
    Padded directory.taskChannel (field "production_task_id")
  | .promotePublication | .reconcilePublication | .collectMetrics =>
    Padded directory.publicationChannel (field "publication_id")
  | .accountHealth => Padded directory.accountChannel (field "account_id")
  | .agentTick | .learningRecompute | .ingestDiscovery =>
    Padded directory.channel (field "channel_id")
  | .sendAlert =>
    Padded directory.channel (field "channel_id") ∨ Unseen (field "channel_id") ∧ ∀ stored,
      item.channelProfileID = some stored → (directory.channel stored).isSome = true
  | .cleanupExpired => False

variable {text : List Char} {char : Char} {item : QueueItemRow}

theorem hexGroup_eq_true (group : hexGroup size text = true) (member : char ∈ text) :
  (hexDigit? char).isSome = true := by
  simp only [hexGroup, Bool.and_eq_true, List.all_eq_true] at group
  exact group.2 char member

theorem hexGroups_cons (groups : hexGroups (size :: next :: sizes) text = true) :
  ∃ group rest, text = group ++ '-' :: rest ∧ hexGroup size group = true ∧
    hexGroups (next :: sizes) rest = true := by
  simp only [hexGroups, Bool.and_eq_true] at groups
  obtain ⟨group, rest⟩ := groups
  split at rest
  next tail dropped =>
    refine ⟨text.take size, tail, ?_, group, rest⟩
    rw [← dropped, List.take_append_drop]
  · cases rest

theorem solid_of_hexGroups (groups : hexGroups sizes text = true) :
  ∀ char ∈ text, (hexDigit? char).isSome = true ∨ char = '-' := by
  induction sizes generalizing text with
  | nil => cases groups
  | cons _ sizes ih =>
    cases sizes with
    | nil => exact fun char member => .inl (hexGroup_eq_true groups member)
    | cons =>
      obtain ⟨_, _, rfl, hex, groups⟩ := hexGroups_cons groups
      intro char member
      rcases List.mem_append.1 member with first | later
      · exact .inl (hexGroup_eq_true hex first)
      · rcases List.mem_cons.1 later with rfl | later
        · exact .inr rfl
        · exact ih groups char later

theorem count_dash_of_hexGroups (groups : hexGroups sizes text = true) :
  sizes.length ≤ text.count '-' + 1 := by
  induction sizes generalizing text with
  | nil => exact Nat.zero_le _
  | cons _ sizes ih =>
    cases sizes with
    | nil => exact Nat.le_add_left 1 _
    | cons =>
      obtain ⟨_, _, rfl, -, groups⟩ := hexGroups_cons groups
      have counted := ih groups
      rw [List.count_append, List.count_cons_self, List.length_cons]
      omega

theorem toNat_of_hexDigit (hex : (hexDigit? char).isSome = true) :
  (48 ≤ char.toNat ∧ char.toNat ≤ 57) ∨ (65 ≤ char.toNat ∧ char.toNat ≤ 70) ∨
    (97 ≤ char.toNat ∧ char.toNat ≤ 102) := by
  unfold hexDigit? at hex
  simp only [Char.le_def, UInt32.le_iff_toNat_le] at hex
  split at hex
  · exact .inl ‹_›
  · split at hex
    · exact .inr (.inr ‹_›)
    · split at hex
      · exact .inr (.inl ‹_›)
      · cases hex

theorem isSpace_of_hexDigit (hex : (hexDigit? char).isSome = true ∨ char = '-') :
  isSpace char = false := by
  rcases hex with hex | rfl
  · have range := toNat_of_hexDigit hex
    simp only [isSpace, List.mem_cons, List.not_mem_nil, decide_eq_false_iff_not, or_false]
    omega
  · decide

theorem castUUID_eq_some {id : Uuid} (cast : castUUID text = some id) :
  uuidPattern text = true ∧ uuidValue text = id := by
  unfold castUUID at cast
  split at cast
  · exact ⟨‹_›, Option.some.inj cast⟩
  · cases cast

theorem trimSpace_of_uuidPattern (pattern : uuidPattern text = true) : trimSpace text = text :=
  trim_eq_self fun char member =>
    isSpace_of_hexDigit (solid_of_hexGroups pattern char member)

def Foreign (text : List Char) : Prop :=
  ∃ first rest, text = first :: rest ∧ isSpace first = false ∧
    first ≠ '<' ∧ (text.count '-' < 4 ∨ hexDigit? first = none ∧ first ≠ '-')

theorem Foreign.trim {text : List Char} (foreign : Foreign text)
  {blank : Char → Bool} (narrow : ∀ char, blank char = true → isSpace char = true) :
  Data.trim blank text ≠ [] ∧ Data.trim blank text ≠ "<nil>".toList ∧
    castUUID (Data.trim blank text) = none := by
  obtain ⟨first, rest, rfl, solid, opened, alien⟩ := foreign
  have shown : blank first = false := by
    by_contra hidden
    rw [narrow first (by simpa using hidden)] at solid
    cases solid
  obtain ⟨_, trimmed⟩ := @trim_cons_of_not_blank _ blank rest first shown
  refine ⟨by simp [trimmed], ?_, ?_⟩
  · rw [trimmed]
    intro same
    exact opened (List.cons.inj same).1
  · rw [Option.eq_none_iff_forall_ne_some]
    intro id cast
    have pattern := (castUUID_eq_some cast).1
    rcases alien with _ | ⟨plain, dashless⟩
    · have counted := count_dash_of_hexGroups pattern
      have fewer := (trim_sublist blank (first :: rest)).count_le '-'
      simp only [List.length_cons, List.length_nil] at counted
      omega
    · have member : first ∈ Data.trim blank (first :: rest) := by
        rw [trimmed]
        exact List.mem_cons_self
      rcases solid_of_hexGroups pattern first member with hex | dash
      · rw [plain] at hex
        cases hex
      · exact dashless dash

theorem isSpace_of_isNumeric (numeric : isNumeric char = true) : isSpace char = false := by
  simp only [isNumeric, Bool.or_eq_true, decide_eq_true_eq, List.mem_cons,
    List.not_mem_nil, or_false] at numeric
  rcases numeric with digit | rfl | rfl | rfl | rfl
  · simp only [Char.isDigit, Bool.and_eq_true, decide_eq_true_eq, ge_iff_le,
      UInt32.le_iff_toNat_le] at digit
    have range : 48 ≤ char.toNat ∧ char.toNat ≤ 57 := digit
    simp only [isSpace, List.mem_cons, List.not_mem_nil, decide_eq_false_iff_not, or_false]
    omega
  all_goals decide

theorem Foreign.of_numeric (filled : text ≠ []) (numeric : ∀ char ∈ text, isNumeric char = true)
  (few : text.count '-' ≤ 2) : Foreign text := by
  cases text with
  | nil => exact absurd rfl filled
  | cons first rest =>
    have shape := numeric first List.mem_cons_self
    refine ⟨first, rest, rfl, isSpace_of_isNumeric shape, ?_, .inl (by omega)⟩
    rintro rfl
    revert shape
    decide

theorem Foreign.of_head {rest : List Char} (solid : isSpace first = false) (opened : first ≠ '<')
  (plain : hexDigit? first = none) (dashless : first ≠ '-') :
  Foreign (first :: rest) := ⟨first, rest, rfl, solid, opened, .inr ⟨plain, dashless⟩⟩

namespace Decimal

theorem isNumeric_zeros (member : char ∈ List.replicate count '0') : isNumeric char = true := by
  rw [List.eq_of_mem_replicate member]
  decide

variable {value : Decimal}

theorem isNumeric_exponentForm (member : char ∈ value.exponentForm) : isNumeric char = true := by
  simp only [exponentForm, List.mem_append, List.mem_cons] at member
  rcases member with (digits | rest) | rfl | sign | power
  · exact isNumeric_of_isDigit (isDigit_digitsText digits)
  · split at rest
    · cases rest
    · rcases List.mem_cons.1 rest with rfl | digits
      · decide
      · exact isNumeric_of_isDigit (isDigit_digitsText digits)
  · decide
  · rw [sign]
    split <;> decide
  · split at power
    · rcases List.mem_cons.1 power with rfl | digits
      · decide
      · exact isNumeric_of_isDigit (isDigit_natText digits)
    · exact isNumeric_of_isDigit (isDigit_natText power)

theorem isNumeric_plainForm (member : char ∈ value.plainForm) : isNumeric char = true := by
  simp only [plainForm, List.mem_append] at member
  rcases member with whole | fraction
  · split at whole
    · rw [List.mem_singleton.1 whole]
      decide
    · rcases List.mem_append.1 whole with digits | zeros
      · exact isNumeric_of_isDigit (isDigit_digitsText digits)
      · exact isNumeric_zeros zeros
  · split at fraction
    · cases fraction
    · simp only [List.cons_append, List.mem_cons, List.mem_append] at fraction
      rcases fraction with rfl | zeros | digits
      · decide
      · exact isNumeric_zeros zeros
      · exact isNumeric_of_isDigit (isDigit_digitsText digits)

theorem count_dash_zeros (count : Nat) : (List.replicate count '0').count '-' = 0 := by
  rw [List.count_eq_zero]
  exact fun member => absurd (List.eq_of_mem_replicate member) (by decide)

variable (value : Decimal)

theorem count_dash_exponentForm : value.exponentForm.count '-' ≤ 1 := by
  have fraction : (if value.digits.length ≤ 1 then []
    else '.' :: digitsText (value.digits.drop 1)).count '-' = 0 := by
    split <;> simp
  have power (text : List Char) (plain : text.count '-' = 0) :
    (if text.length < 2 then '0' :: text else text).count '-' = 0 := by
    split <;> simp [plain]
  simp only [exponentForm, List.count_append, count_dash_digitsText, fraction,
    List.count_cons, power _ (count_dash_natText _)]
  split <;> decide

theorem count_dash_plainForm : value.plainForm.count '-' = 0 := by
  simp only [plainForm, List.count_append]
  have whole : (if value.point.toNat = 0 then ['0']
    else digitsText (value.digits.take value.point.toNat) ++
      List.replicate (value.point.toNat - value.digits.length) '0').count
      '-' = 0 := by
    split <;> simp [count_dash_zeros]
  have fraction : (if value.digits.length ≤ value.point.toNat then []
    else '.' :: List.replicate (-value.point).toNat '0' ++
      digitsText (value.digits.drop value.point.toNat)).count '-' = 0 := by
    split <;> simp [count_dash_zeros]
  omega

theorem plainForm_ne_nil : value.plainForm ≠ [] := by
  intro empty
  have whole := (List.append_eq_nil_iff.1 empty).1
  split at whole
  · cases whole
  · have lengths := congrArg List.length whole
    simp only [digitsText, List.length_append, List.length_map,
      List.length_take, List.length_replicate, List.length_nil] at lengths
    omega

theorem foreign_signed {negative : Bool} {body : List Char}
  (filled : body ≠ []) (numeric : ∀ char ∈ body, isNumeric char = true)
  (few : body.count '-' ≤ 1) : Foreign (signText negative ++ body) := by
  have sign := count_dash_signText negative
  apply Foreign.of_numeric
  · simp [filled]
  · intro char member
    rcases List.mem_append.1 member with signed | printed
    · exact isNumeric_signText signed
    · exact numeric char printed
  · rw [List.count_append]
    omega

theorem foreign_text : Foreign value.text := by
  simp only [text]
  split
  · exact foreign_signed (by simp [exponentForm])
      (fun _ => isNumeric_exponentForm) value.count_dash_exponentForm
  · exact foreign_signed value.plainForm_ne_nil
      (fun _ => isNumeric_plainForm) (by simp [count_dash_plainForm])

end Decimal

def Json.IsOther : Json → Prop
  | .null => False
  | .string _ => False
  | _ => True

theorem foreign_true : Foreign "true".toList := ⟨'t', "rue".toList, by decide⟩

theorem foreign_false : Foreign "false".toList := ⟨'f', "alse".toList, by decide⟩

theorem foreign_sprint (round : Rounding) (other : Json.IsOther value) :
  Foreign (sprint round value) := by
  cases value with
  | null | string => exact other.elim
  | bool value =>
    cases value with
    | false => exact foreign_false
    | true => exact foreign_true
  | number value => exact (round value).foreign_text
  | array => exact .of_head rfl (by decide) rfl (by decide)
  | object => exact @Foreign.of_head 'm' _ rfl (by decide) rfl (by decide)

theorem foreign_text (other : Json.IsOther value) : Foreign value.text := by
  cases value with
  | null | string => exact other.elim
  | bool value =>
    cases value with
    | false => exact foreign_false
    | true => exact foreign_true
  | number value =>
    exact .of_numeric value.text_ne_nil (fun _ => Number.isNumeric_text) value.count_dash_text
  | array | object => exact .of_head rfl (by decide) rfl (by decide)

section

variable {round : Rounding}

theorem firstString_null (null : payload.getD key .null = .null) :
  firstString round payload [key] = [] := by
  simp only [firstString, null, sprint_null]
  exact if_neg (by decide)

variable {text : String}

theorem firstString_string (string : payload.getD key .null = .string text) :
  firstString round payload [key] = if trimSpace text.toList ∈ [[], "<nil>".toList] then []
    else trimSpace text.toList := by
  simp [firstString, string, sprint_string, ← not_or, ite_not]

theorem firstString_other (other : Json.IsOther (payload.getD key .null)) :
  firstString round payload [key] ≠ [] ∧ castUUID (firstString round payload [key]) = none := by
  have reading := (foreign_sprint round other).trim fun _ space => space
  simp only [firstString]
  rw [if_pos ⟨reading.1, reading.2.1⟩]
  exact ⟨reading.1, reading.2.2⟩

theorem fieldText_null (null : payload.getD key .null = .null) : fieldText payload key = none := by
  simp [fieldText, null]

theorem fieldText_string (string : payload.getD key .null = .string text) :
  fieldText payload key = some text.toList := by
  simp [fieldText, string]

theorem fieldText_other (other : Json.IsOther (payload.getD key .null)) :
  ∃ text, fieldText payload key = some text ∧ Foreign text := by
  refine ⟨_, ?_, foreign_text other⟩
  unfold fieldText
  cases value : payload.getD key .null with
  | null | string =>
    rw [value] at other
    exact False.elim other
  | bool _ | number _ | array _ | object _ => rfl

variable {text : List Char}

theorem castUUID_of_foreign (foreign : Foreign text) : castUUID text = none := by
  have reading := @Foreign.trim text foreign (fun _ => false) fun _ space => by
    cases space
  rw [trim_eq_self fun _ _ => rfl] at reading
  exact reading.2.2

theorem castUUID_eq_none_of_trimSpace (padded : trimSpace text ≠ text) : castUUID text = none := by
  rw [Option.eq_none_iff_forall_ne_some]
  intro id cast
  exact padded (trimSpace_of_uuidPattern (castUUID_eq_some cast).1)

theorem castUUID_of_blank (blank : text ∈ [[], "<nil>".toList]) : castUUID text = none := by
  simp only [List.mem_cons, List.not_mem_nil, or_false] at blank
  rcases blank with rfl | rfl <;> decide

theorem reads_same_iff (find : Uuid → Option Uuid) :
  ((fieldText payload key).bind castUUID).bind find =
    (castUUID (firstString round payload [key])).bind find ↔
    ¬ Padded find (payload.getD key .null) := by
  cases value : payload.getD key .null with
  | null =>
    rw [fieldText_null value, firstString_null value]
    simp [Padded, castUUID_of_blank]
  | string text =>
    have read : castUUID (firstString round payload [key]) = castUUID (trimSpace text.toList) := by
      rw [firstString_string value]
      split
      next blank =>
        rw [castUUID_of_blank blank]
        rfl
      · rfl
    rw [fieldText_string value, read, Option.bind_some]
    by_cases padded : trimSpace text.toList = text.toList
    · simp [Padded, padded]
    · have found : Padded find (.string text) ↔
        ((castUUID (trimSpace text.toList)).bind find).isSome = true := by
        constructor
        · rintro ⟨_, same, -, found⟩
          cases same
          exact found
        · exact fun found => ⟨text, rfl, padded, found⟩
      rw [castUUID_eq_none_of_trimSpace padded, found, Option.bind_none,
        Bool.not_eq_true, Option.isSome_eq_false_iff,
        Option.isNone_iff_eq_none]
      exact eq_comm
  | bool _ | number _ | array _ | object _ =>
    have other : Json.IsOther (payload.getD key .null) := by
      rw [value]
      trivial
    obtain ⟨_, stored, foreign⟩ := fieldText_other other
    rw [stored, (firstString_other other).2]
    simp [Padded, castUUID_of_foreign foreign]

end

theorem agrees_scanChannel_iff :
  Agrees ⟨channel, false⟩ (scanChannel item row) ↔ channel = row := by
  cases row with
  | none =>
    constructor
    · exact fun agrees => (agrees.unresolved.2 ⟨_, rfl⟩).1
    · rintro rfl
      exact ⟨by simp [scanChannel, queueAuthorityError], by simp [scanChannel, queueAuthorityError],
        by simp [scanChannel, queueAuthorityError]⟩
  | some found =>
    constructor
    · exact fun agrees => (agrees.channel found).2 rfl
    · rintro rfl
      exact ⟨by simp [scanChannel], by simp [scanChannel], by simp [scanChannel]⟩

theorem agrees_error_iff : Agrees ⟨channel, false⟩ (queueAuthorityError item cause) ↔
  channel = none := by
  constructor
  · exact fun agrees => (agrees.unresolved.2 ⟨_, rfl⟩).1
  · rintro rfl
    exact ⟨by simp [queueAuthorityError], by simp [queueAuthorityError],
      by simp [queueAuthorityError]⟩

theorem agrees_resolveReference_iff :
  Agrees ⟨channel, false⟩ (resolveReference item field find value) ↔
    channel = (castUUID value).bind find := by
  unfold resolveReference requireUUID castUUID
  by_cases empty : value = []
  · subst empty
    exact agrees_error_iff
  · by_cases pattern : uuidPattern value = true
    · simpa [empty, pattern] using agrees_scanChannel_iff
    · simpa [empty, pattern] using agrees_error_iff

section

variable {round : Rounding} {directory : Directory} {item : QueueItemRow}

def resolveStored (directory : Directory) (item : QueueItemRow) :
  Except QueueAuthorityError (Option Uuid) :=
  match item.channelProfileID with
  | none => .ok none
  | some stored => scanChannel item (directory.channel stored)

theorem agrees_resolveStored : Agrees ⟨item.channelProfileID.bind directory.channel,
  item.channelProfileID.isNone⟩ (resolveStored directory item) := by
  unfold resolveStored
  cases item.channelProfileID with
  | none => exact ⟨by simp, by simp, by simp⟩
  | some => exact agrees_scanChannel_iff.2 rfl

theorem agrees_none_resolveStored_iff : Agrees ⟨none, false⟩ (resolveStored directory item) ↔
  ¬ ∀ stored, item.channelProfileID = some stored → (directory.channel stored).isSome = true := by
  unfold resolveStored
  cases item.channelProfileID with
  | none =>
    constructor
    · intro agrees
      exact absurd (agrees.isGlobal.2 rfl) (by decide)
    · intro named
      exact absurd (fun stored same => by cases same) named
  | some stored =>
    rw [agrees_scanChannel_iff]
    constructor
    · intro missing all
      have found := all stored rfl
      rw [← missing] at found
      cases found
    · intro named
      cases found : directory.channel stored with
      | none => rfl
      | some =>
        refine absurd (fun other same => ?_) named
        cases same
        rw [found]
        rfl

variable {text : List Char}

theorem btrim_eq_nil_of_blank (blank : btrim text = []) : trimSpace text = [] := by
  rw [trimSpace, trim_eq_nil_iff]
  intro char member
  have space := trim_eq_nil_iff.1 blank char member
  rw [of_decide_eq_true space]
  decide

def payloadSilent (payload : Payload) : Prop :=
  ((fieldText payload "channel_id").map btrim).filter (· ≠ []) = none

instance (payload : Payload) : Decidable (payloadSilent payload) :=
  inferInstanceAs (Decidable (_ = _))

theorem payloadSilent_iff (read : fieldText payload "channel_id" = some text) :
  payloadSilent payload ↔ btrim text = [] := by
  unfold payloadSilent
  by_cases blank : btrim text = [] <;> simp [read, Option.filter, blank]

section

variable (alert : item.kind = .sendAlert)

include alert

theorem queueAuthority_sendAlert : queueAuthority directory item =
  if payloadSilent item.payloadJSON then
    ⟨item.channelProfileID.bind directory.channel, item.channelProfileID.isNone⟩
  else ⟨((fieldText item.payloadJSON "channel_id").bind castUUID).bind
    directory.channel, false⟩ := by
  simp only [queueAuthority, alert]
  rfl

theorem resolveQueueAuthority_sendAlert : resolveQueueAuthority round directory item =
  if firstString round item.payloadJSON ["channel_id"] = [] then
    resolveStored directory item
  else resolveReference item "channel_id" directory.channel
    (firstString round item.payloadJSON ["channel_id"]) := by
  simp only [resolveQueueAuthority, alert]
  rfl

theorem agrees_sendAlert_of_named (named : ¬ payloadSilent item.payloadJSON)
  (shown : firstString round item.payloadJSON ["channel_id"] ≠ []) :
  Agrees (queueAuthority directory item) (resolveQueueAuthority round directory item) ↔
    ¬ Padded directory.channel (item.payloadJSON.getD "channel_id" .null) := by
  rw [queueAuthority_sendAlert alert, resolveQueueAuthority_sendAlert alert,
    if_neg named, if_neg shown, agrees_resolveReference_iff]
  exact reads_same_iff _

theorem agrees_sendAlert_of_silent (silent : payloadSilent item.payloadJSON)
  (blank : firstString round item.payloadJSON ["channel_id"] = []) :
  Agrees (queueAuthority directory item) (resolveQueueAuthority round directory item) := by
  rw [queueAuthority_sendAlert alert, resolveQueueAuthority_sendAlert alert,
    if_pos silent, if_pos blank]
  exact agrees_resolveStored

end

theorem castUUID_of_trimSpace_blank
  (blank : trimSpace text ∈ [[], "<nil>".toList]) : castUUID text = none := by
  by_cases same : trimSpace text = text
  · rw [same] at blank
    exact castUUID_of_blank blank
  · exact castUUID_eq_none_of_trimSpace same

variable {text : String}

theorem agrees_sendAlert_of_unseen (alert : item.kind = .sendAlert)
  (string : item.payloadJSON.getD "channel_id" .null = .string text)
  (blank : trimSpace text.toList ∈ [[], "<nil>".toList])
  (named : btrim text.toList ≠ []) :
  Agrees (queueAuthority directory item) (resolveQueueAuthority round directory item) ↔
    ¬ ∀ stored, item.channelProfileID = some stored → (directory.channel stored).isSome = true := by
  have read := fieldText_string string
  rw [queueAuthority_sendAlert alert, resolveQueueAuthority_sendAlert alert,
    if_neg fun silent => named ((payloadSilent_iff read).1 silent),
    firstString_string string, if_pos blank, if_pos rfl, read,
    Option.bind_some, castUUID_of_trimSpace_blank blank]
  exact agrees_none_resolveStored_iff

theorem not_padded_of_blank (blank : trimSpace text.toList ∈ [[], "<nil>".toList]) :
  ¬ Padded find (.string text) := by
  rintro ⟨_, same, -, found⟩
  cases same
  rw [castUUID_of_blank blank] at found
  cases found

theorem unseen_string_iff : Unseen (.string text) ↔
  trimSpace text.toList ∈ [[], "<nil>".toList] ∧ btrim text.toList ≠ [] := by
  constructor
  · rintro ⟨_, same, unseen⟩
    cases same
    exact unseen
  · exact fun unseen => ⟨text, rfl, unseen⟩

theorem agrees_sendAlert_iff (alert : item.kind = .sendAlert) :
  Agrees (queueAuthority directory item) (resolveQueueAuthority round directory item) ↔
    ¬ Misread directory item := by
  simp only [Misread, alert]
  cases value : item.payloadJSON.getD "channel_id" .null with
  | null =>
    have silent : payloadSilent item.payloadJSON := by simp [payloadSilent, fieldText_null value]
    simpa [Padded, Unseen] using agrees_sendAlert_of_silent alert silent (firstString_null value)
  | string text =>
    have read := payloadSilent_iff (fieldText_string value)
    have shown := @firstString_string round _ _ _ value
    rw [unseen_string_iff]
    by_cases blank : trimSpace text.toList ∈ [[], "<nil>".toList]
    · rw [if_pos blank] at shown
      by_cases silent : btrim text.toList = []
      · simpa [not_padded_of_blank blank, silent] using
          agrees_sendAlert_of_silent alert (read.2 silent) shown
      · rw [agrees_sendAlert_of_unseen alert value blank silent]
        simp only [not_padded_of_blank blank, blank, silent, false_or,
          true_and, ne_eq, not_false_eq_true]
    · rw [if_neg blank] at shown
      have named : ¬ payloadSilent item.payloadJSON := fun silent =>
        blank (by rw [btrim_eq_nil_of_blank (read.1 silent)]; decide)
      have solid : firstString round item.payloadJSON ["channel_id"] ≠ [] := by
        rw [shown]
        exact fun empty => blank (by rw [empty]; decide)
      rw [agrees_sendAlert_of_named alert named solid, value]
      simp only [blank, false_and, or_false]
  | bool _ | number _ | array _ | object _ =>
    have other : Json.IsOther (item.payloadJSON.getD "channel_id" .null) := by
      rw [value]
      trivial
    obtain ⟨stored, read, foreign⟩ := fieldText_other other
    have shown : btrim stored ≠ [] :=
      (foreign.trim fun char space => by
        rw [of_decide_eq_true space]
        decide).1
    rw [agrees_sendAlert_of_named alert (fun silent => shown ((payloadSilent_iff read).1 silent))
      (firstString_other other).1, value]
    simp [Padded, Unseen]

end

/-- The claim query and the runner agree on the authority of an item exactly
where neither misreads its payload. -/
theorem queueAuthority_agrees_iff (round : Rounding) (directory : Directory) (item : QueueItemRow) :
  Agrees (queueAuthority directory item) (resolveQueueAuthority round directory item) ↔
    ¬ Misread directory item := by
  cases kind : item.kind with
  | sendAlert => exact agrees_sendAlert_iff kind
  | cleanupExpired =>
    simp only [queueAuthority, resolveQueueAuthority, Misread, kind]
    exact ⟨fun _ => not_false, fun _ => ⟨by simp, by simp, by simp⟩⟩
  | planTask | executeTask | observeJob | publishTask | promotePublication
  | reconcilePublication | collectMetrics | accountHealth | agentTick
  | learningRecompute | ingestDiscovery =>
    simp only [queueAuthority, resolveQueueAuthority, Misread, kind]
    rw [agrees_resolveReference_iff]
    exact reads_same_iff _

def paddedDirectory : Directory where
  channels := .empty
  tasks := ⟨[⟨1, 7⟩], by simp⟩
  publications := .empty
  accounts := .empty

def paddedItem : QueueItemRow where
  id := 2
  kind := .planTask
  idempotencyKey := "plan_task"
  payloadJSON := Dict.empty.set "production_task_id"
    (.string " 00000000-0000-0000-0000-000000000001")
  status := .queued
  priority := 0
  attemptCount := 0
  maxAttempts := 3
  runAfter := 0
  createdAt := 0
  lockedAt := none
  lockedBy := none
  lastError := none
  deadLetterAt := none
  channelProfileID := some 7
  parentQueueItemID := none

/-- The claim query finds no channel, the runner finds channel 7. -/
theorem padded_reference_disagrees : queueAuthority paddedDirectory paddedItem = ⟨none, false⟩ ∧
  ∀ round : Rounding, resolveQueueAuthority round paddedDirectory paddedItem = .ok (some 7) ∧
    ¬ Agrees (queueAuthority paddedDirectory paddedItem)
      (resolveQueueAuthority round paddedDirectory paddedItem) := by
  have claimed : queueAuthority paddedDirectory paddedItem = ⟨none, false⟩ := by decide +kernel
  refine ⟨claimed, fun round => ?_⟩
  have resolved : resolveQueueAuthority round paddedDirectory paddedItem = .ok (some 7) := rfl
  refine ⟨resolved, fun agrees => ?_⟩
  have found := (agrees.channel 7).2 resolved
  rw [claimed] at found
  cases found

end VideoProcess.ChannelOps
