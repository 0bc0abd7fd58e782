import HelpForge.Chatbot.Python
import HelpForge.Lib.Blocks
import HelpForge.Lib.EventStream
import HelpForge.Lib.Json
import HelpForge.Lib.Utf8

set_option autoImplicit false

namespace HelpForge.Chatbot

open Lib

variable {batches : List (List (List Char))} {events : List (List Char)} {payload : List Char}
  {reply : List Char} {text : List Char}

namespace Streaming

inductive ActionType where
  | open_docs
  | view_pricing
  | contact_form
  | none
  deriving DecidableEq, Repr

def ActionType.value : ActionType → String
  | .open_docs => "open_docs"
  | .view_pricing => "view_pricing"
  | .contact_form => "contact_form"
  | .none => "none"

structure WidgetAction where
  type : ActionType
  label : String := ""
  url : Option String := none

/-- All that the service answers with; floats are of the type `φ`. -/
structure WidgetChatResponse (φ : Type) where
  reply : String
  actions : List WidgetAction := []
  confidence : φ
  escalated : Bool := false
  ticket_id : Option String := none
  session_id : String
  trace_id : Option String := none

section Sending

variable {φ : Type}

def jsonStr (text : String) : Json φ := .str (Json.units text)

def jsonOptional : Option String → Json φ
  | some text => jsonStr text
  | none => .null

/-- `a.model_dump()` -/
def WidgetAction.dump (action : WidgetAction) : Json φ :=
  .obj [(Json.units "type", jsonStr action.type.value), (Json.units "label", jsonStr action.label),
    (Json.units "url", jsonOptional action.url)]

def WidgetChatResponse.metadata (response : WidgetChatResponse φ) : Json φ :=
  .obj [(Json.units "type", jsonStr "meta"), (Json.units "escalated", .bool response.escalated),
    (Json.units "ticket_id", jsonOptional response.ticket_id),
    (Json.units "trace_id", jsonOptional response.trace_id),
    (Json.units "confidence", .num response.confidence),
    (Json.units "actions", .arr (response.actions.map WidgetAction.dump))]

def doneMark : List Char := "[DONE]".toList

def errorMark : List Char := "[ERROR]".toList

def chunks : List (List Char) → List (List Char)
  -- The words, each but the last one with a space after it.
  | [] => []
  | [word] => [word]
  | word :: rest => (word ++ [' ']) :: chunks rest

variable (numbers : Json.Numbers φ)

def eventStream (outcome : Except PyError (WidgetChatResponse φ)) : List Char :=
  (match outcome with
    | .ok response =>
      (chunks (response.reply.toList.splitOn ' ')).flatMap EventStream.frame ++
        EventStream.frame (Json.dumps numbers response.metadata)
    | .error _ => EventStream.frame errorMark) ++ EventStream.frame doneMark

end Sending

def isJsSpace (char : Char) : Bool :=
  let code := char.toNat
  (0x09 ≤ code && code ≤ 0x0D) || code == 0x20 || code == 0xA0 || code == 0x1680 ||
    (0x2000 ≤ code && code ≤ 0x200A) || code == 0x2028 || code == 0x2029 || code == 0x202F ||
    code == 0x205F || code == 0x3000 || code == 0xFEFF

def trim (text : List Char) : List Char := (text.rdropWhile isJsSpace).dropWhile isJsSpace

structure WidgetApiError where
  status : Nat
  message : String
  deriving DecidableEq, Repr

/-- What one event is to the widget. -/
inductive Event (φ : Type) where
  | skipped
  | done
  | failed
  | metadata (parsed : Json φ)
  | token (data : List Char)

structure Handed (φ : Type) where
  metadata : Option (Json φ) := none
  tokens : List (List Char) := []

structure Reading (φ : Type) where
  decoder : Utf8.TextDecoder := {}
  buffer : List Char := []
  handed : Handed φ := {}

section Receiving

variable {φ : Type} (numbers : Json.Numbers φ)

def isMeta (parsed : Json φ) : Bool :=
  match parsed.property (Json.units "type") with
  | some (.str units) => units = Json.units "meta"
  | _ => false

def dataMark : List Char := "data:".toList

def readData (data : List Char) : Event φ :=
  if data = doneMark then .done
  else if data = errorMark then .failed
  else if data.head? = some '\x7b' then
    match Json.parse numbers data with
    | some parsed => if isMeta parsed then .metadata parsed else .token data
    | none => .token data
  else .token data

def readEvent (event : List Char) : Event φ :=
  let line := trim event
  if dataMark <+: line then readData numbers (trim (line.drop dataMark.length)) else .skipped

def takeEvents : List (List Char) → Handed φ → Except WidgetApiError (Handed φ)
  -- The events of one read; the end mark ends only these.
  | [], handed => .ok handed
  | event :: rest, handed =>
    match readEvent numbers event with
    | .skipped => takeEvents rest handed
    | .done => .ok handed
    | .failed => .error ⟨500, "Server error during streaming"⟩
    | .metadata parsed => takeEvents rest { handed with metadata := some parsed }
    | .token data => takeEvents rest { handed with tokens := handed.tokens ++ [data] }

def readPiece (reading : Reading φ) (value : List UInt8) :
    Except WidgetApiError (Reading φ) := do
  let (text, decoder) := reading.decoder.decode value
  let buffer := reading.buffer ++ text
  let handed ← takeEvents numbers (Blocks.blocks buffer) reading.handed
  return { decoder, buffer := Blocks.remainder buffer, handed }

def noMeta : Json φ :=
  .obj [(Json.units "type", jsonStr "meta"), (Json.units "escalated", .bool false),
    (Json.units "confidence", .num (numbers.read ['0'])), (Json.units "actions", .arr [])]

/-- The tokens that are handed on, and the metadata; the response itself is `ok`. -/
def streamMessage (reads : List (List UInt8)) :
    Except WidgetApiError (List (List Char) × Json φ) := do
  let reading ← reads.foldlM (readPiece numbers) {}
  return (reading.handed.tokens, reading.handed.metadata.getD (noMeta numbers))

end Receiving

section Pieces

variable {φ : Type} {numbers : Json.Numbers φ}

theorem read_batches (pieces : List (List UInt8)) (reading : Reading φ)
    (settled : Blocks.blocks reading.buffer = []) :
    ∃ batches : List (List (List Char)),
      batches.flatten = Blocks.blocks (reading.buffer ++
        (reading.decoder.decode pieces.flatten).1) ∧
      (pieces.foldlM (readPiece numbers) reading).map Reading.handed =
        batches.foldlM (fun handed batch => takeEvents numbers batch handed) reading.handed := by
  -- However the bytes are cut into pieces, the events are taken in their order, in batches.
  induction pieces generalizing reading with
  | nil =>
    refine ⟨[], ?_, rfl⟩
    rw [List.flatten_nil, List.flatten_nil, Utf8.decode_nil, List.append_nil, settled]
  | cons piece rest ih =>
    let text := (reading.decoder.decode piece).1
    let taken := takeEvents numbers (Blocks.blocks (reading.buffer ++ text)) reading.handed
    have whole : Blocks.blocks (reading.buffer ++
        (reading.decoder.decode (piece :: rest).flatten).1) =
          Blocks.blocks (reading.buffer ++ text) ++
            Blocks.blocks (Blocks.remainder (reading.buffer ++ text) ++
              ((reading.decoder.decode piece).2.decode rest.flatten).1) := by
      rw [List.flatten_cons, Utf8.decode_append, ← List.append_assoc, Blocks.blocks_append]
    have step : readPiece numbers reading piece = taken.map fun handed =>
        { decoder := (reading.decoder.decode piece).2
          buffer := Blocks.remainder (reading.buffer ++ text), handed } := by
      unfold readPiece
      change taken >>= _ = _
      cases taken <;> rfl
    rw [List.foldlM_cons, step]
    cases took : taken with
    | error error =>
      refine ⟨[Blocks.blocks (reading.buffer ++ text),
        Blocks.blocks (Blocks.remainder (reading.buffer ++ text) ++
          ((reading.decoder.decode piece).2.decode rest.flatten).1)], ?_, ?_⟩
      · rw [whole]
        simp
      · rw [List.foldlM_cons]
        change _ = taken >>= _
        rw [took]
        rfl
    | ok handed =>
      obtain ⟨batches, flat, same⟩ := ih
        { decoder := (reading.decoder.decode piece).2
          buffer := Blocks.remainder (reading.buffer ++ text), handed }
        (Blocks.blocks_remainder _)
      refine ⟨Blocks.blocks (reading.buffer ++ text) :: batches, ?_, ?_⟩
      · rw [List.flatten_cons, flat, whole]
      · rw [List.foldlM_cons]
        change _ = taken >>= _
        rw [took]
        exact same

end Pieces

theorem rdropWhile_append {α : Type} (p : α → Bool) (first second : List α) :
    (first ++ second).rdropWhile p =
      if second.rdropWhile p = [] then first.rdropWhile p
      else first ++ second.rdropWhile p := by
  unfold List.rdropWhile
  rw [List.reverse_append, List.dropWhile_append]
  by_cases empty : second.reverse.dropWhile p = []
  · simp [empty]
  · simp [empty]

theorem trim_sublist (text : List Char) : (trim text).Sublist text :=
  (List.dropWhile_sublist _).trans (List.rdropWhile_prefix _ _).sublist

section Events

variable {φ : Type} (numbers : Json.Numbers φ) {gap : List Char}

theorem readEvent_opening (short : Blocks.Gap gap) (text : List Char) :
    readEvent numbers (gap ++ EventStream.opening ++ text) = readData numbers (trim text) := by
  have gapped : ∀ rest, (gap ++ 'd' :: rest).dropWhile isJsSpace = 'd' :: rest := by
    intro rest
    have plain : isJsSpace 'd' = false := by decide
    have newline : isJsSpace '\n' = true := by decide
    rcases short with rfl | rfl <;> simp [plain, newline]
  have opening : (gap ++ EventStream.opening).rdropWhile isJsSpace = gap ++ dataMark := by
    rcases short with rfl | rfl <;> decide
  unfold readEvent trim
  rw [rdropWhile_append]
  by_cases empty : text.rdropWhile isJsSpace = []
  · rw [if_pos empty, opening, empty]
    have line : (gap ++ dataMark).dropWhile isJsSpace = dataMark := gapped _
    simp only [line]
    rw [if_pos List.prefix_rfl]
    rfl
  · rw [if_neg empty]
    have line : (gap ++ EventStream.opening ++ text.rdropWhile isJsSpace).dropWhile isJsSpace =
        EventStream.opening ++ text.rdropWhile isJsSpace := by
      rw [List.append_assoc]
      exact gapped _
    have rest : (EventStream.opening ++ text.rdropWhile isJsSpace).drop dataMark.length =
        [' '] ++ text.rdropWhile isJsSpace := rfl
    have starts : dataMark <+: EventStream.opening ++ text.rdropWhile isJsSpace :=
      ⟨[' '] ++ text.rdropWhile isJsSpace, rfl⟩
    simp only [line]
    rw [if_pos starts, rest, rdropWhile_append, List.rdropWhile_idempotent, if_neg empty]
    rfl

def weight (event : List Char) : Nat :=
  -- How much of an event the widget adds to the reply.
  match readEvent numbers event with
  | .token data => data.length
  | _ => 0

theorem readData_token {data token : List Char} (read : readData numbers data = .token token) :
    token = data := by
  unfold readData at read
  split_ifs at read
  · split at read
    · split_ifs at read
      exact (Event.token.inj read).symm
    · exact (Event.token.inj read).symm
  · exact (Event.token.inj read).symm

theorem weight_le (event : List Char) : weight numbers event ≤ event.length := by
  unfold weight
  split
  · rename_i data read
    unfold readEvent at read
    simp only at read
    split_ifs at read
    rw [readData_token numbers read]
    refine (trim_sublist _).length_le.trans ?_
    rw [List.length_drop]
    exact (Nat.sub_le _ _).trans (trim_sublist _).length_le
  · exact Nat.zero_le _

def LooksMeta (payload : List Char) : Prop :=
  -- A JSON object that calls itself metadata.
  payload.head? = some '\x7b' ∧
    ∃ parsed, Json.parse numbers payload = some parsed ∧ isMeta parsed = true

/-- The payload of an event that comes out as it went in. -/
structure Passes (payload : List Char) : Prop where
  unbroken : Blocks.Unbroken payload
  trimmed : trim payload = payload
  not_done : payload ≠ doneMark
  not_failed : payload ≠ errorMark
  not_metadata : ¬LooksMeta numbers payload

variable {numbers}

theorem readData_passes (passes : Passes numbers payload) :
    readData numbers payload = .token payload := by
  unfold readData
  rw [if_neg passes.not_done, if_neg passes.not_failed]
  split_ifs with begun
  · split
    · rename_i parsed parses
      split_ifs with own
      · exact absurd ⟨begun, parsed, parses, own⟩ passes.not_metadata
      · rfl
    · rfl
  · rfl

theorem passes_of_readData (unbroken : Blocks.Unbroken payload) (trimmed : trim payload = payload)
    (read : readData numbers payload = .token payload) : Passes numbers payload := by
  refine ⟨unbroken, trimmed, ?_, ?_, ?_⟩
  · rintro rfl
    cases read
  · rintro rfl
    cases read
  · rintro ⟨begun, parsed, parses, own⟩
    unfold readData at read
    split_ifs at read
    rw [parses] at read
    simp only [own, if_true] at read
    cases read

theorem splitPop_opening (short : Blocks.Gap gap) (text : List Char) :
    Blocks.splitPop [] (gap ++ EventStream.opening ++ text) =
      Blocks.splitPop (gap ++ EventStream.opening) text := by
  have plain : ∀ char ∈ EventStream.opening, char ≠ '\n' := by
    simp [EventStream.opening, EventStream.dataName]
  have begun : (EventStream.opening ++ text).head? ≠ some '\n' := by
    simp [EventStream.opening, EventStream.dataName]
  rcases short with rfl | rfl
  · exact Blocks.splitPop_chars [] text plain
  · exact (Blocks.splitPop_char [] fun _ => begun).trans
      (Blocks.splitPop_chars ['\n'] text plain)

theorem sum_weight_le (events : List (List Char)) :
    (events.map (weight numbers)).sum ≤ events.flatten.length := by
  rw [List.length_flatten]
  exact List.sum_le_sum fun event _ => weight_le numbers event

theorem frame_weight {gap : List Char} (short : Blocks.Gap gap) (payload rest : List Char) :
    ∃ events gap', Blocks.Gap gap' ∧
      Blocks.blocks (gap ++ EventStream.frame payload ++ rest) =
        events ++ Blocks.blocks (gap' ++ rest) ∧
      (events.map (weight numbers)).sum ≤ payload.length ∧
      ((events.map (weight numbers)).sum = payload.length → Passes numbers payload) := by
  -- A frame hands on no more than its payload, and less unless the payload passes.
  obtain ⟨first, others, gap', short', split, front, size⟩ :=
    Blocks.splitPop_ended payload rest (gap ++ EventStream.opening)
  have text : gap ++ EventStream.frame payload ++ rest =
      gap ++ EventStream.opening ++ (payload ++ '\n' :: '\n' :: rest) := by
    simp [EventStream.frame]
  have cut : Blocks.blocks (gap ++ EventStream.frame payload ++ rest) =
      (gap ++ EventStream.opening ++ first) :: others ++ Blocks.blocks (gap' ++ rest) := by
    rw [text, Blocks.blocks, splitPop_opening short, split]
  have own : weight numbers (gap ++ EventStream.opening ++ first) ≤ (trim first).length := by
    unfold weight
    rw [readEvent_opening numbers short]
    split
    · rename_i read
      rw [readData_token numbers read]
    · exact Nat.zero_le _
  have trimmed := (trim_sublist first).length_le
  have rest_weight := @sum_weight_le φ numbers others
  refine ⟨(gap ++ EventStream.opening ++ first) :: others, gap', short', cut, ?_, ?_⟩
  · rw [List.map_cons, List.sum_cons]
    omega
  · intro same
    rw [List.map_cons, List.sum_cons] at same
    have none_left : others = [] := List.length_eq_zero_iff.mp (by omega)
    subst none_left
    simp only [List.map_nil, List.sum_nil, List.flatten_nil, List.length_nil] at same size
    obtain rfl : first = payload := front.eq_of_length (by omega)
    have whole : trim first = first := (trim_sublist first).eq_of_length (by omega)
    refine passes_of_readData ?_ whole ?_
    · exact Blocks.unbroken_of_whole (congrArg Prod.fst split)
    · unfold weight at same
      rw [readEvent_opening numbers short, whole] at same
      split at same
      · rename_i read
        rw [read, readData_token numbers read]
      · have empty : first = [] := List.length_eq_zero_iff.mp (by omega)
        subst empty
        rfl

theorem frames_weight (payloads : List (List Char)) {gap : List Char} (short : Blocks.Gap gap)
    (rest : List Char) :
    ∃ events gap', Blocks.Gap gap' ∧
      Blocks.blocks (gap ++ payloads.flatMap EventStream.frame ++ rest) =
        events ++ Blocks.blocks (gap' ++ rest) ∧
      (events.map (weight numbers)).sum ≤ payloads.flatten.length ∧
      ((events.map (weight numbers)).sum = payloads.flatten.length →
        ∀ payload ∈ payloads, Passes numbers payload) := by
  induction payloads generalizing gap with
  | nil => exact ⟨[], gap, short, by simp, le_rfl, fun _ => nofun⟩
  | cons payload payloads ih =>
    obtain ⟨events, gap', short', cut, small, passes⟩ :=
      @frame_weight φ numbers gap short payload (payloads.flatMap EventStream.frame ++ rest)
    obtain ⟨events', gap'', short'', cut', small', passes'⟩ := ih short'
    refine ⟨events ++ events', gap'', short'', ?_, ?_, ?_⟩
    · rw [List.flatMap_cons, List.append_assoc, List.append_assoc]
      rw [List.append_assoc] at cut cut'
      rw [cut, cut', List.append_assoc]
    · rw [List.map_append, List.sum_append, List.flatten_cons, List.length_append]
      omega
    · intro same
      rw [List.map_append, List.sum_append, List.flatten_cons, List.length_append] at same
      exact List.forall_mem_cons.mpr ⟨passes (by omega), passes' (by omega)⟩

theorem trimmed_last (trimmed : trim text = text) {blank : Char} (space : isJsSpace blank = true) :
    text.getLast? ≠ some blank := by
  intro last
  obtain ⟨front, rfl⟩ := List.getLast?_eq_some_iff.mp last
  have shorter : (trim (front ++ [blank])).length ≤
      ((front ++ [blank]).rdropWhile isJsSpace).length := (List.dropWhile_sublist _).length_le
  rw [trimmed, List.rdropWhile_concat_pos _ _ _ space] at shorter
  have prefix_le := (List.rdropWhile_prefix isJsSpace front).length_le
  rw [List.length_append, List.length_singleton] at shorter
  omega

theorem frame_whole (short : Blocks.Gap gap) (unbroken : Blocks.Unbroken payload)
    (trimmed : trim payload = payload) (rest : List Char) :
    Blocks.blocks (gap ++ EventStream.frame payload ++ rest) =
      (gap ++ EventStream.opening ++ payload) :: Blocks.blocks rest := by
  have text : gap ++ EventStream.frame payload ++ rest =
      gap ++ EventStream.opening ++ (payload ++ '\n' :: '\n' :: rest) := by
    simp [EventStream.frame]
  rw [text, Blocks.blocks, splitPop_opening short,
    Blocks.splitPop_whole _ _ unbroken (trimmed_last trimmed (by decide))]

theorem unbroken_of_printable (printable : text.all Json.isPrintable = true) :
    Blocks.Unbroken text := by
  intro inside
  have member : '\n' ∈ text := inside.subset List.mem_cons_self
  have own := List.all_eq_true.mp printable '\n' member
  exact absurd own (by decide)

theorem trim_between {first last : Char} (middle : List Char) (starts : isJsSpace first = false)
    (ends : isJsSpace last = false) : trim (first :: middle ++ [last]) = first :: middle ++ [last] := by
  unfold trim
  rw [List.rdropWhile_concat_neg _ _ _ (by simp [ends]), List.cons_append, List.dropWhile_cons,
    starts]
  rfl

variable (numbers) (response : WidgetChatResponse φ)

theorem metadata_text :
    ∃ inside, Json.dumps numbers response.metadata = '\x7b' :: inside ++ ['\x7d'] := by
  unfold WidgetChatResponse.metadata
  rw [Json.dumps]
  exact ⟨_, rfl⟩

theorem metadata_unbroken : Blocks.Unbroken (Json.dumps numbers response.metadata) :=
  unbroken_of_printable (Json.dumps_printable numbers _)

theorem metadata_trimmed :
    trim (Json.dumps numbers response.metadata) = Json.dumps numbers response.metadata := by
  obtain ⟨inside, text⟩ := metadata_text numbers response
  rw [text]
  exact trim_between inside (by decide) (by decide)

theorem metadata_isMeta : isMeta response.metadata = true := rfl

theorem readData_metadata :
    readData numbers (Json.dumps numbers response.metadata) = .metadata response.metadata := by
  obtain ⟨inside, text⟩ := metadata_text numbers response
  have starts : (Json.dumps numbers response.metadata).head? = some '\x7b' := by rw [text]; rfl
  have not_done : Json.dumps numbers response.metadata ≠ doneMark := by
    intro same
    rw [same] at starts
    exact absurd starts (by decide)
  have not_failed : Json.dumps numbers response.metadata ≠ errorMark := by
    intro same
    rw [same] at starts
    exact absurd starts (by decide)
  unfold readData
  rw [if_neg not_done, if_neg not_failed, if_pos starts, Json.parse_dumps]
  simp only [metadata_isMeta, if_true]

def closing : List Char :=
  -- What comes after the reply.
  EventStream.frame (Json.dumps numbers response.metadata) ++ EventStream.frame doneMark

theorem blocks_closing (short : Blocks.Gap gap) :
    Blocks.blocks (gap ++ closing numbers response) =
      [gap ++ EventStream.opening ++ Json.dumps numbers response.metadata,
        EventStream.opening ++ doneMark] := by
  have unbroken : Blocks.Unbroken doneMark := unbroken_of_printable (by decide)
  have ended := frame_whole (.inl rfl) unbroken (by decide) []
  rw [List.nil_append, List.append_nil] at ended
  rw [closing, ← List.append_assoc, frame_whole short (metadata_unbroken numbers response)
    (metadata_trimmed numbers response), ended]
  rfl

theorem readEvent_metadata (short : Blocks.Gap gap) :
    readEvent numbers (gap ++ EventStream.opening ++ Json.dumps numbers response.metadata) =
      .metadata response.metadata := by
  rw [readEvent_opening numbers short, metadata_trimmed, readData_metadata]

theorem readEvent_done : readEvent numbers (EventStream.opening ++ doneMark) = .done := by
  have read := readEvent_opening numbers (.inl rfl) doneMark
  rw [List.nil_append] at read
  rw [read]
  rfl

theorem closing_weight (short : Blocks.Gap gap) :
    ((Blocks.blocks (gap ++ closing numbers response)).map (weight numbers)).sum = 0 := by
  have first : weight numbers (gap ++ EventStream.opening ++
      Json.dumps numbers response.metadata) = 0 := by
    rw [weight, readEvent_metadata numbers response short]
  have last : weight numbers (EventStream.opening ++ doneMark) = 0 := by
    rw [weight, readEvent_done]
  rw [blocks_closing numbers response short, List.map_cons, List.map_singleton, first, last]
  rfl

def Handed.size (handed : Handed φ) : Nat := handed.tokens.flatten.length

theorem takeEvents_size {handed final : Handed φ}
    (taken : takeEvents numbers events handed = .ok final) :
    final.size ≤ handed.size + (events.map (weight numbers)).sum := by
  -- No events hand on more than they weigh.
  induction events generalizing handed with
  | nil =>
    obtain rfl := Except.ok.inj taken
    exact Nat.le_add_right _ _
  | cons event rest ih =>
    rw [List.map_cons, List.sum_cons, weight]
    unfold takeEvents at taken
    split at taken
    · rename_i read
      rw [read]
      have later := ih taken
      omega
    · obtain rfl := Except.ok.inj taken
      exact Nat.le_add_right _ _
    · cases taken
    · rename_i parsed read
      rw [read]
      have later := ih taken
      simp only [Handed.size] at later ⊢
      omega
    · rename_i data read
      rw [read]
      have later := ih taken
      simp only [Handed.size, List.flatten_append, List.length_append, List.flatten_singleton]
        at later ⊢
      omega

theorem batches_size {handed final : Handed φ}
    (taken : batches.foldlM (fun handed batch => takeEvents numbers batch handed) handed =
      .ok final) : final.size ≤ handed.size + (batches.flatten.map (weight numbers)).sum := by
  induction batches generalizing handed with
  | nil =>
    obtain rfl := Except.ok.inj taken
    exact Nat.le_add_right _ _
  | cons batch rest ih =>
    rw [List.foldlM_cons] at taken
    cases first : takeEvents numbers batch handed with
    | error error =>
      rw [first] at taken
      cases taken
    | ok between =>
      rw [first] at taken
      have own := takeEvents_size numbers first
      have later := ih taken
      rw [List.flatten_cons, List.map_append, List.sum_append]
      omega

def hand (handed : Handed φ) (event : List Char) : Handed φ :=
  -- What an event that is not the last one leaves.
  match readEvent numbers event with
  | .metadata parsed => { handed with metadata := some parsed }
  | .token data => { handed with tokens := handed.tokens ++ [data] }
  | _ => handed

def GoesOn (event : List Char) : Prop :=
  readEvent numbers event ≠ .done ∧ readEvent numbers event ≠ .failed

theorem takeEvents_append (rest : List (List Char)) (handed : Handed φ)
    (going : ∀ event ∈ events, GoesOn numbers event) :
    takeEvents numbers (events ++ rest) handed =
      takeEvents numbers rest (events.foldl (hand numbers) handed) := by
  induction events generalizing handed with
  | nil => rfl
  | cons event events ih =>
    obtain ⟨⟨not_done, not_failed⟩, later⟩ := List.forall_mem_cons.mp going
    rw [List.cons_append, takeEvents, List.foldl_cons, ← ih _ later, hand]
    split
    · rename_i read
      rw [read]
    · rename_i read
      exact absurd read not_done
    · rename_i read
      exact absurd read not_failed
    · rename_i read
      rw [read]
    · rename_i read
      rw [read]

theorem batches_none (handed : Handed φ) (flat : batches.flatten = []) :
    batches.foldlM (fun handed batch => takeEvents numbers batch handed) handed =
      .ok handed := by
  induction batches with
  | nil => rfl
  | cons batch rest ih =>
    obtain ⟨rfl, later⟩ := List.append_eq_nil_iff.mp flat
    exact ih later

theorem batches_hand {last : List Char} (handed : Handed φ)
    (flat : batches.flatten = events ++ [last]) (going : ∀ event ∈ events, GoesOn numbers event)
    (ended : readEvent numbers last = .done) :
    batches.foldlM (fun handed batch => takeEvents numbers batch handed) handed =
      .ok (events.foldl (hand numbers) handed) := by
  -- However the events are batched, all of them count until the end mark, if nothing is after it.
  have stops (handed : Handed φ) : takeEvents numbers [last] handed = .ok handed := by
    rw [takeEvents, ended]
  induction batches generalizing events handed with
  | nil => simp at flat
  | cons batch rest ih =>
    rw [List.flatten_cons] at flat
    rw [List.foldlM_cons]
    rcases List.append_eq_append_iff.mp flat with ⟨more, rfl, after⟩ | ⟨more, rfl, after⟩
    · have ⟨front, back⟩ := List.forall_mem_append.mp going
      have taken := takeEvents_append numbers [] handed front
      rw [List.append_nil, takeEvents] at taken
      rw [taken, List.foldl_append]
      exact ih _ after back
    · rw [takeEvents_append numbers more handed going]
      rcases List.append_eq_singleton_iff.mp after.symm with ⟨rfl, ended⟩ | ⟨rfl, none⟩
      · exact @ih [] _ ended nofun
      · rw [stops]
        exact batches_none numbers _ none

theorem chunks_flatten (words : List (List Char)) :
    (chunks words).flatten = [' '].intercalate words := by
  induction words with
  | nil => rfl
  | cons word rest ih =>
    cases rest with
    | nil => simp [chunks]
    | cons next more =>
      rw [List.intercalate_cons_cons, ← ih]
      simp [chunks]

theorem chunks_spaced (spaced : ' ' ∈ reply) :
    ∃ word, word ++ [' '] ∈ chunks (reply.splitOn ' ') := by
  -- With a space in the reply, there is a chunk that ends with one.
  obtain ⟨front, back, rfl⟩ := List.append_of_mem spaced
  obtain ⟨word, words, first⟩ := List.exists_cons_of_ne_nil (List.splitOn_ne_nil ' ' front)
  obtain ⟨next, others, second⟩ := List.exists_cons_of_ne_nil (List.splitOn_ne_nil ' ' back)
  rw [List.splitOn_append_cons_self, first, second]
  refine ⟨word, ?_⟩
  cases words <;> exact List.mem_cons_self

theorem chunks_plain (plain : ' ' ∉ reply) : chunks (reply.splitOn ' ') = [reply] := by
  rw [List.splitOn_eq_singleton plain]
  rfl

end Events

/-- How a stream of bytes is cut into what is read at once. -/
structure Reads (bytes : List UInt8) where
  pieces : List (List UInt8)
  whole : pieces.flatten = bytes

section Arrival

variable {φ : Type} (numbers : Json.Numbers φ) (response : WidgetChatResponse φ)

/-- The bytes of an answer. -/
def sent : List UInt8 := Utf8.encode (eventStream numbers (.ok response))

theorem stream_shape : eventStream numbers (.ok response) =
    (chunks (response.reply.toList.splitOn ' ')).flatMap EventStream.frame ++
      closing numbers response := by
  rw [eventStream, closing, List.append_assoc]

theorem stream_decoded : (({} : Utf8.TextDecoder).decode (sent numbers response)).1 =
    eventStream numbers (.ok response) := by
  refine Utf8.decode_encode _ ?_
  obtain ⟨rest, begun⟩ : ∃ rest, eventStream numbers (.ok response) = 'd' :: rest := by
    rw [stream_shape]
    cases chunks (response.reply.toList.splitOn ' ') with
    | nil => exact ⟨_, rfl⟩
    | cons chunk more => exact ⟨_, rfl⟩
  rw [begun]
  exact fun same => absurd (Option.some.inj same) (by decide)

theorem streamMessage_batches (reads : Reads (sent numbers response)) :
    ∃ batches : List (List (List Char)),
      batches.flatten = Blocks.blocks (eventStream numbers (.ok response)) ∧
      streamMessage numbers reads.pieces =
        (batches.foldlM (fun handed batch => takeEvents numbers batch handed) {}).map
          fun handed => (handed.tokens, handed.metadata.getD (noMeta numbers)) := by
  -- What the widget is left with, whatever the reads were.
  obtain ⟨batches, flat, same⟩ := @read_batches φ numbers reads.pieces {} rfl
  rw [reads.whole, List.nil_append, stream_decoded] at flat
  refine ⟨batches, flat, ?_⟩
  rw [← same, streamMessage]
  cases reads.pieces.foldlM (readPiece numbers) {} <;> rfl

def Arrives (reads : Reads (sent numbers response)) : Prop :=
  -- The reply and the metadata come out as they were sent.
  ∃ tokens, streamMessage numbers reads.pieces = .ok (tokens, response.metadata) ∧
    tokens.flatten = response.reply.toList

variable {numbers response}

theorem Arrives.passes {reads : Reads (sent numbers response)}
    (arrives : Arrives numbers response reads) :
    ∀ chunk ∈ chunks (response.reply.toList.splitOn ' '), Passes numbers chunk := by
  obtain ⟨tokens, received, whole⟩ := arrives
  obtain ⟨batches, flat, same⟩ := streamMessage_batches numbers response reads
  obtain ⟨events, gap, short, cut, small, passes⟩ := @frames_weight φ numbers
    (chunks (response.reply.toList.splitOn ' ')) [] (.inl rfl) (closing numbers response)
  rw [chunks_flatten, List.intercalate_splitOn] at small passes
  rw [List.nil_append, ← stream_shape] at cut
  rw [same] at received
  cases taken : batches.foldlM (fun handed batch => takeEvents numbers batch handed) {} with
  | error error =>
    rw [taken] at received
    cases received
  | ok final =>
    rw [taken] at received
    have got : final.tokens = tokens := congrArg Prod.fst (Except.ok.inj received)
    have bound := batches_size numbers taken
    have nothing : ({} : Handed φ).size = 0 := rfl
    rw [flat, cut, List.map_append, List.sum_append, closing_weight numbers response short, nothing,
      Handed.size, got, whole] at bound
    exact passes (by omega)

theorem arrives_of_passes (plain : ' ' ∉ response.reply.toList)
    (passes : Passes numbers response.reply.toList) (reads : Reads (sent numbers response)) :
    Arrives numbers response reads := by
  let reply := response.reply.toList
  have first : readEvent numbers (EventStream.opening ++ reply) = .token reply := by
    have read := readEvent_opening numbers (.inl rfl) reply
    rw [List.nil_append, passes.trimmed, readData_passes passes] at read
    exact read
  have second : readEvent numbers
      (EventStream.opening ++ Json.dumps numbers response.metadata) =
        .metadata response.metadata := by
    have read := readEvent_metadata numbers response (.inl rfl)
    rwa [List.nil_append] at read
  have events : Blocks.blocks (eventStream numbers (.ok response)) =
      [EventStream.opening ++ reply, EventStream.opening ++ Json.dumps numbers response.metadata] ++
        [EventStream.opening ++ doneMark] := by
    have own := frame_whole (.inl rfl) passes.unbroken passes.trimmed (closing numbers response)
    have rest := blocks_closing numbers response (.inl rfl)
    rw [List.nil_append] at own rest
    rw [stream_shape, chunks_plain plain, List.flatMap_singleton, own, rest]
    rfl
  obtain ⟨batches, flat, same⟩ := streamMessage_batches numbers response reads
  have going : ∀ event ∈ [EventStream.opening ++ reply,
      EventStream.opening ++ Json.dumps numbers response.metadata], GoesOn numbers event := by
    simp [GoesOn, first, second]
  have taken := batches_hand numbers {} (flat.trans events) going (readEvent_done numbers)
  refine ⟨[reply], ?_, List.flatten_singleton⟩
  rw [same, taken]
  simp [hand, first, second, Except.map]

/-- However the bytes are cut, the answer arrives exactly if the reply is a single word that the
widget takes for one. -/
theorem arrives_iff (numbers : Json.Numbers φ) (response : WidgetChatResponse φ)
    (reads : Reads (sent numbers response)) :
    Arrives numbers response reads ↔
      ' ' ∉ response.reply.toList ∧ Passes numbers response.reply.toList := by
  constructor
  · intro arrives
    have each := arrives.passes
    have plain : ' ' ∉ response.reply.toList := by
      intro spaced
      obtain ⟨word, member⟩ := chunks_spaced spaced
      exact trimmed_last (each _ member).trimmed (by decide) List.getLast?_concat
    rw [chunks_plain plain] at each
    exact ⟨plain, each _ List.mem_cons_self⟩
  · rintro ⟨plain, passes⟩
    exact arrives_of_passes plain passes reads

end Arrival

/-- Full confidence, or none. -/
def certainty : Json.Numbers Bool where
  write sure := if sure then "1.0".toList else "0.0".toList
  read literal := literal.head? = some '1'
  literal := by decide
  read_write := by decide

def greeting : WidgetChatResponse Bool where
  reply := "Hello world"
  confidence := true
  session_id := "s-1"

/-- The space between two words does not arrive. -/
theorem hello_world_joined : ¬∀ (response : WidgetChatResponse Bool)
    (reads : Reads (sent certainty response)), Arrives certainty response reads := by
  intro arrive
  obtain ⟨tokens, received, whole⟩ := arrive greeting ⟨[sent certainty greeting], by simp⟩
  have joined : (streamMessage certainty [sent certainty greeting]).toOption.map
      (fun got => got.1.flatten) = some "Helloworld".toList := by
    decide +kernel
  rw [received] at joined
  have same : tokens.flatten = "Helloworld".toList := Option.some.inj joined
  rw [whole] at same
  exact absurd same (by decide)

end Streaming

end HelpForge.Chatbot
