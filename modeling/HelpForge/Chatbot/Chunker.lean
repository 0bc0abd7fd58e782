import HelpForge.Chatbot.Text
import HelpForge.Chatbot.Value
import HelpForge.Lib.Loop
import Mathlib.Data.List.Basic

set_option autoImplicit false

/-!
# Document ingestion

The embedding service and the vector store are parameters.
-/

namespace HelpForge.Chatbot

open Lib

/-- `re.sub(r"\s+", " ", text)`; `inRun` says that the last character was white space. -/
def collapse (inRun : Bool) : List Char → List Char
  | [] => []
  | char :: rest =>
    if isSpace char then
      if inRun then collapse true rest else ' ' :: collapse true rest
    else char :: collapse false rest

def normalize (text : List Char) : List Char := strip (collapse false text)

def sliceIndex (length : Nat) (index : Int) : Nat :=
  -- Where a slice bound falls: a negative one counts from the end.
  if index < 0 then (index + length).toNat else min index.toNat length

def slice (text : List Char) (start stop : Int) : List Char :=
  (text.take (sliceIndex text.length stop)).drop (sliceIndex text.length start)

def rfind (text : List Char) (char : Char) (start stop : Int) : Int :=
  let first := sliceIndex text.length start
  let past := sliceIndex text.length stop
  match (List.range' first (past - first)).reverse.find? fun index => text[index]? == some char with
  | some index => index
  | none => -1

structure Settings where
  chunk_size : Int := 512
  chunk_overlap : Int := 64
  embedding_version : String := "v1"

def settings : Settings := {}

structure DocumentChunker where
  chunk_size : Int
  chunk_overlap : Int

namespace DocumentChunker

/-- `DocumentChunker(chunk_size, chunk_overlap)`: a bound that is `None` or 0 is taken
from the settings. -/
def init (chunk_size chunk_overlap : Option Int) : DocumentChunker :=
  { chunk_size := if chunk_size.getD 0 = 0 then settings.chunk_size else chunk_size.getD 0
    chunk_overlap :=
      if chunk_overlap.getD 0 = 0 then settings.chunk_overlap else chunk_overlap.getD 0 }

def chunk (text : List Char) (chunk_index : Nat) (char_start char_end : Int)
    (metadata : Dict Value) : Dict Value :=
  Dict.merge
    [("text", .str (String.ofList text)), ("chunk_index", .int chunk_index),
      ("char_start", .int char_start), ("char_end", .int char_end)]
    metadata

structure ChunkState where
  start : Int := 0
  chunk_index : Nat := 0
  chunks : List (Dict Value) := []

def windowEnd (chunker : DocumentChunker) (text : List Char) (start : Int) : Int :=
  let stop := min (start + chunker.chunk_size) text.length
  if stop < text.length then
    let boundary := rfind text '.' (start + chunker.chunk_size / 2) stop
    if boundary ≠ -1 then boundary + 1 else stop
  else stop

def window (chunker : DocumentChunker) (text : List Char) (metadata : Dict Value)
    (state : ChunkState) : Pass ChunkState (List (Dict Value)) :=
  if state.start < text.length then
    let stop := chunker.windowEnd text state.start
    let chunkText := strip (slice text state.start stop)
    let added : ChunkState :=
      if chunkText = [] then state
      else
        { state with
          chunk_index := state.chunk_index + 1
          chunks := state.chunks ++ [chunk chunkText state.chunk_index state.start stop metadata] }
    let start := stop - chunker.chunk_overlap
    if start ≥ text.length then .done added.chunks else .next { added with start }
  else .done state.chunks

/-- `chunk_text`, given a number of passes of its loop. -/
def chunkText (chunker : DocumentChunker) (passes : Nat) (text : List Char)
    (metadata : Dict Value) : Option (List (Dict Value)) :=
  let text := normalize text
  if text.length ≤ chunker.chunk_size then
    some [chunk text 0 0 text.length metadata]
  else Loop.run (chunker.window text metadata) passes {}

end DocumentChunker

def chunker : DocumentChunker := .init none none

structure ProcessDocumentRequest where
  org_id : String
  document_id : String
  content : String
  metadata : Dict Value := []
  chunk : Bool := true

structure ProcessDocumentResponse where
  document_id : String
  chunks_created : Nat
  status : String

/-- The calls of the pipeline that leave the service. -/
structure IngestionServices (Vector ε : Type) where
  delete_by_document : String → String → Except ε Unit
  embed_many : String → List (Option Value) → Except ε (List Vector)
  upsert : String → List Vector → List (Dict Value) → Except ε Unit

def baseMetadata (request : ProcessDocumentRequest)
    (embedding_version : String := settings.embedding_version) : Dict Value :=
  Dict.merge
    [("document_id", .str request.document_id), ("org_id", .str request.org_id),
      ("source", (request.metadata.lookup "filename").getD (.str request.document_id)),
      ("embedding_version", .str embedding_version)]
    request.metadata

def documentChunks (passes : Nat) (request : ProcessDocumentRequest)
    (embedding_version : String := settings.embedding_version) : Option (List (Dict Value)) :=
  if request.chunk then
    chunker.chunkText passes request.content.toList (baseMetadata request embedding_version)
  else
    some [Dict.merge [("text", .str request.content), ("chunk_index", .int 0)]
      (baseMetadata request embedding_version)]

def processDocument {Vector ε : Type} (services : IngestionServices Vector ε) (passes : Nat)
    (request : ProcessDocumentRequest) : Option (Except ε ProcessDocumentResponse) :=
  (documentChunks passes request).map fun chunks => do
    services.delete_by_document request.org_id request.document_id
    let texts := chunks.map fun chunk => chunk.lookup "text"
    let vectors ← services.embed_many request.org_id texts
    services.upsert request.org_id vectors chunks
    pure {
      document_id := request.document_id
      chunks_created := chunks.length
      status := "success" }

theorem rfind_bounds (text : List Char) (char : Char) (start stop : Int)
    (found : rfind text char start stop ≠ -1) :
    sliceIndex text.length start ≤ rfind text char start stop ∧
      rfind text char start stop < sliceIndex text.length stop := by
  unfold rfind at found ⊢
  simp only at found ⊢
  split at found
  next index match_ =>
    have member := List.mem_of_find?_eq_some match_
    rw [List.mem_reverse, List.mem_range'_1] at member
    omega
  next => exact absurd rfl found

namespace DocumentChunker

theorem windowEnd_bounds (chunker : DocumentChunker) (text : List Char) (start : Int)
    (positive : 0 < chunker.chunk_overlap)
    (halved : chunker.chunk_overlap ≤ chunker.chunk_size / 2)
    (long : chunker.chunk_size < text.length) (begun : 0 ≤ start) :
    chunker.chunk_overlap ≤ chunker.windowEnd text start ∧
      chunker.windowEnd text start ≤ text.length := by
  -- A window that begins inside the text ends inside it, and no earlier than an overlap from the
  -- beginning of the text.
  have inText : ∀ index : Int, 0 ≤ index →
      (sliceIndex text.length index : Int) = min index text.length := by
    intro index whole
    rw [sliceIndex, if_neg (by omega)]
    omega
  unfold windowEnd
  simp only
  split_ifs with cut boundary
  · have bounds := rfind_bounds text '.' (start + chunker.chunk_size / 2)
      (min (start + chunker.chunk_size) text.length) boundary
    rw [inText _ (by omega), inText _ (by omega)] at bounds
    omega
  · omega
  · omega

theorem window_next (chunker : DocumentChunker) (text : List Char) (metadata : Dict Value)
    (state : ChunkState) (positive : 0 < chunker.chunk_overlap)
    (halved : chunker.chunk_overlap ≤ chunker.chunk_size / 2)
    (long : chunker.chunk_size < text.length)
    (inside : 0 ≤ state.start ∧ state.start < text.length) :
    ∃ reached, chunker.window text metadata state = .next reached ∧
      0 ≤ reached.start ∧ reached.start < text.length := by
  -- No window of a text longer than `chunk_size` leaves the loop: the next one begins an overlap
  -- before the end of this one, so never at the end of the text.
  have bounds := chunker.windowEnd_bounds text state.start positive halved long inside.1
  have before : ¬ chunker.windowEnd text state.start - chunker.chunk_overlap ≥ text.length := by
    omega
  unfold window
  rw [if_pos inside.2]
  simp only [before, if_false]
  exact ⟨_, rfl, by simp only; omega, by simp only; omega⟩

section Dict

variable (chunker : DocumentChunker) (passes : Nat) (text : List Char) (metadata : Dict Value)

theorem chunkText_none (positive : 0 < chunker.chunk_overlap)
    (halved : chunker.chunk_overlap ≤ chunker.chunk_size / 2)
    (long : chunker.chunk_size < (normalize text).length) :
    chunker.chunkText passes text metadata = none := by
  unfold chunkText
  simp only [if_neg (Int.not_le.mpr long)]
  refine Loop.run_none_of_invariant _
    (fun state : ChunkState => 0 ≤ state.start ∧ state.start < (normalize text).length)
    ?_ passes {} ?_
  · intro state inside
    exact chunker.window_next (normalize text) metadata state positive halved long inside
  · simp only
    omega

theorem chunkText_single (short : (normalize text).length ≤ chunker.chunk_size) :
    chunker.chunkText passes text metadata =
      some [chunk (normalize text) 0 0 (normalize text).length metadata] := by
  unfold chunkText
  simp only [if_pos short]

end Dict

theorem chunkText_returns_iff (chunker : DocumentChunker) (text : List Char)
    (metadata : Dict Value) (positive : 0 < chunker.chunk_overlap)
    (halved : chunker.chunk_overlap ≤ chunker.chunk_size / 2) :
    (∃ passes chunks, chunker.chunkText passes text metadata = some chunks) ↔
      (normalize text).length ≤ chunker.chunk_size := by
  constructor
  · rintro ⟨passes, chunks, returned⟩
    by_contra long
    rw [chunker.chunkText_none passes text metadata positive halved (by omega)] at returned
    cases returned
  · intro short
    exact ⟨0, _, chunker.chunkText_single 0 text metadata short⟩

end DocumentChunker

theorem documentChunks_returns_iff (request : ProcessDocumentRequest)
    (embedding_version : String := settings.embedding_version) :
    (∃ passes chunks, documentChunks passes request embedding_version = some chunks) ↔
      request.chunk = false ∨
        (normalize request.content.toList).length ≤ chunker.chunk_size := by
  unfold documentChunks
  by_cases chunked : request.chunk = true
  · simp only [chunked, if_true, Bool.true_eq_false, false_or]
    exact chunker.chunkText_returns_iff _ _ (by decide) (by decide)
  · simp [chunked]

/-- The loop of `chunk_text` is left exactly when it is never entered, and an ingestion
completes exactly when it does not need it. -/
theorem ingestion_terminates_iff (chunker : DocumentChunker)
    (positive : 0 < chunker.chunk_overlap)
    (halved : chunker.chunk_overlap ≤ chunker.chunk_size / 2) :
    (∀ (text : List Char) (metadata : Dict Value),
      (∃ passes chunks, chunker.chunkText passes text metadata = some chunks) ↔
        (normalize text).length ≤ chunker.chunk_size) ∧
      ∀ (Vector ε : Type) (services : IngestionServices Vector ε)
        (request : ProcessDocumentRequest),
        (∃ passes outcome, processDocument services passes request = some outcome) ↔
          request.chunk = false ∨
            (normalize request.content.toList).length ≤ settings.chunk_size := by
  refine ⟨fun text metadata => chunker.chunkText_returns_iff text metadata positive halved, ?_⟩
  intro Vector ε services request
  have same : settings.chunk_size = Chatbot.chunker.chunk_size := rfl
  rw [same, ← documentChunks_returns_iff request]
  constructor
  · rintro ⟨passes, outcome, completed⟩
    obtain ⟨chunks, returned, _⟩ := Option.map_eq_some_iff.mp completed
    exact ⟨passes, chunks, returned⟩
  · rintro ⟨passes, chunks, returned⟩
    exact ⟨passes, _, by rw [processDocument, returned]; rfl⟩

theorem short_text_chunked :
    ∃ passes chunks, chunker.chunkText passes ['o', 'k', '.'] [] = some chunks := by
  have both := ingestion_terminates_iff chunker (by decide) (by decide)
  exact (both.1 ['o', 'k', '.'] []).mpr (by decide)

/-- 513 letters, with the default bounds. -/
theorem long_document_never_chunked :
    ¬ ∃ passes chunks,
      chunker.chunkText passes (List.replicate 513 'a') [] = some chunks := by
  rintro ⟨passes, chunks, returned⟩
  have long : chunker.chunk_size < (normalize (List.replicate 513 'a')).length := by
    decide +kernel
  rw [chunker.chunkText_none passes _ [] (by decide) (by decide) long] at returned
  cases returned

end HelpForge.Chatbot
