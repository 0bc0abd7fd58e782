import HelpForge.Chatbot.Chunker

set_option autoImplicit false

namespace HelpForge.Chatbot

open Lib

abbrev Window := Int × Int

def windowText (text : List Char) (window : Window) : List Char :=
  strip (slice text window.1 window.2)

def emitted (text : List Char) (windows : List Window) : List Window :=
  windows.filter fun window => windowText text window ≠ []

variable {windows : List Window} {start : Int}

namespace DocumentChunker

/-- The windows of the loop from a state on up to the first that reaches the end of the text, and
the state after it. -/
def visit (chunker : DocumentChunker) (text : List Char) (metadata : Dict Value) :
    Nat → ChunkState → Option (List Window × ChunkState)
  | 0, _ => none
  | passes + 1, state =>
    match chunker.window text metadata state with
    | .done _ => none
    | .next reached =>
      let visited := (state.start, chunker.windowEnd text state.start)
      if visited.2 = text.length then some ([visited], reached)
      else
        (chunker.visit text metadata passes reached).map fun later =>
          (visited :: later.1, later.2)

def chunksOf (text : List Char) (metadata : Dict Value) (chunk_index : Nat)
    (windows : List Window) : List (Dict Value) :=
  ((emitted text windows).zipIdx chunk_index).map fun entry =>
    chunk (windowText text entry.1) entry.2 entry.1.1 entry.1.2 metadata

structure Covers (chunker : DocumentChunker) (text : List Char) (metadata : Dict Value)
    (windows : List Window) (chunks : List (Dict Value)) : Prop where
  first : windows.head?.map Prod.fst = some 0
  last : windows.getLast?.map Prod.snd = some (text.length : Int)
  bounded : ∀ window ∈ windows, window.1 < window.2 ∧ window.2 - window.1 ≤ chunker.chunk_size
  overlapping : windows.IsChain fun one next => next.1 = one.2 - chunker.chunk_overlap
  covered : ∀ (index : Nat) (inside : index < text.length), isSpace text[index] = false →
    ∃ window ∈ emitted text windows, window.1 ≤ index ∧ index < window.2
  -- Each emitted text is the slice of its window, stripped, and the indices leave no gap.
  emits : chunks = chunksOf text metadata 0 windows

section Windows

variable {chunker : DocumentChunker} {text : List Char} {metadata : Dict Value} {index : Int}

theorem sliceIndex_inside {length : Nat} (whole : 0 ≤ index) :
    (sliceIndex length index : Int) = min index length := by
  rw [sliceIndex, if_neg (by omega)]
  omega

theorem windowEnd_inside (positive : 0 < chunker.chunk_overlap)
    (halved : chunker.chunk_overlap ≤ chunker.chunk_size / 2) (begun : 0 ≤ start)
    (inside : start < text.length) :
    start < chunker.windowEnd text start ∧
      chunker.windowEnd text start - start ≤ chunker.chunk_size ∧
      chunker.windowEnd text start ≤ text.length ∧
      (chunker.windowEnd text start ≠ text.length →
        start < chunker.windowEnd text start - chunker.chunk_overlap) := by
  unfold windowEnd
  simp only
  split_ifs with cut boundary
  · have bounds := rfind_bounds text '.' (start + chunker.chunk_size / 2)
      (min (start + chunker.chunk_size) text.length) boundary
    rw [sliceIndex_inside (by omega), sliceIndex_inside (by omega)] at bounds
    omega
  · omega
  · omega

theorem mem_slice {stop : Int} (begun : 0 ≤ start) {index : Nat} (inside : index < text.length)
    (after : start ≤ index) (before : index < stop) : text[index] ∈ slice text start stop := by
  have opens : (sliceIndex text.length start : Int) = min start text.length :=
    sliceIndex_inside begun
  have ends : (sliceIndex text.length stop : Int) = min stop text.length :=
    sliceIndex_inside (by omega)
  have within : index - sliceIndex text.length start + sliceIndex text.length start = index := by
    omega
  apply List.mem_iff_getElem?.mpr
  refine ⟨index - sliceIndex text.length start, ?_⟩
  rw [slice, List.getElem?_drop, Nat.add_comm, within, List.getElem?_take_of_lt (by omega),
    List.getElem?_eq_getElem inside]

theorem emitted_of_solid {window : Window} (among : window ∈ windows) (begun : 0 ≤ window.1)
    {index : Nat} (inside : index < text.length) (solid : isSpace text[index] = false)
    (after : window.1 ≤ index) (before : index < window.2) : window ∈ emitted text windows := by
  have held := mem_slice begun inside after before
  apply List.mem_filter.mpr
  refine ⟨among, ?_⟩
  simp only [ne_eq, decide_eq_true_eq, windowText, strip_eq_nil_iff]
  intro blank
  have white := blank _ held
  rw [solid] at white
  cases white

theorem chunksOf_cons (chunk_index : Nat) (window : Window) (windows : List Window) :
    chunksOf text metadata chunk_index (window :: windows) =
      chunksOf text metadata chunk_index [window] ++
        chunksOf text metadata (chunk_index + (emitted text [window]).length) windows := by
  have split : emitted text (window :: windows) = emitted text [window] ++ emitted text windows :=
    List.filter_append [window] windows
  rw [chunksOf, split, List.zipIdx_append, List.map_append]
  rfl

variable (chunker text metadata) in
theorem window_emits (state : ChunkState) (inside : state.start < text.length)
    (short : chunker.windowEnd text state.start - chunker.chunk_overlap < text.length) :
    ∃ reached, chunker.window text metadata state = .next reached ∧
      reached.start = chunker.windowEnd text state.start - chunker.chunk_overlap ∧
      reached.chunk_index = state.chunk_index +
        (emitted text [(state.start, chunker.windowEnd text state.start)]).length ∧
      reached.chunks = state.chunks ++ chunksOf text metadata state.chunk_index
        [(state.start, chunker.windowEnd text state.start)] := by
  have stays : ¬chunker.windowEnd text state.start - chunker.chunk_overlap ≥ text.length := by omega
  unfold window
  rw [if_pos inside]
  simp only [stays, if_false]
  by_cases blank : strip (slice text state.start (chunker.windowEnd text state.start)) = []
  · simp [blank, emitted, chunksOf, windowText]
  · simp [blank, emitted, chunksOf, windowText]

/-- From a state inside the text on. -/
structure Reaches (chunker : DocumentChunker) (text : List Char) (start : Int)
    (windows : List Window) : Prop where
  first : windows.head?.map Prod.fst = some start
  last : windows.getLast?.map Prod.snd = some (text.length : Int)
  bounded : ∀ window ∈ windows, 0 ≤ window.1 ∧ window.1 < window.2 ∧
    window.2 - window.1 ≤ chunker.chunk_size
  overlapping : windows.IsChain fun one next => next.1 = one.2 - chunker.chunk_overlap

theorem Reaches.cons {start stop : Int} {windows : List Window} (begun : 0 ≤ start)
    (wide : start < stop) (narrow : stop - start ≤ chunker.chunk_size)
    (later : Reaches chunker text (stop - chunker.chunk_overlap) windows) :
    Reaches chunker text start ((start, stop) :: windows) := by
  cases windows with
  | nil => cases later.first
  | cons next rest =>
    have follows : next.1 = stop - chunker.chunk_overlap := by simpa using later.first
    refine ⟨rfl, ?_, ?_, ?_⟩
    · rw [List.getLast?_cons_cons]
      exact later.last
    · intro window member
      rcases List.mem_cons.mp member with rfl | among
      · exact ⟨begun, wide, narrow⟩
      · exact later.bounded window among
    · exact List.IsChain.cons_cons follows later.overlapping

theorem Reaches.finds (overlaps : 0 < chunker.chunk_overlap)
    (reaches : Reaches chunker text start windows) (after : start ≤ index)
    (inside : index < text.length) : ∃ window ∈ windows, window.1 ≤ index ∧ index < window.2 := by
  induction windows generalizing start with
  | nil => cases reaches.first
  | cons window rest ih =>
    have begins : window.1 = start := by simpa using reaches.first
    by_cases before : index < window.2
    · exact ⟨window, List.mem_cons_self .., by omega, before⟩
    cases rest with
    | nil =>
      have ends : window.2 = text.length := by simpa using reaches.last
      omega
    | cons next rest =>
      have chained := List.isChain_cons_cons.mp reaches.overlapping
      have later : Reaches chunker text next.1 (next :: rest) := by
        refine ⟨rfl, ?_, fun other among => ?_, chained.2⟩
        · rw [← List.getLast?_cons_cons]
          exact reaches.last
        · exact reaches.bounded other (List.mem_cons_of_mem _ among)
      obtain ⟨found, among, holds⟩ := ih later (by have follows := chained.1; omega)
      exact ⟨found, List.mem_cons_of_mem _ among, holds⟩

variable (text metadata) in
theorem visit_reaches (positive : 0 < chunker.chunk_overlap)
    (halved : chunker.chunk_overlap ≤ chunker.chunk_size / 2) (state : ChunkState)
    (begun : 0 ≤ state.start) (inside : state.start < text.length) :
    ∃ passes windows reached,
      chunker.visit text metadata passes state = some (windows, reached) ∧
      Reaches chunker text state.start windows ∧
      reached.chunks = state.chunks ++ chunksOf text metadata state.chunk_index windows := by
  -- Each window that does not reach the end leaves less of the text to the next one.
  induction left : (text.length - state.start).toNat using Nat.strong_induction_on
    generalizing state with
  | _ left ih =>
    obtain ⟨wide, narrow, within, progress⟩ :=
      chunker.windowEnd_inside positive halved begun inside
    obtain ⟨reached, passed, starts, counts, adds⟩ :=
      window_emits chunker text metadata state inside (by omega)
    by_cases ends : chunker.windowEnd text state.start = text.length
    · refine ⟨1, [(state.start, chunker.windowEnd text state.start)], reached, ?_, ?_, adds⟩
      · simp only [visit, passed, ends, if_true]
      · refine ⟨rfl, by simp [ends], ?_, List.IsChain.singleton _⟩
        intro window member
        rw [List.mem_singleton.mp member]
        exact ⟨begun, wide, narrow⟩
    · have further := progress ends
      obtain ⟨passes, windows, final, visited, reaches, added⟩ :=
        ih (text.length - reached.start).toNat (by omega) reached (by omega) (by omega) rfl
      refine ⟨passes + 1, (state.start, chunker.windowEnd text state.start) :: windows, final,
        ?_, ?_, ?_⟩
      · simp only [visit, passed, ends, if_false, visited, Option.map_some]
      · rw [starts] at reaches
        exact reaches.cons begun wide narrow
      · rw [added, adds, counts, chunksOf_cons state.chunk_index _ windows, List.append_assoc]

variable (chunker) in
/-- Up to the end of a text that is not short enough to be one chunk, the windows of the loop cover
it; and a short text is its only chunk. -/
theorem chunks_cover_text (positive : 0 < chunker.chunk_overlap)
    (halved : chunker.chunk_overlap ≤ chunker.chunk_size / 2) (text : List Char)
    (metadata : Dict Value) :
    (chunker.chunk_size < (normalize text).length →
      ∃ passes windows reached,
        chunker.visit (normalize text) metadata passes {} = some (windows, reached) ∧
        Covers chunker (normalize text) metadata windows reached.chunks) ∧
      ((normalize text).length ≤ chunker.chunk_size → ∀ passes,
        chunker.chunkText passes text metadata =
          some [chunk (normalize text) 0 0 (normalize text).length metadata]) := by
  constructor
  · intro long
    obtain ⟨passes, windows, reached, visited, reaches, added⟩ :=
      visit_reaches (normalize text) metadata positive halved {} (Int.le_refl 0)
        (by change (0 : Int) < (normalize text).length; omega)
    refine ⟨passes, windows, reached, visited, reaches.first, reaches.last, ?_,
      reaches.overlapping, ?_, added⟩
    · intro window member
      exact (reaches.bounded window member).2
    · intro index inside solid
      obtain ⟨window, among, after, before⟩ :=
        reaches.finds positive (Int.natCast_nonneg index) (by omega)
      have begun := (reaches.bounded window among).1
      exact ⟨window, emitted_of_solid among begun inside solid after before, after, before⟩
  · intro short passes
    exact chunker.chunkText_single passes text metadata short

end Windows

/-- Two sentences, in windows of at most eight characters that share two. -/
theorem sentences_covered :
    ∃ passes windows reached,
      (init (some 8) (some 2)).visit (normalize "Hello. Good day.".toList) [] passes {} =
        some (windows, reached) ∧
      Covers (init (some 8) (some 2)) (normalize "Hello. Good day.".toList) [] windows
        reached.chunks :=
  (chunks_cover_text (init (some 8) (some 2)) (by decide) (by decide) "Hello. Good day.".toList
    []).1 (by decide)

end DocumentChunker

end HelpForge.Chatbot
