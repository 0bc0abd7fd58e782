import Mathlib.Data.List.Induction
import HelpForge.Chatbot.Memory.TicketMemory

set_option autoImplicit false

/-!
# Compaction of a ticket's memory

Each entry is tracked back to the messages that it stands for.
-/

namespace HelpForge.Chatbot

def summarizeThreshold : Nat := 20
def keepRecent : Nat := 6

def oldMessages {α : Type} (entries : List α) : List α :=
  entries.take (entries.length - keepRecent)

def recentMessages {α : Type} (entries : List α) : List α :=
  entries.drop (entries.length - keepRecent)

def transcript (python : Python) (messages : List MemoryMessage) : String :=
  "\n".intercalate ((messages.filter fun message => message.role != "system").map fun message =>
    python.upper message.role ++ ": " ++ message.content)

def generateSummary (python : Python) (generate : String → Except PyError Value)
    (messages : List MemoryMessage) : Except PyError String := do
  let result ← generate (transcript python messages)
  match ← result.get "content" (.str "") with
  | .str text => .ok (stripped text)
  | other => .error (other.noAttribute "strip")

def summaryEntry (summary : String) (count : Nat) : MemoryMessage where
  role := "system"
  content := "[Conversation history summary]: " ++ summary
  metadata := [("summarized_message_count", .int count)]

/-- `maybe_summarize` on the list of a ticket; an exception leaves the list as it is. -/
def maybeSummarize (python : Python) (generate : String → Except PyError Value)
    (messages : List MemoryMessage) : Except PyError (Bool × List MemoryMessage) :=
  if messages.length < summarizeThreshold then .ok (false, messages)
  else do
    let summary ← generateSummary python generate (oldMessages messages)
    return (true, summaryEntry summary (oldMessages messages).length :: recentMessages messages)

inductive Source where
  -- The message that was added as the n-th.
  | message (index : Nat)
  -- The messages that a summary covers.
  | summary (covered : List Nat)

structure Tracked where
  entry : MemoryMessage
  source : Source

def Tracked.covered (tracked : Tracked) : List Nat :=
  match tracked.source with
  | .message index => [index]
  | .summary covered => covered

def Tracked.transcribed (tracked : Tracked) : List Nat :=
  if tracked.entry.role = "system" then [] else tracked.covered

def compacted (summary : MemoryMessage) (stored : List Tracked) : List Tracked :=
  ⟨summary, .summary ((oldMessages stored).flatMap Tracked.transcribed)⟩ :: recentMessages stored

structure TrackedMemory where
  stored : List Tracked := []
  added : List MemoryMessage := []

inductive MemoryStep where
  | add (message : MemoryMessage)
  | summarize (generate : String → Except PyError Value)

section Steps

variable (python : Python)

def MemoryStep.apply (messages : List MemoryMessage) : MemoryStep → List MemoryMessage
  | .add message => messages ++ [message]
  | .summarize generate =>
    match maybeSummarize python generate messages with
    | .ok (_, reached) => reached
    | .error _ => messages

namespace TrackedMemory

def entries (memory : TrackedMemory) : List MemoryMessage := memory.stored.map Tracked.entry

def step (memory : TrackedMemory) : MemoryStep → TrackedMemory
  | .add message =>
    { stored := memory.stored ++ [⟨message, .message memory.added.length⟩]
      added := memory.added ++ [message] }
  | .summarize generate =>
    match maybeSummarize python generate memory.entries with
    | .ok (true, summary :: _) => { memory with stored := compacted summary memory.stored }
    | _ => memory

def run (steps : List MemoryStep) : TrackedMemory := steps.foldl (step python) {}

/-- Each message is stored as it was added or covered by a stored summary, and the last ones
are stored in their order. -/
structure Remembers (memory : TrackedMemory) : Prop where
  covered : ∀ index message, memory.added[index]? = some message →
    ⟨message, .message index⟩ ∈ memory.stored ∨
      ∃ entry covered, ⟨entry, .summary covered⟩ ∈ memory.stored ∧ index ∈ covered
  recent : recentMessages memory.entries = recentMessages memory.added

def LosesNothing (memory : TrackedMemory) (step : MemoryStep) : Prop :=
  -- Where the step compacts the list, what gives way holds no system entry: no earlier summary, and
  -- no message of that role.
  ∀ generate reached, step = .summarize generate →
    maybeSummarize python generate memory.entries = .ok (true, reached) →
      ∀ tracked ∈ oldMessages memory.stored, tracked.entry.role ≠ "system"

variable {python}

theorem maybeSummarize_ok (generate : String → Except PyError Value)
    (messages reached : List MemoryMessage) (done : Bool)
    (made : maybeSummarize python generate messages = .ok (done, reached)) :
    (done = false ∧ reached = messages) ∨
      done = true ∧ summarizeThreshold ≤ messages.length ∧ ∃ summary,
        reached =
          summaryEntry summary (oldMessages messages).length :: recentMessages messages := by
  unfold maybeSummarize at made
  split at made
  next short =>
    cases made
    exact .inl ⟨rfl, rfl⟩
  next long =>
    right
    cases summarized : generateSummary python generate (oldMessages messages) with
    | error error =>
      rw [summarized] at made
      cases made
    | ok summary =>
      rw [summarized] at made
      cases made
      exact ⟨rfl, by omega, summary, rfl⟩

theorem recent_map {α β : Type} (view : α → β) (items : List α) :
    recentMessages (items.map view) = (recentMessages items).map view := by
  simp [recentMessages]

theorem step_cases (memory : TrackedMemory) (step : MemoryStep) :
    (∃ message, step = .add message) ∨
      (∃ generate reached summary, step = .summarize generate ∧
        maybeSummarize python generate memory.entries = .ok (true, reached) ∧
        summarizeThreshold ≤ memory.stored.length ∧
        summary.role = "system" ∧
        memory.step python step = { memory with stored := compacted summary memory.stored } ∧
        step.apply python memory.entries = (memory.step python step).entries) ∨
      memory.step python step = memory ∧ step.apply python memory.entries = memory.entries ∧
        ∀ generate reached, step = .summarize generate →
          maybeSummarize python generate memory.entries ≠ .ok (true, reached) := by
  cases step with
  | add message => exact .inl ⟨message, rfl⟩
  | summarize generate =>
    right
    rcases made : maybeSummarize python generate memory.entries with error | ⟨done, reached⟩
    · right
      refine ⟨by simp only [TrackedMemory.step, made], by simp only [MemoryStep.apply, made], ?_⟩
      rintro _ reached ⟨⟩ done
      rw [made] at done
      cases done
    · rcases maybeSummarize_ok generate memory.entries reached done made with
        ⟨rfl, rfl⟩ | ⟨rfl, long, summary, rfl⟩
      · right
        refine ⟨by simp only [TrackedMemory.step, made], by simp only [MemoryStep.apply, made], ?_⟩
        rintro _ reached ⟨⟩ done
        rw [made] at done
        cases done
      · left
        refine ⟨generate, _, summaryEntry summary (oldMessages memory.entries).length, rfl, made,
          by simpa [entries] using long, rfl, ?_, ?_⟩
        · simp only [TrackedMemory.step, made]
        · simp only [TrackedMemory.step, MemoryStep.apply, made]
          simp only [entries, compacted, List.map_cons, recent_map]

theorem step_entries (memory : TrackedMemory) (step : MemoryStep) :
    (memory.step python step).entries = step.apply python memory.entries := by
  rcases @step_cases python memory step with ⟨message, rfl⟩ | ⟨_, _, _, -, -, -, -, -, same⟩ |
    ⟨same, kept, -⟩
  · simp [TrackedMemory.step, MemoryStep.apply, entries]
  · exact same.symm
  · rw [same, kept]

theorem run_entries (steps : List MemoryStep) :
    (run python steps).entries = steps.foldl (MemoryStep.apply python) [] := by
  induction steps using List.reverseRecOn with
  | nil => rfl
  | append_singleton steps step ih =>
    simp only [run, List.foldl_append, List.foldl_cons, List.foldl_nil] at ih ⊢
    rw [step_entries, ih]

def verbatim (added : List MemoryMessage) (start : Nat) : List Tracked :=
  (added.zipIdx.drop start).map fun entry => ⟨entry.1, .message entry.2⟩

variable (added : List MemoryMessage) (start : Nat)

theorem getElem?_verbatim (place : Nat) :
    (verbatim added start)[place]? =
      added[start + place]?.map fun message => ⟨message, .message (start + place)⟩ := by
  simp only [verbatim, List.getElem?_map, List.getElem?_drop, List.getElem?_zipIdx]
  cases added[start + place]? <;> simp

theorem mem_take_verbatim (count : Nat) (tracked : Tracked) :
    tracked ∈ (verbatim added start).take count ↔
      ∃ index message, start ≤ index ∧ index < start + count ∧ added[index]? = some message ∧
        tracked = ⟨message, .message index⟩ := by
  rw [List.mem_iff_getElem?]
  simp only [List.getElem?_take, getElem?_verbatim]
  constructor
  · rintro ⟨place, found⟩
    split_ifs at found with early
    obtain ⟨message, stored, rfl⟩ := Option.map_eq_some_iff.mp found
    exact ⟨start + place, message, by omega, by omega, stored, rfl⟩
  · rintro ⟨index, message, late, early, stored, rfl⟩
    refine ⟨index - start, ?_⟩
    rw [if_pos (by omega), show start + (index - start) = index by omega, stored]
    rfl

theorem length_verbatim : (verbatim added start).length = added.length - start := by
  simp [verbatim]

theorem drop_verbatim (count : Nat) :
    (verbatim added start).drop count = verbatim added (start + count) := by
  simp only [verbatim, ← List.map_drop, List.drop_drop]

theorem verbatim_append (message : MemoryMessage) (start : Nat) (within : start ≤ added.length) :
    verbatim (added ++ [message]) start =
      verbatim added start ++ [⟨message, .message added.length⟩] := by
  simp [verbatim, List.zipIdx_append, List.drop_append_of_le_length, within]

theorem mem_verbatim (tracked : Tracked) :
    tracked ∈ verbatim added start ↔
      ∃ index message, start ≤ index ∧ added[index]? = some message ∧
        tracked = ⟨message, .message index⟩ := by
  rw [← List.take_length (l := verbatim added start), mem_take_verbatim, length_verbatim]
  constructor
  · rintro ⟨index, message, late, -, stored, rfl⟩
    exact ⟨index, message, late, stored, rfl⟩
  · rintro ⟨index, message, late, stored, rfl⟩
    have within := (List.getElem?_eq_some_iff.mp stored).1
    exact ⟨index, message, late, by omega, stored, rfl⟩

theorem entries_verbatim : (verbatim added start).map Tracked.entry = added.drop start := by
  simp only [verbatim, List.map_map]
  change (added.zipIdx.drop start).map Prod.fst = _
  rw [List.map_drop, List.zipIdx_map_fst]

inductive Shape (memory : TrackedMemory) : Prop where
  | whole (stored : memory.stored = verbatim memory.added 0)
  | behind (summary : MemoryMessage) (covered : List Nat) (start : Nat)
      (stored : memory.stored = ⟨summary, .summary covered⟩ :: verbatim memory.added start)
      (role : summary.role = "system") (positive : 0 < start)
      (kept : start + keepRecent ≤ memory.added.length)
      (earlier : ∀ index ∈ covered, index < start)

section Shape

variable {memory : TrackedMemory}

section Shape

variable (shape : Shape memory)

include shape

theorem Shape.recent_eq :
    recentMessages memory.stored =
      verbatim memory.added (memory.added.length - keepRecent) := by
  -- Enough messages behind the summary are stored verbatim for the last ones to be among them.
  cases shape with
  | whole stored =>
    rw [stored, recentMessages, length_verbatim, drop_verbatim]
    congr 1
    omega
  | behind summary covered start stored role positive kept earlier =>
    rw [stored, recentMessages, List.length_cons, length_verbatim]
    obtain ⟨count, counted⟩ : ∃ count, memory.added.length - start + 1 - keepRecent = count + 1 ∧
        start + count = memory.added.length - keepRecent := by
      refine ⟨memory.added.length - start - keepRecent, ?_, ?_⟩ <;>
        simp only [keepRecent] at kept ⊢ <;> omega
    rw [counted.1, List.drop_succ_cons, drop_verbatim, counted.2]

theorem Shape.recent_entries : recentMessages memory.entries = recentMessages memory.added := by
  rw [entries, recent_map, shape.recent_eq, entries_verbatim]
  rfl

theorem Shape.mem_older (tracked : Tracked) (old : tracked ∈ oldMessages memory.stored) :
    tracked.entry.role = "system" ∧ (∃ covered, tracked.source = .summary covered) ∨
      ∃ index message, index + keepRecent < memory.added.length ∧
        memory.added[index]? = some message ∧ tracked = ⟨message, .message index⟩ := by
  cases shape with
  | whole stored =>
    right
    rw [stored, oldMessages, mem_take_verbatim, length_verbatim] at old
    obtain ⟨index, message, -, early, found, rfl⟩ := old
    exact ⟨index, message, by omega, found, rfl⟩
  | behind summary covered start stored role positive kept earlier =>
    rw [stored, oldMessages, List.length_cons, length_verbatim] at old
    obtain ⟨count, counted⟩ : ∃ count, memory.added.length - start + 1 - keepRecent = count + 1 ∧
        start + count + keepRecent = memory.added.length :=
      ⟨memory.added.length - start - keepRecent, by omega, by omega⟩
    rw [counted.1, List.take_succ_cons, List.mem_cons, mem_take_verbatim] at old
    rcases old with rfl | ⟨index, message, -, early, found, rfl⟩
    · exact .inl ⟨role, covered, rfl⟩
    · exact .inr ⟨index, message, by omega, found, rfl⟩

theorem Shape.add (message : MemoryMessage) : Shape (memory.step python (.add message)) := by
  cases shape with
  | whole stored =>
    refine .whole ?_
    simp only [TrackedMemory.step]
    rw [verbatim_append _ _ _ (Nat.zero_le _), stored]
  | behind summary covered start stored role positive kept earlier =>
    refine .behind summary covered start ?_ role positive ?_ earlier
    · simp only [TrackedMemory.step]
      rw [verbatim_append _ _ _ (by omega), stored, List.cons_append]
    · simp only [TrackedMemory.step, List.length_append]
      omega

theorem Shape.length_le : memory.stored.length ≤ memory.added.length := by
  cases shape with
  | whole stored => rw [stored, length_verbatim, Nat.sub_zero]
  | behind summary covered start stored role positive kept earlier =>
    rw [stored, List.length_cons, length_verbatim]
    omega

theorem Shape.compact (long : summarizeThreshold ≤ memory.stored.length) (summary : MemoryMessage)
    (role : summary.role = "system") :
    Shape { memory with stored := compacted summary memory.stored } := by
  have many := shape.length_le
  simp only [summarizeThreshold] at long
  refine .behind summary ((oldMessages memory.stored).flatMap Tracked.transcribed)
    (memory.added.length - keepRecent) ?_ role ?_ ?_ ?_
  · rw [compacted, shape.recent_eq]
  · simp only [keepRecent]
    omega
  · simp only [keepRecent]
    omega
  · intro index covered
    obtain ⟨tracked, old, transcribed⟩ := List.mem_flatMap.mp covered
    unfold Tracked.transcribed at transcribed
    split_ifs at transcribed with system
    · cases transcribed
    rcases shape.mem_older tracked old with ⟨system', -⟩ | ⟨index', message, early, -, rfl⟩
    · exact absurd system' system
    · simp only [Tracked.covered, List.mem_singleton] at transcribed
      omega

theorem Shape.step (step : MemoryStep) : Shape (memory.step python step) := by
  rcases @step_cases python memory step with ⟨message, rfl⟩ |
    ⟨_, _, summary, -, -, long, role, stepped, -⟩ | ⟨same, -, -⟩
  · exact shape.add message
  · exact stepped ▸ shape.compact long summary role
  · rw [same]
    exact shape

end Shape

theorem mem_stored (tracked : Tracked) :
    tracked ∈ memory.stored ↔
      tracked ∈ oldMessages memory.stored ∨ tracked ∈ recentMessages memory.stored := by
  rw [← List.mem_append, oldMessages, recentMessages, List.take_append_drop]

theorem Shape.first_gone (shape : Shape memory) (tracked : Tracked) (covered : List Nat)
    (stored : tracked ∈ memory.stored) (source : tracked.source = .summary covered)
    (message : MemoryMessage) : ⟨message, .message 0⟩ ∉ memory.stored := by
  intro first
  cases shape with
  | whole whole =>
    rw [whole, mem_verbatim] at stored
    obtain ⟨_, _, -, -, rfl⟩ := stored
    cases source
  | behind summary covered' start behind role positive kept earlier =>
    rw [behind, List.mem_cons, mem_verbatim] at first
    rcases first with same | ⟨_, _, late, -, same⟩
    · cases same
    · cases same
      omega

theorem Remembers.step (remembers : Remembers memory) (shape : Shape memory) (step : MemoryStep)
    (careful : LosesNothing python memory step) : Remembers (memory.step python step) := by
  -- What is covered before a step that loses nothing is covered after it.
  refine ⟨?_, (shape.step step).recent_entries⟩
  rcases @step_cases python memory step with ⟨message, rfl⟩ |
    ⟨generate, reached, summary, rfl, made, long, -, stepped, -⟩ | ⟨same, -, -⟩
  · intro index added found
    simp only [TrackedMemory.step, List.mem_append, List.mem_singleton] at found ⊢
    rw [List.getElem?_append] at found
    split_ifs at found with before
    · rcases remembers.covered index added found with stored | ⟨entry, covered, stored, among⟩
      · exact .inl (.inl stored)
      · exact .inr ⟨entry, covered, .inl stored, among⟩
    · have last := (List.getElem?_eq_some_iff.mp found).1
      rw [List.length_singleton] at last
      obtain rfl : index = memory.added.length := by omega
      obtain rfl : message = added := by simpa using found
      exact .inl (.inr rfl)
  · have bare := careful generate reached rfl made
    rw [stepped]
    intro index added found
    simp only [compacted, List.mem_cons, shape.recent_eq]
    by_cases late : memory.added.length - keepRecent ≤ index
    · exact .inl (.inr ((mem_verbatim ..).mpr ⟨index, added, late, found, rfl⟩))
    · refine .inr ⟨_, _, .inl rfl, List.mem_flatMap.mpr ?_⟩
      have old (tracked : Tracked) (stored : tracked ∈ memory.stored)
          (among : index ∈ tracked.covered) : tracked ∈ oldMessages memory.stored := by
        refine ((mem_stored tracked).mp stored).resolve_right fun newest => ?_
        rw [shape.recent_eq, mem_verbatim] at newest
        obtain ⟨_, _, later, -, rfl⟩ := newest
        rw [Tracked.covered, List.mem_singleton] at among
        omega
      have transcribed (tracked : Tracked) (stored : tracked ∈ memory.stored)
          (among : index ∈ tracked.covered) :
          ∃ tracked ∈ oldMessages memory.stored, index ∈ tracked.transcribed := by
        refine ⟨tracked, old tracked stored among, ?_⟩
        rw [Tracked.transcribed, if_neg (bare tracked (old tracked stored among))]
        exact among
      rcases remembers.covered index added found with stored | ⟨entry, covered, stored, among⟩
      · exact transcribed _ stored (List.mem_singleton_self index)
      · exact transcribed _ stored among
  · rw [same]
    exact remembers.covered

theorem covered_compacted (shape : Shape memory) (summary : MemoryMessage)
    (after : Remembers { memory with stored := compacted summary memory.stored })
    (index : Nat) (message : MemoryMessage) (early : index + keepRecent < memory.added.length)
    (found : memory.added[index]? = some message) :
    message.role ≠ "system" ∧ ⟨message, .message index⟩ ∈ oldMessages memory.stored := by
  -- A message that a compaction gives up is covered after it only if it was stored until then,
  -- with another role than that of a summary.
  have newest (tracked : Tracked) (among : tracked ∈ recentMessages memory.stored) :
      ∃ index' message, index < index' ∧ tracked = ⟨message, .message index'⟩ := by
    rw [shape.recent_eq, mem_verbatim] at among
    obtain ⟨index', message, late, -, rfl⟩ := among
    exact ⟨index', message, by omega, rfl⟩
  rcases after.covered index message found with stored | ⟨entry, covered, stored, among⟩ <;>
    rcases List.mem_cons.mp stored with same | last
  · cases same
  · obtain ⟨index', _, later, same⟩ := newest _ last
    cases same
    exact absurd later (lt_irrefl _)
  · cases same
    obtain ⟨tracked, old, transcribed⟩ := List.mem_flatMap.mp among
    unfold Tracked.transcribed at transcribed
    split_ifs at transcribed with system
    · cases transcribed
    rcases shape.mem_older tracked old with ⟨system', -⟩ | ⟨index', message', -, found', rfl⟩
    · exact absurd system' system
    · obtain rfl : index = index' := List.mem_singleton.mp transcribed
      obtain rfl : message = message' := Option.some.inj (found.symm.trans found')
      exact ⟨system, old⟩
  · obtain ⟨_, _, -, same⟩ := newest _ last
    cases same

theorem Shape.losesNothing (shape : Shape memory) (step : MemoryStep)
    (after : Remembers (memory.step python step)) : LosesNothing python memory step := by
  rintro generate reached rfl made tracked old system
  rcases @step_cases python memory (.summarize generate) with ⟨message, other⟩ |
    ⟨_, _, summary, -, -, long, -, stepped, -⟩ | ⟨-, -, never⟩
  · cases other
  · rw [stepped] at after
    have many := shape.length_le
    simp only [summarizeThreshold] at long
    rcases shape.mem_older tracked old with
      ⟨-, covered, source⟩ | ⟨index, message, early, found, rfl⟩
    · have first : 0 < memory.added.length := by omega
      have kept := covered_compacted shape _ after 0 _ (by simp only [keepRecent]; omega)
        (List.getElem?_eq_getElem first)
      exact shape.first_gone tracked covered ((mem_stored tracked).mpr (.inl old)) source _
        ((mem_stored _).mpr (.inl kept.2))
    · exact (covered_compacted shape _ after index message early found).1 system
  · exact never generate reached rfl made

end Shape

variable (steps : List MemoryStep)

theorem run_append (step : MemoryStep) :
    run python (steps ++ [step]) = (run python steps).step python step := by
  simp only [run, List.foldl_append, List.foldl_cons, List.foldl_nil]

theorem shape_run : Shape (run python steps) := by
  induction steps using List.reverseRecOn with
  | nil => exact .whole rfl
  | append_singleton steps step ih =>
    rw [run_append]
    exact ih.step step

/-- Every message is remembered throughout exactly if no compaction finds a system entry among
those that it gives up. -/
theorem history_remembered_iff (python : Python) (steps : List MemoryStep) :
    (∀ before, before <+: steps → Remembers (run python before)) ↔
      ∀ before step, before ++ [step] <+: steps → LosesNothing python (run python before) step := by
  constructor
  · intro remembers before step early
    have after := remembers (before ++ [step]) early
    rw [run_append] at after
    exact (shape_run before).losesNothing step after
  · intro careful before
    induction before using List.reverseRecOn with
    | nil => exact fun _ => ⟨nofun, rfl⟩
    | append_singleton before step ih =>
      intro early
      have earlier := (List.prefix_append before [step]).trans early
      rw [run_append]
      exact (ih earlier).step (shape_run before) step (careful before step early)

end TrackedMemory

end Steps

def longConversation : List MemoryStep :=
  let hello : MemoryStep := .add ⟨"user", "Hello?", []⟩
  let summarize : MemoryStep :=
    .summarize fun _ => .ok (.dict [("content", .str "The customer says hello.")])
  List.replicate 20 hello ++ [summarize] ++ List.replicate 13 hello ++ [summarize]

/-- The second summary knows nothing of the first one. -/
theorem first_message_forgotten :
    ¬∀ before, before <+: longConversation →
      (TrackedMemory.run (.reading .none) before).Remembers := by
  intro remembers
  have covered := (remembers longConversation (List.prefix_refl _)).covered 0 ⟨"user", "Hello?", []⟩
    (by rfl)
  have gone : ((TrackedMemory.run (.reading .none) longConversation).stored.any fun tracked =>
      decide (0 ∈ tracked.covered)) = false := by
    decide +kernel
  rw [List.any_eq_false] at gone
  rcases covered with stored | ⟨entry, covered, stored, among⟩
  · exact gone _ stored (by simp [Tracked.covered])
  · exact gone _ stored (decide_eq_true among)

end HelpForge.Chatbot
