import HelpForge.Chatbot.Memory.Summarizer
import HelpForge.Lib.History

set_option autoImplicit false

namespace HelpForge.Chatbot

open Lib

inductive MemoryCall where
  | add (message : MemoryMessage)
  | count (generate : String → Except PyError Value)
  | fetch (generate : String → Except PyError Value)
  -- The summary of what was read is there, and has yet to replace the list.
  | replace (read : TrackedMemory) (summary : MemoryMessage)
  | finished (result : Except PyError Bool)

namespace MemoryCall

def advance (python : Python) : MemoryCall → TrackedMemory → Option (MemoryCall × TrackedMemory)
  | .add message, memory =>
    some (.finished (.ok false),
      { stored := memory.stored ++ [⟨message, .message memory.added.length⟩]
        added := memory.added ++ [message] })
  | .count generate, memory =>
    if memory.stored.length < summarizeThreshold then some (.finished (.ok false), memory)
    else some (.fetch generate, memory)
  | .fetch generate, memory =>
    match generateSummary python generate (oldMessages memory.entries) with
    | .ok summary =>
      some (.replace memory (summaryEntry summary (oldMessages memory.entries).length), memory)
    | .error error => some (.finished (.error error), memory)
  | .replace read summary, memory =>
    some (.finished (.ok true), { memory with stored := compacted summary read.stored })
  | .finished _, _ => none

inductive Begins : MemoryCall → Prop where
  | add (message : MemoryMessage) : Begins (.add message)
  | summarize (generate : String → Except PyError Value) : Begins (.count generate)

def complete (python : Python) : Nat → MemoryCall → TrackedMemory → TrackedMemory
  -- The call by itself, for as many commands.
  | 0, _, memory => memory
  | commands + 1, call, memory =>
    match call.advance python memory with
    | some (next, reached) => complete python commands next reached
    | none => memory

end MemoryCall

section Calls

variable {κ : Type} [DecidableEq κ] (python : Python)

abbrev MemoryPool (κ : Type) := Pool κ TrackedMemory MemoryCall

def memorySystem : Pool.System κ TrackedMemory MemoryCall where
  advance := MemoryCall.advance python
  begins := fun _ _ call => call.Begins
  environment := fun _ _ => False

def Timely (pool : MemoryPool κ) (_ : κ) (call : MemoryCall) : Prop :=
  -- Since the list was read nothing has been added, and what gives way holds no system entry.
  ∀ read summary, call = .replace read summary →
    read.added = pool.state.added ∧
      ∀ tracked ∈ oldMessages read.stored, tracked.entry.role ≠ "system"

end Calls

namespace TrackedMemory

def KeepsAll (memory : TrackedMemory) : Prop :=
  -- Every message is stored, or a stored summary was made of it.
  ∀ index message, memory.added[index]? = some message →
    ⟨message, .message index⟩ ∈ memory.stored ∨
      ∃ entry covered, ⟨entry, .summary covered⟩ ∈ memory.stored ∧ index ∈ covered

def held (memory : TrackedMemory) : List Nat := memory.stored.flatMap Tracked.covered

/-- No message is held twice, and the messages that are stored are those that were added. -/
structure Sound (memory : TrackedMemory) : Prop where
  once : memory.held.Nodup
  known : ∀ index ∈ memory.held, index < memory.added.length
  same : ∀ entry index, ⟨entry, .message index⟩ ∈ memory.stored → memory.added[index]? = some entry

variable {memory : TrackedMemory}

theorem keepsAll_iff (sound : memory.Sound) :
    memory.KeepsAll ↔ ∀ index < memory.added.length, index ∈ memory.held := by
  constructor
  · intro keeps index within
    apply List.mem_flatMap.mpr
    rcases keeps index _ (List.getElem?_eq_getElem within) with stored | ⟨_, _, stored, among⟩
    · exact ⟨_, stored, List.mem_singleton_self index⟩
    · exact ⟨_, stored, among⟩
  · intro all index message found
    have within := (List.getElem?_eq_some_iff.mp found).1
    obtain ⟨⟨entry, source⟩, stored, among⟩ := List.mem_flatMap.mp (all index within)
    cases source with
    | message other =>
      obtain rfl : index = other := List.mem_singleton.mp among
      have same := sound.same entry index stored
      rw [found] at same
      cases same
      exact .inl stored
    | summary covered => exact .inr ⟨entry, covered, stored, among⟩

theorem Sound.add (sound : memory.Sound) (message : MemoryMessage) :
    Sound { stored := memory.stored ++ [⟨message, .message memory.added.length⟩]
            added := memory.added ++ [message] } where
  once := by
    have fresh : memory.added.length ∉ memory.held := fun among =>
      lt_irrefl _ (sound.known _ among)
    rw [held, List.flatMap_append, List.nodup_append]
    refine ⟨sound.once, by simp [Tracked.covered], ?_⟩
    intro index among other last
    obtain rfl : other = memory.added.length := by simpa [Tracked.covered] using last
    rintro rfl
    exact fresh among
  known := by
    intro index among
    simp only [held, List.flatMap_append, List.mem_append] at among
    rw [List.length_append, List.length_singleton]
    rcases among with before | last
    · have within := sound.known index before
      omega
    · obtain rfl : index = memory.added.length := by simpa [Tracked.covered] using last
      omega
  same := by
    intro entry index stored
    rcases List.mem_append.mp stored with before | last
    · have found := sound.same entry index before
      rw [List.getElem?_append_left (List.getElem?_eq_some_iff.mp found).1]
      exact found
    · cases List.mem_singleton.mp last
      simp

theorem transcribed_sublist (tracked : List Tracked) :
    (tracked.flatMap Tracked.transcribed).Sublist (tracked.flatMap Tracked.covered) := by
  induction tracked with
  | nil => exact .refl _
  | cons first rest ih =>
    rw [List.flatMap_cons, List.flatMap_cons]
    apply List.Sublist.append _ ih
    unfold Tracked.transcribed
    split_ifs
    · exact List.nil_sublist _
    · exact .refl _

variable (read : List Tracked) (summary : MemoryMessage) (added : List MemoryMessage)

theorem held_compacted :
    List.Sublist (held { stored := compacted summary read, added })
      (read.flatMap Tracked.covered) := by
  have whole : read.flatMap Tracked.covered =
      (oldMessages read).flatMap Tracked.covered ++
        (recentMessages read).flatMap Tracked.covered := by
    rw [← List.flatMap_append, oldMessages, recentMessages, List.take_append_drop]
  rw [whole]
  exact (transcribed_sublist _).append (.refl _)

theorem Sound.compacted (sound : memory.Sound) (summary : MemoryMessage)
    (added : List MemoryMessage) (grown : memory.added <+: added) :
    Sound { stored := compacted summary memory.stored, added } where
  once := sound.once.sublist (held_compacted memory.stored summary added)
  known := by
    intro index among
    have within := sound.known index ((held_compacted memory.stored summary added).subset among)
    exact lt_of_lt_of_le within grown.length_le
  same := by
    intro entry index stored
    rcases List.mem_cons.mp stored with first | recent
    · cases first
    · obtain ⟨later, rfl⟩ := grown
      have found := sound.same entry index (List.mem_of_mem_drop recent)
      rw [List.getElem?_append_left (List.getElem?_eq_some_iff.mp found).1]
      exact found

theorem held_of_bare (bare : ∀ tracked ∈ oldMessages read, tracked.entry.role ≠ "system")
    (index : Nat) (among : index ∈ read.flatMap Tracked.covered) :
    index ∈ held { stored := compacted summary read, added } := by
  obtain ⟨tracked, stored, within⟩ := List.mem_flatMap.mp among
  apply List.mem_flatMap.mpr
  rcases (@mem_stored ⟨read, added⟩ tracked).mp stored with old | recent
  · refine ⟨_, List.mem_cons_self .., List.mem_flatMap.mpr ⟨tracked, old, ?_⟩⟩
    rw [Tracked.transcribed, if_neg (bare tracked old)]
    exact within
  · exact ⟨tracked, List.mem_cons_of_mem _ recent, within⟩

end TrackedMemory

section Runs

variable {κ : Type} [DecidableEq κ] {python : Python}

structure SoundPool (pool : MemoryPool κ) : Prop where
  now : pool.state.Sound
  read : ∀ call read summary, pool.calls call = some (.replace read summary) →
    read.Sound ∧ read.added <+: pool.state.added

structure FullPool (pool : MemoryPool κ) : Prop where
  sound : SoundPool pool
  now : pool.state.KeepsAll
  read : ∀ call read summary, pool.calls call = some (.replace read summary) → read.KeepsAll

theorem advance_cases {call next : MemoryCall} {memory reached : TrackedMemory}
    (advanced : call.advance python memory = some (next, reached)) :
    (∃ message, call = .add message ∧ next = .finished (.ok false) ∧
      reached = { stored := memory.stored ++ [⟨message, .message memory.added.length⟩]
                  added := memory.added ++ [message] }) ∨
    (∃ read summary, call = .replace read summary ∧ next = .finished (.ok true) ∧
      reached = { memory with stored := compacted summary read.stored }) ∨
    (reached = memory ∧ ∀ read summary, next = .replace read summary → read = memory) := by
  cases call with
  | add message =>
    cases advanced
    exact .inl ⟨message, rfl, rfl, rfl⟩
  | count generate =>
    right; right
    simp only [MemoryCall.advance] at advanced
    split_ifs at advanced <;> cases advanced <;> exact ⟨rfl, nofun⟩
  | fetch generate =>
    right; right
    simp only [MemoryCall.advance] at advanced
    split at advanced <;> cases advanced
    · refine ⟨rfl, ?_⟩
      rintro read summary ⟨⟩
      rfl
    · exact ⟨rfl, nofun⟩
  | replace read summary =>
    cases advanced
    exact .inr (.inl ⟨read, summary, rfl, rfl, rfl⟩)
  | finished result => cases advanced

theorem SoundPool.step {allowed : MemoryPool κ → κ → MemoryCall → Prop}
    {pool reached : MemoryPool κ} (sound : SoundPool pool)
    (stepped : Pool.Step (memorySystem python) allowed pool reached) : SoundPool reached := by
  cases stepped with
  | start call process unused begun =>
    refine ⟨sound.now, ?_⟩
    intro other read summary running
    rcases (Pool.put_eq_some ..).mp running with ⟨-, rfl⟩ | ⟨-, before⟩
    · cases begun
    · exact sound.read other read summary before
  | statement call process next state running permitted advanced =>
    have others (grown : pool.state.added <+: state.added) (other : κ) (read : TrackedMemory)
        (summary : MemoryMessage) (before : pool.calls other = some (.replace read summary)) :
        read.Sound ∧ read.added <+: state.added :=
      ⟨(sound.read other read summary before).1,
        (sound.read other read summary before).2.trans grown⟩
    rcases advance_cases advanced with
      ⟨message, rfl, rfl, rfl⟩ | ⟨read, summary, rfl, rfl, rfl⟩ | ⟨rfl, reads⟩
    · refine ⟨sound.now.add message, ?_⟩
      intro other read summary waiting
      rcases (Pool.put_eq_some ..).mp waiting with ⟨-, same⟩ | ⟨-, before⟩
      · cases same
      · exact others (List.prefix_append _ _) other read summary before
    · obtain ⟨before, grown⟩ := sound.read call read summary running
      refine ⟨before.compacted summary _ grown, ?_⟩
      intro other read' summary' waiting
      rcases (Pool.put_eq_some ..).mp waiting with ⟨-, same⟩ | ⟨-, before⟩
      · cases same
      · exact others (List.prefix_refl _) other read' summary' before
    · refine ⟨sound.now, ?_⟩
      intro other read summary waiting
      rcases (Pool.put_eq_some ..).mp waiting with ⟨-, same⟩ | ⟨-, before⟩
      · obtain rfl := reads read summary same.symm
        exact ⟨sound.now, List.prefix_refl _⟩
      · exact others (List.prefix_refl _) other read summary before
  | outside state moved => cases moved

theorem FullPool.step {pool reached : MemoryPool κ} (full : FullPool pool)
    (stepped : Pool.Step (memorySystem python) Timely pool reached) : FullPool reached := by
  have sound := full.sound.step stepped
  cases stepped with
  | start call process unused begun =>
    refine ⟨sound, full.now, ?_⟩
    intro other read summary running
    rcases (Pool.put_eq_some ..).mp running with ⟨-, rfl⟩ | ⟨-, before⟩
    · cases begun
    · exact full.read other read summary before
  | statement call process next state running permitted advanced =>
    rcases advance_cases advanced with
      ⟨message, rfl, rfl, rfl⟩ | ⟨read, summary, rfl, rfl, rfl⟩ | ⟨rfl, reads⟩
    · refine ⟨sound, ?_, ?_⟩
      · have before := (TrackedMemory.keepsAll_iff full.sound.now).mp full.now
        apply (TrackedMemory.keepsAll_iff sound.now).mpr
        intro index within
        simp only [TrackedMemory.held, List.flatMap_append, List.mem_append]
        rw [List.length_append, List.length_singleton] at within
        by_cases earlier : index < pool.state.added.length
        · exact .inl (before index earlier)
        · obtain rfl : index = pool.state.added.length := by omega
          exact .inr (by simp [Tracked.covered])
      · intro other read summary waiting
        rcases (Pool.put_eq_some ..).mp waiting with ⟨-, same⟩ | ⟨-, before⟩
        · cases same
        · exact full.read other read summary before
    · -- The list that was read held every message, and none has been added since.
      obtain ⟨unchanged, bare⟩ := permitted read summary rfl
      have whole := (TrackedMemory.keepsAll_iff (full.sound.read call read summary running).1).mp
        (full.read call read summary running)
      refine ⟨sound, ?_, ?_⟩
      · apply (TrackedMemory.keepsAll_iff sound.now).mpr
        intro index within
        exact TrackedMemory.held_of_bare read.stored summary _ bare index
          (whole index (by rw [unchanged]; exact within))
      · intro other read' summary' waiting
        rcases (Pool.put_eq_some ..).mp waiting with ⟨-, same⟩ | ⟨-, before⟩
        · cases same
        · exact full.read other read' summary' before
    · refine ⟨sound, full.now, ?_⟩
      intro other read summary waiting
      rcases (Pool.put_eq_some ..).mp waiting with ⟨-, same⟩ | ⟨-, before⟩
      · obtain rfl := reads read summary same.symm
        exact full.now
      · exact full.read other read summary before
  | outside state moved => cases moved

omit [DecidableEq κ] in
theorem idle_sound : SoundPool (Pool.idle {} : MemoryPool κ) := by
  refine ⟨⟨List.nodup_nil, nofun, nofun⟩, ?_⟩
  intro call read summary waiting
  cases waiting

omit [DecidableEq κ] in
theorem idle_full : FullPool (Pool.idle {} : MemoryPool κ) := by
  refine ⟨idle_sound, nofun, ?_⟩
  intro call read summary waiting
  cases waiting

end Runs

/-- A compaction that nothing comes between is the one step of `maybe_summarize`. -/
theorem complete_summarize (python : Python) (generate : String → Except PyError Value)
    (memory : TrackedMemory) :
    (MemoryCall.count generate).complete python 3 memory =
      memory.step python (.summarize generate) := by
  by_cases short : memory.stored.length < summarizeThreshold
  · simp [MemoryCall.complete, MemoryCall.advance, TrackedMemory.step, maybeSummarize,
      TrackedMemory.entries, short]
  · have long : ¬memory.entries.length < summarizeThreshold := by
      simpa [TrackedMemory.entries] using short
    cases answered : generateSummary python generate (oldMessages memory.entries) with
    | error error =>
      simp only [MemoryCall.complete, MemoryCall.advance, TrackedMemory.step, maybeSummarize,
        short, long, if_false, answered]
      rfl
    | ok summary =>
      simp only [MemoryCall.complete, MemoryCall.advance, TrackedMemory.step, maybeSummarize,
        short, long, if_false, answered]
      rfl

/-- In a run whose compactions are all timely, every message that was added is stored once, or
in the transcript of one summary. -/
theorem timely_compaction_keeps (κ : Type) [DecidableEq κ] (python : Python)
    (pool : MemoryPool κ)
    (run : Pool.Run (memorySystem python) Timely (Pool.idle {}) pool) :
    pool.state.KeepsAll ∧ pool.state.held.Nodup := by
  have full := run.invariant (fun _ _ full stepped => full.step stepped) idle_full
  exact ⟨full.now, full.sound.now.once⟩

def greeted : Nat → MemoryCall := fun call =>
  if call < 20 then .add ⟨"user", "Hello?", []⟩
  else if call = 20 then .count fun _ => .ok (.dict [("content", .str "The customer greets.")])
  else .add ⟨"user", "Where is my order?", []⟩

theorem greeted_begins (call : Nat) : (greeted call).Begins := by
  unfold greeted
  split_ifs
  · exact .add _
  · exact .summarize _
  · exact .add _

def inOrder (calls : List Nat) : MemoryPool Nat :=
  -- The calls take their turns in this order.
  Pool.play (MemoryCall.advance (.reading .none)) greeted (calls.map .turn) (Pool.idle {})

def greetings : List Nat := (List.range 20).flatMap fun call => [call, call]

variable (calls : List Nat)

theorem inOrder_run :
    Pool.Run (memorySystem (.reading .none)) Pool.anyStatement (Pool.idle {}) (inOrder calls) := by
  apply Pool.play_run (fun _ call => greeted_begins call)
  · simp
  · exact Pool.permits_any ..

def timely (pool : MemoryPool Nat) (call : Nat) : Bool :=
  match pool.calls call with
  | some (.replace read _) =>
    read.added.length == pool.state.added.length &&
      (oldMessages read.stored).all fun tracked => tracked.entry.role != "system"
  | _ => true

def allTimely : List Nat → MemoryPool Nat → Bool
  | [], _ => true
  | call :: rest, pool =>
    timely pool call &&
      allTimely rest (Pool.turn (MemoryCall.advance (.reading .none)) greeted pool call)

theorem timely_run (pool : MemoryPool Nat) (sound : SoundPool pool)
    (checked : allTimely calls pool = true) :
    Pool.Run (memorySystem (.reading .none)) Timely pool
      (Pool.play (MemoryCall.advance (.reading .none)) greeted (calls.map .turn) pool) := by
  induction calls generalizing pool with
  | nil => exact .refl
  | cons call rest ih =>
    obtain ⟨now, later⟩ := (Bool.and_eq_true ..).mp checked
    have turned : Pool.Run (memorySystem (.reading .none)) Timely pool
        (Pool.turn (MemoryCall.advance (.reading .none)) greeted pool call) := by
      apply Pool.turn_run fun _ call => greeted_begins call
      rintro _ running read summary rfl
      rw [timely, running] at now
      obtain ⟨long, bare⟩ := (Bool.and_eq_true ..).mp now
      refine ⟨(sound.read call read summary running).2.eq_of_length (by simpa using long), ?_⟩
      simpa using bare
    exact turned.trans (ih _ (turned.invariant (fun _ _ sound stepped => sound.step stepped) sound)
      later)

def questionLast : List Nat := greetings ++ [20, 20, 20, 20, 21, 21]

theorem greetings_summarised :
    (inOrder questionLast).state.stored.length = 8 ∧
      (inOrder questionLast).state.added.length = 21 ∧
      (inOrder questionLast).state.KeepsAll ∧ (inOrder questionLast).state.held.Nodup := by
  have run := timely_run questionLast (Pool.idle {}) idle_sound (by decide +kernel)
  exact ⟨by decide +kernel, by decide +kernel,
    timely_compaction_keeps Nat (.reading .none) _ run⟩

/-- The question arrives while the summary is being made. -/
theorem question_lost :
    ¬∀ pool : MemoryPool Nat,
      Pool.Run (memorySystem (.reading .none)) Pool.anyStatement (Pool.idle {}) pool →
        pool.state.KeepsAll ∧ pool.state.held.Nodup := by
  intro kept
  let pool := inOrder (greetings ++ [20, 20, 20, 21, 21, 20])
  obtain ⟨keeps, -⟩ := kept pool (inOrder_run _)
  have sound : pool.state.Sound :=
    ((inOrder_run _).invariant (fun _ _ sound stepped => sound.step stepped) idle_sound).now
  have held := (TrackedMemory.keepsAll_iff sound).mp keeps 20 (by decide +kernel)
  exact absurd held (by decide +kernel)

end HelpForge.Chatbot
