import HelpForge.Chatbot.Vectors.Effects
import HelpForge.Lib.Within

set_option autoImplicit false

namespace HelpForge.Chatbot

open Lib Embedder

variable {text : String} {index : Nat}

namespace CachedEmbedding

variable {Vector : Type} (services : IndexServices Vector)
  (endpoint : List String → List Vector)

abbrev EmbeddingCall (Vector α : Type) := Program (IndexState Vector) PyError α

def readCache : List String → Nat → List (Option Vector) → List (String × Nat) →
    EmbeddingCall Vector (List (Option Vector) × List (String × Nat))
  | [], _, results, uncached => pure (results, uncached)
  | text :: rest, index, results, uncached => do
    let raw ← Program.reads fun state => cached services state text
    match raw with
    | some vector => readCache rest (index + 1) (results.set index (some vector)) uncached
    | none => readCache rest (index + 1) results (uncached ++ [(text, index)])

/-- `results[orig_idx] = vector` for each text that was missing. -/
def scatter (results : List (Option Vector)) (entries : List ((String × Nat) × Vector)) :
    List (Option Vector) :=
  entries.foldl (fun results entry => results.set entry.1.2 (some entry.2)) results

def writeVectors (entries : List ((String × Nat) × Vector)) (state : IndexState Vector) :
    IndexState Vector :=
  { state with
    cache := entries.foldl
      (fun cache entry =>
        cache.setex state.now cacheTtlSeconds (cacheKey services entry.1.1) entry.2)
      state.cache }

def embedMany (texts : List String) : EmbeddingCall Vector (List (Option Vector)) := do
  let (results, uncached) ← readCache services texts 0 (texts.map fun _ => none) []
  if uncached.isEmpty then return results
  else
    let vectors := endpoint (uncached.map Prod.fst)
    Program.modify (writeVectors services (uncached.zip vectors))
    return scatter results (uncached.zip vectors)

def embedOne (text : String) : EmbeddingCall Vector (Option Vector) := do
  match ← embedMany services endpoint [text] with
  | vector :: _ => pure vector
  | [] => Program.fail ⟨"IndexError", "list index out of range"⟩

section Pending

variable (model : String → Vector)

structure Pending (texts : List String) (results : List (Option Vector))
    (entries : List (String × Nat)) : Prop where
  length : results.length = texts.length
  filled : ∀ index text, texts[index]? = some text →
    results[index]? = some (some (model text)) ∨ (text, index) ∈ entries
  placed : ∀ entry ∈ entries, texts[entry.2]? = some entry.1

variable {model} {texts : List String} {results : List (Option Vector)}
  {entries : List (String × Nat)}

theorem Pending.start (texts : List String) :
    Pending model texts (texts.map fun _ => none) texts.zipIdx := by
  constructor
  · simp
  · intro index text found
    exact .inr (List.mk_mem_zipIdx_iff_getElem?.mpr found)
  · intro entry among
    exact List.mem_zipIdx_iff_getElem?.mp among

theorem Pending.set {others : List (String × Nat)} (pending : Pending model texts results entries)
    (own : (text, index) ∈ entries) (fewer : ∀ entry ∈ others, entry ∈ entries)
    (left : ∀ entry ∈ entries, entry = (text, index) ∨ entry ∈ others) :
    Pending model texts (results.set index (some (model text))) others := by
  have place : texts[index]? = some text := pending.placed _ own
  constructor
  · rw [List.length_set, pending.length]
  · intro other text' found
    by_cases same : index = other
    · subst same
      rw [place] at found
      cases found
      have inside := (List.getElem?_eq_some_iff.mp place).1
      left
      rw [List.getElem?_set_self (by rw [pending.length]; exact inside)]
    · rw [List.getElem?_set_ne same]
      rcases pending.filled other text' found with done | waiting
      · exact .inl done
      · rcases left _ waiting with same' | still
        · cases same'
          exact absurd rfl same
        · exact .inr still
  · intro entry among
    exact pending.placed entry (fewer entry among)

theorem Pending.done (pending : Pending model texts results []) :
    results = texts.map fun text => some (model text) := by
  apply List.ext_getElem?
  intro index
  rw [List.getElem?_map]
  cases found : texts[index]? with
  | none =>
    rw [List.getElem?_eq_none_iff, ← pending.length] at found
    rw [List.getElem?_eq_none found]
    rfl
  | some text =>
    rcases pending.filled index text found with done | waiting
    · exact done
    · cases waiting

theorem Pending.scatter (pending : Pending model texts results entries) :
    scatter results (entries.zip (entries.map fun entry => model entry.1)) =
      texts.map fun text => some (model text) := by
  induction entries generalizing results with
  | nil => exact pending.done
  | cons entry rest ih =>
    obtain ⟨text, index⟩ := entry
    apply ih
    apply pending.set (List.mem_cons_self ..)
    · intro other among
      exact List.mem_cons_of_mem _ among
    · intro other among
      exact List.mem_cons.mp among

end Pending

section Shared

variable (model : String → Vector) (known : String → Prop)

def Faithful (state : IndexState Vector) : Prop :=
  ∀ text vector ends, known text →
    state.cache.entry (cacheKey services text) = some (vector, ends) → vector = model text

/-- No two of the texts have the same key. -/
def Distinct : Prop :=
  ∀ one other, known one → known other → cacheKey services one = cacheKey services other →
    one = other

/-- Entries are only dropped; the clock may go anywhere. -/
def Expires (state reached : IndexState Vector) : Prop :=
  ∀ key vector ends, reached.cache.entry key = some (vector, ends) →
    ∃ before, state.cache.entry key = some (vector, before)

def FaithfulNow (seen : List (IndexState Vector)) : Prop :=
  ∀ state, seen.head? = some state → Faithful services model known state

variable {services endpoint model known} {state reached : IndexState Vector}

theorem Faithful.cached (faithful : Faithful services model known state) (asked : known text)
    {vector : Vector} (found : cached services state text = some vector) : vector = model text := by
  unfold Embedder.cached Expiring.get at found
  obtain ⟨stored, there, shown⟩ := Option.bind_eq_some_iff.mp found
  split_ifs at shown
  cases shown
  exact faithful text stored.1 stored.2 asked there

theorem Faithful.expires (faithful : Faithful services model known state)
    (expires : Expires state reached) : Faithful services model known reached := by
  intro text vector ends asked found
  obtain ⟨before, there⟩ := expires _ vector ends found
  exact faithful text vector before asked there

theorem Faithful.write (distinct : Distinct services known)
    (faithful : Faithful services model known state) (entries : List (String × Nat))
    (asked : ∀ entry ∈ entries, known entry.1) :
    Faithful services model known (writeVectors services
      (entries.zip (entries.map fun entry => model entry.1)) state) := by
  have written (cache : Expiring String Vector)
      (before : ∀ text vector ends, known text →
        cache.entry (cacheKey services text) = some (vector, ends) → vector = model text) :
      ∀ text vector ends, known text →
        ((entries.zip (entries.map fun entry => model entry.1)).foldl
          (fun cache entry => cache.setex state.now cacheTtlSeconds (cacheKey services entry.1.1)
            entry.2) cache).entry (cacheKey services text) = some (vector, ends) →
        vector = model text := by
    induction entries generalizing cache with
    | nil => exact before
    | cons entry rest ih =>
      apply ih fun other among => asked other (List.mem_cons_of_mem _ among)
      intro text vector ends wanted found
      rcases Expiring.entry_of_setex found with ⟨key, stored⟩ | old
      · cases stored
        rw [distinct text entry.1 wanted (asked entry (List.mem_cons_self ..)) key]
      · exact before text vector ends wanted old
  exact written state.cache faithful

def Gives {α : Type} (fact : α → Prop) (_ : List (IndexState Vector)) (result : Except PyError α) :
    Prop :=
  ∃ value, result = .ok value ∧ fact value

theorem readCache_upholds {texts rest : List String} {results : List (Option Vector)}
    {uncached : List (String × Nat)}
    (pending : Pending model texts results (uncached ++ rest.zipIdx index))
    (asked : ∀ text ∈ rest, known text) (seen : List (IndexState Vector)) :
    (readCache services rest index results uncached).Upholds (FaithfulNow services model known)
      (Gives fun found => Pending model texts found.1 found.2) seen := by
  induction rest generalizing index results uncached seen with
  | nil =>
    apply Program.Upholds.pure
    exact ⟨_, rfl, by simpa using pending⟩
  | cons text rest ih =>
    have read : (Program.reads fun state => cached services state text :
        EmbeddingCall Vector (Option Vector)).Upholds (FaithfulNow services model known)
        (Gives fun raw => ∀ vector, raw = some vector → vector = model text) seen := by
      apply Program.Upholds.reads
      · intro state past grown faithful other same
        exact faithful other same
      · intro state past grown faithful
        refine ⟨_, rfl, ?_⟩
        intro vector found
        exact (faithful state rfl).cached (asked text (List.mem_cons_self ..)) found
    have later_asked : ∀ other ∈ rest, known other := fun other among =>
      asked other (List.mem_cons_of_mem _ among)
    apply Program.Upholds.bind read
    · rintro raw later grown ⟨_, ⟨⟩, faithful⟩
      cases raw with
      | some vector =>
        rw [faithful vector rfl]
        -- A hit fills the place of its text.
        apply ih _ later_asked
        apply pending.set (by simp)
        · intro entry among
          rw [List.mem_append] at among ⊢
          exact among.imp_right (List.mem_cons_of_mem _)
        · intro entry among
          simpa [or_left_comm] using among
      | none =>
        apply ih _ later_asked
        simpa using pending
    · rintro failure later grown ⟨value, ⟨⟩, -⟩

theorem embedMany_upholds (distinct : Distinct services known)
    (answers : ∀ texts, endpoint texts = texts.map model) (texts : List String)
    (asked : ∀ text ∈ texts, known text) (seen : List (IndexState Vector)) :
    (embedMany services endpoint texts).Upholds (FaithfulNow services model known)
      (Gives fun results => results = texts.map fun text => some (model text)) seen := by
  have begun : Pending model texts (texts.map fun _ => none) ([] ++ texts.zipIdx 0) :=
    Pending.start texts
  apply Program.Upholds.bind (readCache_upholds begun asked seen)
  · rintro ⟨results, uncached⟩ later grown ⟨_, ⟨⟩, pending⟩
    dsimp only
    split_ifs with complete
    · apply Program.Upholds.pure
      rw [List.isEmpty_iff.mp complete] at pending
      exact ⟨_, rfl, pending.done⟩
    · have vectors : endpoint (uncached.map Prod.fst) = uncached.map fun entry => model entry.1 := by
        rw [answers, List.map_map]
        rfl
      rw [vectors]
      have written : (Program.modify (writeVectors services
          (uncached.zip (uncached.map fun entry => model entry.1))) :
          EmbeddingCall Vector Unit).Upholds (FaithfulNow services model known) (Gives fun _ => True)
          later := by
        apply Program.Upholds.modify
        intro state past more faithful
        constructor
        · rintro other ⟨⟩
          apply (faithful state rfl).write distinct uncached
          intro entry among
          exact asked entry.1 (List.mem_of_getElem? (pending.placed entry among))
        · exact ⟨(), rfl, trivial⟩
      apply Program.Upholds.bind written
      · rintro _ last more -
        apply Program.Upholds.pure
        exact ⟨_, rfl, pending.scatter⟩
      · rintro failure last more ⟨value, ⟨⟩, -⟩
  · rintro failure later grown ⟨value, ⟨⟩, -⟩

/-- The two entry points, each with the vectors that it returns. -/
inductive EmbedCall where
  | many (texts : List String)
  | one (text : String)

def EmbedCall.texts : EmbedCall → List String
  | .many texts => texts
  | .one text => [text]

variable (services endpoint) in
def EmbedCall.program : EmbedCall → EmbeddingCall Vector (List (Option Vector))
  | .many texts => embedMany services endpoint texts
  | .one text => do return [← embedOne services endpoint text]

theorem EmbedCall.upholds (distinct : Distinct services known)
    (answers : ∀ texts, endpoint texts = texts.map model) (call : EmbedCall)
    (asked : ∀ text ∈ call.texts, known text) (seen : List (IndexState Vector)) :
    (call.program services endpoint).Upholds (FaithfulNow services model known)
      (Gives fun results => results = call.texts.map fun text => some (model text)) seen := by
  cases call with
  | many texts => exact embedMany_upholds distinct answers texts asked seen
  | one text =>
    have single : (embedOne services endpoint text).Upholds (FaithfulNow services model known)
        (Gives fun result => result = some (model text)) seen := by
      apply Program.Upholds.bind (embedMany_upholds distinct answers [text] asked seen)
      · rintro results later grown ⟨_, ⟨⟩, rfl⟩
        exact Program.Upholds.pure ⟨_, rfl, rfl⟩
      · rintro failure later grown ⟨value, ⟨⟩, -⟩
    apply Program.Upholds.bind single
    · rintro result later grown ⟨_, ⟨⟩, rfl⟩
      exact Program.Upholds.pure ⟨_, rfl, rfl⟩
    · rintro failure later grown ⟨value, ⟨⟩, -⟩

theorem readCache_within (rest : List String) (index : Nat) (results : List (Option Vector))
    (uncached : List (String × Nat)) :
    (readCache services rest index results uncached).Within rest.length := by
  induction rest generalizing index results uncached with
  | nil => exact Program.Within.pure 0 _
  | cons text rest ih =>
    apply Program.Within.reads_bind
    intro raw
    cases raw with
    | some vector => exact ih _ _ _
    | none => exact ih _ _ _

theorem embedMany_within (texts : List String) :
    (embedMany services endpoint texts).Within (texts.length + 1) := by
  apply Program.Within.bind (readCache_within texts 0 _ [])
  rintro ⟨results, uncached⟩
  dsimp only
  split_ifs
  · exact Program.Within.pure 1 _
  · exact Program.Within.modify_bind (Program.Within.pure 0 _)

theorem EmbedCall.within (call : EmbedCall) :
    (call.program services endpoint).Within (call.texts.length + 1) := by
  cases call with
  | many texts => exact embedMany_within texts
  | one text =>
    have single : (embedOne services endpoint text).Within (2 + 0) := by
      apply Program.Within.bind (embedMany_within [text])
      intro results
      cases results with
      | nil => exact Program.Within.done 0 _
      | cons vector rest => exact Program.Within.pure 0 _
    have whole : (EmbedCall.program services endpoint (.one text)).Within (2 + 0 + 0) :=
      Program.Within.bind single fun result => Program.Within.pure 0 _
    exact whole

end Shared

section Plain

variable {κ : Type} [DecidableEq κ]

/-- Through the cache each call returns what the model assigns to its texts, whatever has been
cached and dropped before and meanwhile, and it does return. -/
theorem embeds_plainly (services : IndexServices Vector) (model : String → Vector)
    (endpoint : List String → List Vector) (answers : ∀ texts, endpoint texts = texts.map model)
    (calls : κ → EmbedCall)
    (distinct : Distinct services fun text => ∃ call, text ∈ (calls call).texts)
    (moves : List (Pool.Move κ (IndexState Vector)))
    (expiries : ∀ change, .outside change ∈ moves → ∀ state, Expires state (change state))
    (start : IndexState Vector) (fresh : start.cache = {}) (call : κ) :
    (∀ result, (Pool.play Program.advance (fun call => (calls call).program services endpoint)
        moves (Pool.idle start)).calls call = some (.done result) →
      result = .ok ((calls call).texts.map fun text => some (model text))) ∧
    ((calls call).texts.length + 1 < Pool.turnsOf call moves →
      ∃ result, (Pool.play Program.advance (fun call => (calls call).program services endpoint)
        moves (Pool.idle start)).calls call = some (.done result)) := by
  have initial : Faithful services model (fun text => ∃ call, text ∈ (calls call).texts)
      start := by
    intro text vector ends asked found
    rw [fresh] at found
    cases found
  have run := @Pool.play_run κ (IndexState Vector) _ _
    (Pool.ofPrograms (fun _ call program => program = (calls call).program services endpoint)
      Expires) Pool.anyStatement (fun call => (calls call).program services endpoint)
    (fun _ _ => rfl) moves expiries (Pool.idle start) (Pool.permits_any _ _ moves _)
  have upheld : Pool.Upheld
      (FaithfulNow services model fun text => ∃ call, text ∈ (calls call).texts)
      (fun call => Gives fun results =>
        results = (calls call).texts.map fun text => some (model text))
      (Pool.play Program.advance (fun call => (calls call).program services endpoint) moves
        (Pool.idle start)) := by
    apply Pool.Run.upheld _ _ _ run
    · constructor
      · rintro state ⟨⟩
        exact initial
      · intro call program running
        cases running
    · intro call result seen later grown gives
      exact gives
    · rintro state past reached faithful expires other ⟨⟩
      exact (faithful state rfl).expires expires
    · rintro seen call program faithful rfl
      exact (calls call).upholds distinct answers (fun text among => ⟨call, among⟩) seen
  constructor
  · intro result finished
    obtain ⟨value, rfl, rfl⟩ := upheld.2 call _ finished
    rfl
  · intro enough
    exact Pool.play_done moves (Pool.idle start) call rfl ((calls call).within) enough

def echoServices : IndexServices String where
  uuid given := String.ofList (List.replicate given 'a')
  sha256 text := text
  model _ text := text

def twoCalls (first : Bool) : EmbedCall :=
  if first then .many ["a", "b", "a"] else .one "b"

/-- The cache is emptied while the first call runs. -/
def emptied : List (Pool.Move Bool (IndexState String)) :=
  List.replicate 3 (.turn false) ++ List.replicate 3 (.turn true) ++
    [.outside fun state => { state with cache := {} }] ++ List.replicate 3 (.turn true)

theorem repeated_text_embedded :
    (Pool.play Program.advance (fun call => (twoCalls call).program echoServices id) emptied
      (Pool.idle {})).calls true = some (.done (.ok [some "a", some "b", some "a"])) := by
  have known (text : String) (asked : ∃ call, text ∈ (twoCalls call).texts) :
      text = "a" ∨ text = "b" := by
    obtain ⟨call, among⟩ := asked
    cases call <;> simp [twoCalls, EmbedCall.texts] at among <;> tauto
  have distinct : Distinct echoServices fun text => ∃ call, text ∈ (twoCalls call).texts := by
    intro one other first second same
    rcases known one first with rfl | rfl <;> rcases known other second with rfl | rfl
    · rfl
    · exact absurd same (by decide)
    · exact absurd same (by decide)
    · rfl
  have expiries : ∀ change, .outside change ∈ emptied → ∀ state, Expires state (change state) := by
    intro change among
    simp [emptied] at among
    subst among
    intro state key vector ends found
    cases found
  have embeds := embeds_plainly echoServices id id (fun texts => (List.map_id texts).symm) twoCalls
    distinct emptied expiries {} rfl true
  obtain ⟨result, finished⟩ := embeds.2 (by decide)
  rw [embeds.1 result finished] at finished
  exact finished

end Plain

section Alone

variable {services : IndexServices Vector} {endpoint : List String → List Vector}
  {state : IndexState Vector}

theorem run_readCache {texts rest : List String} {index : Nat} {results : List (Option Vector)}
    {uncached : List (String × Nat)}
    (pending : Pending (vectorOf services state) texts results
      (uncached ++ rest.zipIdx index)) :
    ∃ filled, (readCache services rest index results uncached).run state =
        (.ok (filled, uncached ++ (rest.zipIdx index).filter fun entry =>
          (cached services state entry.1).isNone), state) ∧
      Pending (vectorOf services state) texts filled
        (uncached ++ (rest.zipIdx index).filter fun entry =>
          (cached services state entry.1).isNone) := by
  induction rest generalizing index results uncached with
  | nil => exact ⟨results, by simp [readCache], by simpa using pending⟩
  | cons text rest ih =>
    cases found : cached services state text with
    | some vector =>
      have own : vectorOf services state text = vector := by simp [vectorOf, found]
      have next : Pending (vectorOf services state) texts (results.set index (some vector))
          (uncached ++ rest.zipIdx (index + 1)) := by
        rw [← own]
        apply pending.set (by simp)
        · intro entry among
          rw [List.mem_append] at among ⊢
          exact among.imp_right (List.mem_cons_of_mem _)
        · intro entry among
          simpa [or_left_comm] using among
      obtain ⟨filled, ran, left⟩ := ih next
      refine ⟨filled, ?_, ?_⟩
      · simp [readCache, Program.run_bind, found, ran]
      · simpa [found] using left
    | none =>
      have next : Pending (vectorOf services state) texts results
          ((uncached ++ [(text, index)]) ++ rest.zipIdx (index + 1)) := by
        simpa using pending
      obtain ⟨filled, ran, left⟩ := ih next
      refine ⟨filled, ?_, ?_⟩
      · simp [readCache, Program.run_bind, found, ran]
      · simpa [found] using left

theorem missing_texts (texts : List String) :
    ((texts.zipIdx.filter fun entry => (cached services state entry.1).isNone).map Prod.fst) =
      texts.filter fun text => (cached services state text).isNone := by
  have kept : (texts.zipIdx.map Prod.fst).filter (fun text => (cached services state text).isNone) =
      (texts.zipIdx.filter fun entry => (cached services state entry.1).isNone).map Prod.fst :=
    List.filter_map
  rw [List.zipIdx_map_fst] at kept
  exact kept.symm

theorem writeVectors_map (entries : List (String × Nat)) :
    writeVectors services (entries.zip (entries.map fun entry =>
      services.model state.embedding_version entry.1)) state =
      writeCache services (entries.map Prod.fst) state := by
  have written (cache : Expiring String Vector) :
      (entries.zip (entries.map fun entry => services.model state.embedding_version entry.1)).foldl
        (fun cache entry =>
          cache.setex state.now cacheTtlSeconds (cacheKey services entry.1.1) entry.2) cache =
      (entries.map Prod.fst).foldl
        (fun cache text => cache.setex state.now cacheTtlSeconds (cacheKey services text)
          (services.model state.embedding_version text)) cache := by
    induction entries generalizing cache with
    | nil => rfl
    | cons entry rest ih => exact ih _
  rw [writeVectors, writeCache, written]

/-- Alone, a call does in one step what the store's model of `embed_many` does. -/
theorem embedMany_alone (up : state.embeddingUp = true)
    (answers : ∀ texts, endpoint texts = texts.map (services.model state.embedding_version))
    (texts : List String) :
    (embedMany services endpoint texts).run state =
      match Embedder.embedMany services (texts.map .str) state with
      | .ok (vectors, reached) => (.ok (vectors.map some), reached)
      | .error error => (.error error, state) := by
  obtain ⟨filled, ran, left⟩ := @run_readCache _ services state texts texts 0
    (texts.map fun _ => none) [] (Pending.start texts)
  have missing := @missing_texts _ services state texts
  have unread : ∀ entry ∈ texts.zipIdx.filter (fun entry => (cached services state entry.1).isNone),
      vectorOf services state entry.1 = services.model state.embedding_version entry.1 := by
    intro entry among
    have none : cached services state entry.1 = none := by
      simpa using (List.mem_filter.mp among).2
    simp [vectorOf, none]
  rw [List.nil_append] at ran left
  generalize texts.zipIdx.filter (fun entry => (cached services state entry.1).isNone) = entries
    at ran left missing unread
  have strings : (texts.map Value.str).mapM textOf = .ok texts := mapM_textOf texts
  have atomic : Embedder.embedMany services (texts.map .str) state =
      .ok (texts.map (vectorOf services state),
        if entries.isEmpty then state else writeCache services (entries.map Prod.fst) state) := by
    unfold Embedder.embedMany
    rw [strings]
    simp only [bind, Except.bind, ← missing, List.isEmpty_map, up]
    cases entries <;> rfl
  have scattered := left.scatter
  rw [List.map_congr_left unread] at scattered
  rw [atomic, embedMany, Program.run_bind, ran]
  cases entries with
  | nil =>
    have complete := left.done
    simp [Program.run_pure, complete]
  | cons entry rest =>
    have asked : endpoint ((entry :: rest).map Prod.fst) =
        (entry :: rest).map fun entry => services.model state.embedding_version entry.1 := by
      rw [answers, List.map_map]
      rfl
    have written := @writeVectors_map _ services state (entry :: rest)
    simp only [List.isEmpty_cons, Bool.false_eq_true, if_false, asked, Program.run_bind,
      Program.run_modify, Program.run_pure, scattered, written, List.map_map]
    rfl

theorem echo_alone :
    (embedMany echoServices id ["ab", "c", "ab"]).run {} =
      match Embedder.embedMany echoServices (["ab", "c", "ab"].map .str) {} with
      | .ok (vectors, reached) => (.ok (vectors.map some), reached)
      | .error error => (.error error, {}) :=
  embedMany_alone rfl (fun texts => (List.map_id texts).symm) _

end Alone

end CachedEmbedding

end HelpForge.Chatbot
