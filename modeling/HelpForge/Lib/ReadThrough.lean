import HelpForge.Lib.History

set_option autoImplicit false

/-!
# Reading through a cache

One call fills an entry on a miss; another stores something new and then mends the entry.
-/

namespace Lib

/-- What is stored, what the cache has for a key, and when the two agree. -/
structure Cached (σ β γ : Type) where
  base : σ → β
  entry : σ → γ
  Agrees : β → γ → Prop

inductive Party where
  | reader
  | writer
  deriving DecidableEq, Repr

def writerTurnsBefore : Nat → List Party → Nat
  | 0, _ => 0
  | _, [] => 0
  | number + 1, .reader :: rest => writerTurnsBefore number rest
  | number + 1, .writer :: rest => writerTurnsBefore (number + 1) rest + 1

def takeTurns {σ ε α : Type} (calls : Party → Program σ ε α) (schedule : List Party) (state : σ) :
    Pool Party σ (Program σ ε α) :=
  Pool.play Program.advance calls (schedule.map .turn)
    { state, past := [], calls := fun party => some (calls party) }

namespace Cached

variable {σ β γ ε α : Type} (cached : Cached σ β γ)

def Fresh (state : σ) : Prop := cached.Agrees (cached.base state) (cached.entry state)

def Since (state later : σ) : Prop :=
  cached.base later = cached.base state ∧
    (cached.entry later = cached.entry state ∨ cached.Fresh later)

/-- While what is stored is `among` those, no statement puts anything into the entry that does
not agree with it. -/
def Gentle (among : β → Prop) : Program σ ε α → Prop
  | .done _ => True
  | .atomic change next => ∀ state, among (cached.base state) →
    cached.Since state (change state) ∧ Gentle among (next state)

def Heals : Program σ ε α → σ → Prop
  | .done _, state => cached.Fresh state
  | .atomic change next, state => ∀ later, cached.Since state later →
    cached.Since later (change later) ∧ Heals (next later) (change later)

def HealsAll (stored : β) (program : Program σ ε α) : Prop :=
  ∀ state, cached.base state = stored → cached.Heals program state

def Stubborn (stored : β) : Nat → Program σ ε α → Prop
  | 0, _ => True
  | _ + 1, .done result => cached.HealsAll stored (.done result : Program σ ε α)
  | count + 1, .atomic change next =>
    cached.HealsAll stored (.atomic change next) ∧
      ∀ state, cached.base state = stored → Stubborn stored count (next state)

/-- What a writer does: it stores something that every agreeing entry still agrees with, or
it mends the entry up to its turn number `last`. -/
def Writes (stored : β) (last : Nat) : Program σ ε α → Prop
  | .done _ => False
  | .atomic change next => ∀ state, cached.base state = stored →
    cached.entry (change state) = cached.entry state ∧
      ((∀ value, cached.Agrees stored value → cached.Agrees (cached.base (change state)) value) ∧
          cached.Gentle (· = cached.base (change state)) (next state) ∨
        2 ≤ last ∧ cached.Stubborn (cached.base (change state)) (last - 1) (next state))

def Holding (value : γ) : Program σ ε α → Prop
  | .done _ => False
  | .atomic change next => ∀ state, cached.base (change state) = cached.base state ∧
    (cached.entry (change state) = value ∨ cached.entry (change state) = cached.entry state) ∧
    ∃ result, next state = .done result

def Looking : Program σ ε α → Prop
  | .done _ => True
  | .atomic change next => ∀ state, change state = state ∧
    ((∃ result, next state = .done result) ∨
      ∃ value, cached.Agrees (cached.base state) value ∧ cached.Holding value (next state))

def Getting : Program σ ε α → Prop
  | .done _ => True
  | .atomic change next => ∀ state, change state = state ∧ cached.Looking (next state)

/-- The reader looks at what is stored after the writer has stored, or puts its entry before
the writer's turn number `last`. -/
def Timely (last : Nat) (schedule : List Party) : Prop :=
  last = 0 ∨ 1 ≤ writerTurnsBefore 2 schedule ∨ writerTurnsBefore 3 schedule < last

variable {program : Program σ ε α} {pool : Pool Party σ (Program σ ε α)}
  {start : Party → Program σ ε α} {result : Except ε α}

section Interleaving

variable {cached}

theorem Fresh.since {state later : σ} (fresh : cached.Fresh state)
    (since : cached.Since state later) : cached.Fresh later := by
  obtain ⟨base, entry | fresh'⟩ := since
  · unfold Fresh
    rw [base, entry]
    exact fresh
  · exact fresh'

theorem Since.refl (state : σ) : cached.Since state state := ⟨rfl, .inl rfl⟩

theorem Since.trans {first second third : σ} (before : cached.Since first second)
    (after : cached.Since second third) : cached.Since first third := by
  refine ⟨after.1.trans before.1, ?_⟩
  rcases before.2 with same | fresh
  · rcases after.2 with same' | fresh'
    · exact .inl (same'.trans same)
    · exact .inr fresh'
  · exact .inr (fresh.since after)

theorem Heals.since {state later : σ} (heals : cached.Heals program state)
    (since : cached.Since state later) : cached.Heals program later := by
  cases program with
  | done result => exact Fresh.since heals since
  | atomic change next => exact fun latest after => heals latest (since.trans after)

theorem Gentle.heals {stored : β} {state : σ} (gentle : cached.Gentle (· = stored) program)
    (base : cached.base state = stored) (fresh : cached.Fresh state) :
    cached.Heals program state := by
  induction program generalizing state with
  | done result => exact fresh
  | atomic change next ih =>
    intro later since
    obtain ⟨step, rest⟩ := gentle later (since.1.trans base)
    have fresh' := (fresh.since since).since step
    exact ⟨step, ih later rest (step.1.trans (since.1.trans base)) fresh'⟩

section Mending

variable {δ : Type} {stored : β} {among : β → Prop}

theorem Gentle.pure (value : α) : cached.Gentle among (pure value : Program σ ε α) := trivial

theorem Gentle.fail (failure : ε) : cached.Gentle among (.fail failure : Program σ ε α) := trivial

variable {change : σ → σ}

theorem Gentle.modify
    (since : ∀ state, among (cached.base state) → cached.Since state (change state)) :
    cached.Gentle among (Program.modify change : Program σ ε Unit) :=
  fun state base => ⟨since state base, trivial⟩

theorem Gentle.reads (view : σ → α) :
    cached.Gentle among (Program.reads view : Program σ ε α) :=
  fun state _ => ⟨.refl state, trivial⟩

theorem Gentle.bind {first : Program σ ε α} {rest : α → Program σ ε δ}
    (started : cached.Gentle among first)
    (continued : ∀ value, cached.Gentle among (rest value)) :
    cached.Gentle among (first >>= rest) := by
  change cached.Gentle among (first.bind rest)
  induction first with
  | done result =>
    cases result with
    | ok value => exact continued value
    | error failure => trivial
  | atomic change next ih =>
    intro state base
    obtain ⟨since, gentle⟩ := started state base
    exact ⟨since, ih state gentle⟩

theorem Gentle.mapM {items : List δ} {each : δ → Program σ ε α}
    (kept : ∀ item ∈ items, cached.Gentle among (each item)) :
    cached.Gentle among (items.mapM each) := by
  induction items with
  | nil => exact .pure _
  | cons item rest ih =>
    rw [List.mapM_cons]
    refine (kept item (List.mem_cons_self ..)).bind fun value => ?_
    exact (ih fun other member => kept other (List.mem_cons_of_mem _ member)).bind
      fun values => .pure _

theorem HealsAll.modify {rest : Unit → Program σ ε α}
    (mends : ∀ state, cached.base state = stored →
      cached.base (change state) = stored ∧ cached.Fresh (change state))
    (gentle : cached.Gentle (· = stored) (rest ())) :
    cached.HealsAll stored (Program.modify change >>= rest) := by
  intro state base later since
  obtain ⟨base', fresh⟩ := mends later (since.1.trans base)
  exact ⟨⟨base'.trans (since.1.trans base).symm, .inr fresh⟩, gentle.heals base' fresh⟩

theorem Stubborn.one (heals : cached.HealsAll stored program) :
    cached.Stubborn stored 1 program := by
  cases program with
  | done result => exact heals
  | atomic change next => exact ⟨heals, fun _ _ => trivial⟩

variable {rest : δ → Program σ ε α} {last : Nat}

theorem Writes.attempt {body : σ → Except ε (δ × σ)}
    (stores : ∀ state value reached, cached.base state = stored →
      body state = .ok (value, reached) → cached.entry reached = cached.entry state ∧
        ((∀ value, cached.Agrees stored value → cached.Agrees (cached.base reached) value) ∧
            cached.Gentle (· = cached.base reached) (rest value) ∨
          2 ≤ last ∧ cached.Stubborn (cached.base reached) (last - 1) (rest value))) :
    cached.Writes stored last (Program.attempt body >>= rest) := by
  intro state base
  rcases outcome : body state with failure | ⟨value, reached⟩
  · simp only [outcome]
    exact ⟨trivial, .inl ⟨fun value agrees => base ▸ agrees, .fail failure⟩⟩
  · simp only [outcome]
    exact stores state value reached base outcome

variable {body : Program σ ε δ}

theorem Writes.transaction
    (stores : ∀ state, cached.base state = stored →
      body.wp (fun result reached => ∀ value, result = .ok value →
        cached.entry reached = cached.entry state ∧
          ((∀ value, cached.Agrees stored value → cached.Agrees (cached.base reached) value) ∧
              cached.Gentle (· = cached.base reached) (rest value) ∨
            2 ≤ last ∧ cached.Stubborn (cached.base reached) (last - 1) (rest value))) state) :
    cached.Writes stored last (body.transaction >>= rest) := by
  refine .attempt fun state value reached base outcome => ?_
  have stored := stores state base
  unfold Program.wp at stored
  rcases ran : body.run state with ⟨failure | result, final⟩
  · rw [ran] at outcome
    cases outcome
  · rw [ran] at outcome stored
    cases outcome
    exact stored value rfl

theorem Writes.ensuring {cleanup : Program σ ε Unit}
    (stores : ∀ state, cached.base state = stored →
      body.wp (fun result reached => ∀ value, result = .ok value →
        cached.entry reached = cached.entry state ∧
          ((∀ value, cached.Agrees stored value → cached.Agrees (cached.base reached) value) ∧
              cached.Gentle (· = cached.base reached) (cleanup >>= fun _ => rest value) ∨
            2 ≤ last ∧ cached.Stubborn (cached.base reached) (last - 1)
              (cleanup >>= fun _ => rest value))) state)
    (cleaned : cached.Gentle (· = stored) cleanup) :
    cached.Writes stored last (body.transaction.ensuring cleanup >>= rest) := by
  have undone (failure : ε) : cached.Gentle (· = stored)
      ((cleanup >>= fun _ => .fail failure : Program σ ε δ) >>= fun value =>
        cleanup >>= fun _ => rest value) := by
    rw [Program.bind_assoc]
    exact cleaned.bind fun _ => .fail failure
  unfold Program.ensuring Program.transaction
  simp only [Program.bind_assoc, Program.pure_bind]
  intro state base
  have stores := stores state base
  unfold Program.wp at stores
  rcases outcome : body.run state with ⟨failure | value, reached⟩
  · simp only [outcome]
    exact ⟨trivial, .inl ⟨fun value agrees => base ▸ agrees, base ▸ undone failure⟩⟩
  · simp only [outcome]
    rw [outcome] at stores
    exact stores value rfl

end Mending

inductive Ready (cached : Cached σ β γ) (stored : β) (last : Nat) (rest : List Party) :
    Program σ ε α → Prop where
  | getting {reader : Program σ ε α} (phase : cached.Getting reader)
      (timely : last = 0 ∨ 1 ≤ writerTurnsBefore 2 rest ∨ writerTurnsBefore 3 rest < last) :
      Ready cached stored last rest reader
  | looking {reader : Program σ ε α} (phase : cached.Looking reader)
      (timely : last = 0 ∨ 1 ≤ writerTurnsBefore 1 rest ∨ writerTurnsBefore 2 rest < last) :
      Ready cached stored last rest reader
  | holding {reader : Program σ ε α} (value : γ) (phase : cached.Holding value reader)
      (agrees : cached.Agrees stored value)
      (timely : last = 0 ∨ writerTurnsBefore 1 rest < last) : Ready cached stored last rest reader
  | finished (result : Except ε α) : Ready cached stored last rest (.done result)
  | elsewhere {reader : Program σ ε α} (gentle : cached.Gentle (fun _ => True) reader) :
      Ready cached stored last rest reader

inductive Current (cached : Cached σ β γ) (stored : β) : Program σ ε α → Prop where
  | getting {reader : Program σ ε α} (phase : cached.Getting reader) : Current cached stored reader
  | looking {reader : Program σ ε α} (phase : cached.Looking reader) : Current cached stored reader
  | holding {reader : Program σ ε α} (value : γ) (phase : cached.Holding value reader)
      (agrees : cached.Agrees stored value) : Current cached stored reader
  | elsewhere {reader : Program σ ε α} (gentle : cached.Gentle (fun _ => True) reader) :
      Current cached stored reader

/-- The writer has not stored yet; or it will mend the entry, and the reader brings nothing
outdated into it; or the reader does, but early enough. -/
inductive Situation (cached : Cached σ β γ) (stored : β) (last : Nat) (first : Program σ ε α)
    (rest : List Party) : Program σ ε α → Program σ ε α → σ → Prop where
  | before {reader : Program σ ε α} {state : σ} (base : cached.base state = stored)
      (fresh : cached.Fresh state) (ready : Ready cached stored last rest reader) :
      Situation cached stored last first rest reader first state
  | clean {reader writer : Program σ ε α} {state : σ} (heals : cached.Heals writer state)
      (current : Current cached (cached.base state) reader) :
      Situation cached stored last first rest reader writer state
  | stale {reader writer : Program σ ε α} {state : σ} (value : γ) (count : Nat)
      (phase : cached.Holding value reader)
      (stubborn : cached.Stubborn (cached.base state) count writer)
      (early : writerTurnsBefore 1 rest < count) :
      Situation cached stored last first rest reader writer state

section Steps

variable {stored : β} {last : Nat} {first reader writer : Program σ ε α} {rest : List Party}
  {state : σ} {change : σ → σ} {next : σ → Program σ ε α}

theorem Current.finished (result : Except ε α) : Current cached stored (.done result) :=
  .getting trivial

theorem Stubborn.heals {count : Nat} (stubborn : cached.Stubborn stored count writer)
    (some : 0 < count) : cached.HealsAll stored writer := by
  cases count with
  | zero => exact absurd some (Nat.lt_irrefl 0)
  | succ count =>
    cases writer with
    | done result => exact stubborn
    | atomic change next => exact stubborn.1

theorem Holding.step {value : γ} (phase : cached.Holding value (.atomic change next))
    (agrees : cached.Agrees (cached.base state) value) :
    cached.Since state (change state) := by
  obtain ⟨base, entry, -⟩ := phase state
  refine ⟨base, ?_⟩
  rcases entry with put | other
  · refine .inr ?_
    unfold Fresh
    rw [base, put]
    exact agrees
  · exact .inl other

theorem Current.step (current : Current cached (cached.base state) (.atomic change next)) :
    cached.Since state (change state) ∧
      Current cached (cached.base (change state)) (next state) := by
  cases current with
  | getting phase =>
    obtain ⟨same, looking⟩ := phase state
    rw [same]
    exact ⟨.refl state, .looking looking⟩
  | looking phase =>
    obtain ⟨same, ⟨result, finished⟩ | ⟨value, agrees, holding⟩⟩ := phase state
    · rw [same, finished]
      exact ⟨.refl state, .finished result⟩
    · rw [same]
      exact ⟨.refl state, .holding value holding agrees⟩
  | holding value phase agrees =>
    obtain ⟨-, -, result, finished⟩ := phase state
    rw [finished]
    exact ⟨phase.step agrees, .finished result⟩
  | elsewhere gentle =>
    obtain ⟨since, gentle⟩ := gentle state trivial
    exact ⟨since, .elsewhere gentle⟩

theorem Ready.step (base : cached.base state = stored)
    (ready : Ready cached stored last (.reader :: rest) (.atomic change next)) :
    cached.Since state (change state) ∧ Ready cached stored last rest (next state) := by
  cases ready with
  | getting phase timely =>
    obtain ⟨same, looking⟩ := phase state
    rw [same]
    exact ⟨.refl state, .looking looking timely⟩
  | looking phase timely =>
    have late : last = 0 ∨ writerTurnsBefore 1 rest < last := by
      rcases timely with none | stored | early
      · exact .inl none
      · simp [writerTurnsBefore] at stored
      · exact .inr early
    obtain ⟨same, ⟨result, finished⟩ | ⟨value, agrees, holding⟩⟩ := phase state
    · rw [same, finished]
      exact ⟨.refl state, .finished result⟩
    · rw [same]
      exact ⟨.refl state, .holding value holding (base ▸ agrees) late⟩
  | holding value phase agrees timely =>
    obtain ⟨-, -, result, finished⟩ := phase state
    rw [finished]
    exact ⟨phase.step (base ▸ agrees), .finished result⟩
  | elsewhere gentle =>
    obtain ⟨since, gentle⟩ := gentle state trivial
    exact ⟨since, .elsewhere gentle⟩

theorem Situation.reader_step
    (stands : Situation cached stored last first (.reader :: rest) (.atomic change next) writer
      state) :
    Situation cached stored last first rest (next state) writer (change state) := by
  cases stands with
  | before base fresh ready =>
    obtain ⟨since, ready⟩ := ready.step base
    exact .before (since.1.trans base) (fresh.since since) ready
  | clean heals current =>
    obtain ⟨since, current⟩ := current.step
    exact .clean (heals.since since) current
  | stale value count phase stubborn early =>
    obtain ⟨base, -, result, finished⟩ := phase state
    rw [finished]
    exact .clean (stubborn.heals (Nat.zero_lt_of_lt early) _ base) (.finished result)

theorem Situation.reader_idle
    (stands : Situation cached stored last first (.reader :: rest) (.done result) writer state) :
    Situation cached stored last first rest (.done result) writer state := by
  cases stands with
  | before base fresh ready => exact .before base fresh (.finished result)
  | clean heals current => exact .clean heals current
  | stale value count phase stubborn early => exact phase.elim

theorem Situation.writer_idle (writes : cached.Writes stored last first)
    (stands : Situation cached stored last first (.writer :: rest) reader (.done result) state) :
    Situation cached stored last first rest reader (.done result) state := by
  cases stands with
  | before base fresh ready => exact writes.elim
  | clean heals current => exact .clean heals current
  | stale value count phase stubborn early =>
    refine .stale value count phase stubborn ?_
    simp only [writerTurnsBefore, Nat.zero_add] at early
    omega

theorem Situation.stores (writes : cached.Writes stored last (.atomic change next))
    (base : cached.base state = stored) (fresh : cached.Fresh state)
    (ready : Ready cached stored last (.writer :: rest) reader) :
    Situation cached stored last first rest reader (next state) (change state) := by
  -- The writer stores: what the reader holds agrees still, or is put early enough.
  obtain ⟨entry, ⟨kept, gentle⟩ | ⟨some, stubborn⟩⟩ := writes state base
  · have fresh' : cached.Fresh (change state) := by
      unfold Fresh at fresh ⊢
      rw [base] at fresh
      rw [entry]
      exact kept _ fresh
    refine .clean (gentle.heals rfl fresh') ?_
    cases ready with
    | getting phase timely => exact .getting phase
    | looking phase timely => exact .looking phase
    | holding value phase agrees timely => exact .holding value phase (kept value agrees)
    | finished result => exact .finished result
    | elsewhere gentle => exact .elsewhere gentle
  · have heals := stubborn.heals (by omega) (change state) rfl
    cases ready with
    | getting phase timely => exact .clean heals (.getting phase)
    | looking phase timely => exact .clean heals (.looking phase)
    | holding value phase agrees timely =>
      refine .stale value (last - 1) phase stubborn ?_
      simp only [writerTurnsBefore, Nat.zero_add] at timely
      omega
    | finished result => exact .clean heals (.finished result)
    | elsewhere gentle => exact .clean heals (.elsewhere gentle)

theorem Situation.writer_step (writes : cached.Writes stored last first)
    (stands : Situation cached stored last first (.writer :: rest) reader (.atomic change next)
      state) :
    Situation cached stored last first rest reader (next state) (change state) := by
  cases stands with
  | before base fresh ready => exact .stores writes base fresh ready
  | clean heals current =>
    obtain ⟨since, heals⟩ := heals state (.refl state)
    exact .clean heals (since.1.symm ▸ current)
  | stale value count phase stubborn early =>
    cases count with
    | zero => exact absurd early (Nat.not_lt_zero _)
    | succ count =>
      have base := (stubborn.1 state rfl state (.refl state)).1.1
      refine .stale value count phase (base.symm ▸ stubborn.2 state rfl) ?_
      simp only [writerTurnsBefore, Nat.zero_add] at early
      omega

def Stands (cached : Cached σ β γ) (stored : β) (last : Nat) (first : Program σ ε α)
    (rest : List Party) (pool : Pool Party σ (Program σ ε α)) : Prop :=
  ∃ reader writer, pool.calls .reader = some reader ∧ pool.calls .writer = some writer ∧
    Situation cached stored last first rest reader writer pool.state

theorem Stands.turn {party : Party} (writes : cached.Writes stored last first)
    (stands : Stands cached stored last first (party :: rest) pool) :
    Stands cached stored last first rest (Pool.turn Program.advance start pool party) := by
  obtain ⟨reader, writer, reading, writing, situation⟩ := stands
  have moves (moved : Party) (process : Program σ ε α) :
      pool.put moved process moved = some process := pool.put_self moved process
  have other (moved fixed : Party) (process : Program σ ε α) (differs : fixed ≠ moved) :
      pool.put moved process fixed = pool.calls fixed := Function.update_of_ne differs _ _
  cases party with
  | reader =>
    cases reader with
    | done result =>
      simp only [Pool.turn, reading, Program.advance]
      exact ⟨_, writer, reading, writing, situation.reader_idle⟩
    | atomic change next =>
      simp only [Pool.turn, reading, Program.advance]
      refine ⟨_, writer, ?_, ?_, situation.reader_step⟩
      · exact moves .reader (next pool.state)
      · exact (other .reader .writer (next pool.state) (by decide)).trans writing
  | writer =>
    cases writer with
    | done result =>
      simp only [Pool.turn, writing, Program.advance]
      exact ⟨reader, _, reading, writing, situation.writer_idle writes⟩
    | atomic change next =>
      simp only [Pool.turn, writing, Program.advance]
      refine ⟨reader, _, ?_, ?_, situation.writer_step writes⟩
      · exact (other .writer .reader (next pool.state) (by decide)).trans reading
      · exact moves .writer (next pool.state)

theorem Stands.play (schedule : List Party) (writes : cached.Writes stored last first)
    (stands : Stands cached stored last first schedule pool) :
    Stands cached stored last first []
      (Pool.play Program.advance start (schedule.map .turn) pool) := by
  induction schedule generalizing pool with
  | nil => exact stands
  | cons party rest ih => exact ih (stands.turn writes)

end Steps

theorem fresh_takeTurns (calls : Party → Program σ ε α) (schedule : List Party) (state : σ)
    (last : Nat)
    (reads : cached.Getting (calls .reader) ∧ Timely last schedule ∨
      cached.Gentle (fun _ => True) (calls .reader))
    (writes : cached.Writes (cached.base state) last (calls .writer))
    (fresh : cached.Fresh state)
    (completed : ∀ party, ∃ result,
      (takeTurns calls schedule state).calls party = some (.done result)) :
    cached.Fresh (takeTurns calls schedule state).state := by
  -- When both calls are done, the entry agrees with what is stored: the reader was in time for it,
  -- or reads another entry.
  have ready : Ready cached (cached.base state) last schedule (calls .reader) := by
    rcases reads with ⟨getting, timely⟩ | gentle
    · exact .getting getting timely
    · exact .elsewhere gentle
  have started : Stands cached (cached.base state) last (calls .writer) schedule
      { state, past := [], calls := fun party => some (calls party) } :=
    ⟨_, _, rfl, rfl, .before rfl fresh ready⟩
  obtain ⟨reader, writer, reading, writing, situation⟩ := started.play schedule writes
  obtain ⟨result, finished⟩ := completed .reader
  obtain ⟨result', finished'⟩ := completed .writer
  obtain rfl := Option.some.inj (reading.symm.trans finished)
  obtain rfl := Option.some.inj (writing.symm.trans finished')
  generalize calls .writer = first at writes situation
  cases situation with
  | before base fresh ready => exact fresh
  | clean heals current => exact heals
  | stale value count phase stubborn early => exact phase.elim

end Interleaving

end Cached

end Lib
