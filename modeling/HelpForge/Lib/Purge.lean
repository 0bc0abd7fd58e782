import HelpForge.Lib.History
import HelpForge.Lib.Loop

set_option autoImplicit false

/-!
# Calls that are not seen by others

To the low calls, a run looks as if the high ones had not been there.
-/

namespace Lib

variable {σ ε α ν : Type}

/-- The facts of `known` that two states agree on. -/
def Agree (fact : ν → σ → σ → Prop) (known : ν → Prop) (left right : σ) : Prop :=
  ∀ index, known index → fact index left right

variable {change : σ → σ}

namespace Program

/-- From two states, the next statement goes by what `need` relates and by the facts that are
known already. It leaves every fact as it was, and does what `side` allows. -/
def GoesBy (fact : ν → σ → σ → Prop) (need side : σ → σ → Prop) (post : α → Prop) :
    Program σ ε α → (ν → Prop) → Prop
  | done (.ok value), _ => post value
  | done (.error _), _ => True
  | atomic change next, known =>
    ∃ later : ν → Prop, (∀ index, known index → later index) ∧
      (∀ left right, need left right → Agree fact known left right →
        next left = next right ∧
          ∀ index, later index ∨ fact index left right → fact index (change left) (change right)) ∧
      ∀ state, side state (change state) ∧ (next state).GoesBy fact need side post later

section GoesBy

variable {β : Type} {fact : ν → σ → σ → Prop} {need side : σ → σ → Prop} {post : α → Prop}
  {goal : β → Prop} {known : ν → Prop}

theorem GoesBy.known_mono {known' : ν → Prop} {program : Program σ ε α}
    (goes : program.GoesBy fact need side post known)
    (more : ∀ index, known index → known' index) :
    program.GoesBy fact need side post known' := by
  induction program generalizing known known' with
  | done result =>
    cases result with
    | ok value => exact goes
    | error failure => trivial
  | atomic change next ih =>
    obtain ⟨later, kept, alike, each⟩ := goes
    refine ⟨fun index => later index ∨ known' index, fun index held => .inr held, ?_, ?_⟩
    · intro left right needed agree
      obtain ⟨same, facts⟩ := alike left right needed fun index held => agree index (more index held)
      refine ⟨same, ?_⟩
      rintro index ((held | held) | held)
      · exact facts index (.inl held)
      · exact facts index (.inr (agree index held))
      · exact facts index (.inr held)
    · intro state
      exact ⟨(each state).1, ih state (each state).2 fun index held => .inl held⟩

theorem GoesBy.pure {value : α} (holds : post value) :
    (Pure.pure value : Program σ ε α).GoesBy fact need side post known := holds

theorem GoesBy.fail (failure : ε) :
    (Program.fail failure : Program σ ε α).GoesBy fact need side post known := trivial

theorem GoesBy.done {result : Except ε α} (holds : ∀ value, result = .ok value → post value) :
    (Program.done result : Program σ ε α).GoesBy fact need side post known := by
  cases result with
  | ok value => exact holds value rfl
  | error failure => trivial

theorem GoesBy.stretch {body : StateM σ α}
    (same : ∀ left right, need left right → Agree fact known left right →
      (body.run left).1 = (body.run right).1 ∧
        ∀ index, fact index left right → fact index (body.run left).2 (body.run right).2)
    (sides : ∀ state, side state (body.run state).2) (holds : ∀ state, post (body.run state).1) :
    (Program.stretch body : Program σ ε α).GoesBy fact need side post known := by
  refine ⟨known, fun index held => held, ?_, fun state => ⟨sides state, holds state⟩⟩
  intro left right needed agree
  obtain ⟨value, facts⟩ := same left right needed agree
  refine ⟨congrArg Pure.pure value, ?_⟩
  rintro index (held | held)
  · exact facts index (agree index held)
  · exact facts index held

theorem GoesBy.reads {view : σ → α} (steady : ∀ state, side state state)
    (same : ∀ left right, need left right → Agree fact known left right → view left = view right)
    (holds : ∀ state, post (view state)) :
    (Program.reads view : Program σ ε α).GoesBy fact need side post known := by
  refine ⟨known, fun index held => held, ?_, fun state => ⟨steady state, holds state⟩⟩
  intro left right needed agree
  refine ⟨congrArg Pure.pure (same left right needed agree), ?_⟩
  rintro index (held | held)
  · exact agree index held
  · exact held

theorem GoesBy.learns {rest : Unit → Program σ ε α} (later : ν → Prop)
    (kept : ∀ index, known index → later index)
    (same : ∀ left right, need left right → Agree fact known left right →
      ∀ index, later index ∨ fact index left right → fact index (change left) (change right))
    (sides : ∀ state, side state (change state))
    (continued : (rest ()).GoesBy fact need side post later) :
    (Program.modify change >>= rest).GoesBy fact need side post known :=
  ⟨later, kept, fun left right needed agree => ⟨rfl, same left right needed agree⟩,
    fun state => ⟨sides state, continued⟩⟩

theorem GoesBy.modify {unit : Unit → Prop}
    (same : ∀ left right, need left right → ∀ index, fact index left right →
      fact index (change left) (change right)) (sides : ∀ state, side state (change state))
    (trivially : unit ()) :
    (Program.modify change : Program σ ε Unit).GoesBy fact need side unit known := by
  refine ⟨known, fun index held => held, ?_, fun state => ⟨sides state, trivially⟩⟩
  intro left right needed agree
  refine ⟨rfl, ?_⟩
  rintro index (held | held)
  · exact same left right needed index (agree index held)
  · exact same left right needed index held

theorem GoesBy.bind {first : Program σ ε α} {rest : α → Program σ ε β}
    (started : first.GoesBy fact need side post known)
    (continued : ∀ value, post value → (rest value).GoesBy fact need side goal known) :
    (first >>= rest).GoesBy fact need side goal known := by
  change (first.bind rest).GoesBy fact need side goal known
  induction first generalizing known with
  | done result =>
    cases result with
    | error failure => trivial
    | ok value => exact continued value started
  | atomic change next ih =>
    obtain ⟨later, kept, alike, each⟩ := started
    refine ⟨later, kept, ?_, ?_⟩
    · intro left right needed agree
      obtain ⟨same, facts⟩ := alike left right needed agree
      exact ⟨congrArg (·.bind rest) same, facts⟩
    · intro state
      refine ⟨(each state).1, ih state (each state).2 ?_⟩
      intro value holds
      exact (continued value holds).known_mono kept

theorem GoesBy.recover {body : Program σ ε α} {handler : ε → Program σ ε α}
    (started : body.GoesBy fact need side post known)
    (handled : ∀ failure, (handler failure).GoesBy fact need side post known) :
    (body.recover handler).GoesBy fact need side post known := by
  induction body generalizing known with
  | done result =>
    cases result with
    | error failure => exact handled failure
    | ok value => exact started
  | atomic change next ih =>
    obtain ⟨later, kept, alike, each⟩ := started
    refine ⟨later, kept, ?_, ?_⟩
    · intro left right needed agree
      obtain ⟨same, facts⟩ := alike left right needed agree
      exact ⟨congrArg (·.recover handler) same, facts⟩
    · intro state
      refine ⟨(each state).1, ih state (each state).2 ?_⟩
      intro failure
      exact (handled failure).known_mono kept

theorem GoesBy.whileAtMost {again : α → Bool} {body exhausted : α → Program σ ε α}
    (passed : ∀ value, post value → again value = true →
      (body value).GoesBy fact need side post known)
    (ended : ∀ value, post value → (exhausted value).GoesBy fact need side post known)
    (bound : Nat) (value : α) (started : post value) :
    (Program.whileAtMost again body exhausted bound value).GoesBy fact need side post known := by
  induction bound generalizing value with
  | zero =>
    rw [Program.whileAtMost]
    cases again value
    · exact GoesBy.pure started
    · exact ended value started
  | succ bound ih =>
    rw [Program.whileAtMost]
    cases goesOn : again value
    · exact GoesBy.pure started
    · exact (passed value started goesOn).bind ih

theorem GoesBy.zoom {τ ν' : Type} {view : σ → τ} {replace : τ → σ → σ}
    {fact' : ν' → τ → τ → Prop} {need' side' : τ → τ → Prop} (lift : ν' → ν)
    (needs : ∀ left right, need left right → need' (view left) (view right))
    (lifted : ∀ index left right, fact (lift index) left right ↔
      fact' index (view left) (view right))
    (viewed : ∀ part state, view (replace part state) = part)
    (aside : ∀ index, (∃ part, index = lift part) ∨ ∀ left right part part',
      fact index left right → fact index (replace part left) (replace part' right))
    (sides : ∀ state part, side' (view state) part → side state (replace part state))
    {program : Program τ ε α} {knows : ν' → Prop}
    (goes : program.GoesBy fact' need' side' post knows) :
    (program.zoom view replace).GoesBy fact need side post
      fun index => known index ∨ ∃ part, index = lift part ∧ knows part := by
  induction program generalizing known knows with
  | done result =>
    cases result with
    | ok value => exact goes
    | error failure => trivial
  | atomic change next ih =>
    obtain ⟨later, kept, alike, each⟩ := goes
    refine ⟨fun index => known index ∨ ∃ part, index = lift part ∧ later part, ?_, ?_, ?_⟩
    · rintro index (held | ⟨part, same, held⟩)
      · exact .inl held
      · exact .inr ⟨part, same, kept part held⟩
    · intro left right needed agree
      have inside : Agree fact' knows (view left) (view right) := fun part held =>
        (lifted part left right).mp (agree (lift part) (.inr ⟨part, rfl, held⟩))
      obtain ⟨same, facts⟩ := alike _ _ (needs left right needed) inside
      have whole : ∀ part, later part ∨ fact' part (view left) (view right) →
          fact (lift part) (replace (change (view left)) left)
            (replace (change (view right)) right) := by
        intro part held
        rw [lifted, viewed, viewed]
        exact facts part held
      have other : ∀ index, fact index left right →
          fact index (replace (change (view left)) left)
            (replace (change (view right)) right) := by
        intro index held
        rcases aside index with ⟨part, rfl⟩ | untouched
        · exact whole part (.inr ((lifted part left right).mp held))
        · exact untouched left right _ _ held
      refine ⟨congrArg (zoom view replace) same, ?_⟩
      rintro index ((held | ⟨part, rfl, held⟩) | held)
      · exact other index (agree index (.inl held))
      · exact whole part (.inl held)
      · exact other index held
    · intro state
      exact ⟨sides state _ (each (view state)).1, ih (view state) (each (view state)).2⟩

end GoesBy

end Program

variable {κ η : Type} [DecidableEq κ]

def Pool.attend (call : η → κ) (meets : η → σ → σ) (start : κ → Program σ ε α)
    (events : List η) (pool : Pool κ σ (Program σ ε α)) : Pool κ σ (Program σ ε α) :=
  Pool.play Program.advance start
    (events.flatMap fun event => [.outside (meets event), .turn (call event)]) pool

def Pool.met (meets : η → σ → σ) (event : η) (pool : Pool κ σ (Program σ ε α)) :
    Pool κ σ (Program σ ε α) :=
  { pool with state := meets event pool.state, past := pool.seen }

theorem Pool.attend_cons (call : η → κ) (meets : η → σ → σ) (start : κ → Program σ ε α)
    (event : η) (rest : List η) (pool : Pool κ σ (Program σ ε α)) :
    Pool.attend call meets start (event :: rest) pool =
      Pool.attend call meets start rest
        (Pool.turn Program.advance start (pool.met meets event) (call event)) := rfl

/-- What low calls are shielded from: the facts that they share, what a call goes by, what
its statements may do, and what is so before the events that remain. -/
structure Policy (κ η σ ν : Type) where
  call : η → κ
  meets : η → σ → σ
  low : κ → Bool
  fact : ν → σ → σ → Prop
  need : κ → σ → σ → Prop
  side : κ → σ → σ → Prop
  inv : List η → σ → Prop
  known : List η → ν → Prop
  equivalence : ∀ index, Equivalence (fact index)
  unseen : ∀ index event state, fact index state (meets event state)
  remains : ∀ event rest index, known rest index → known (event :: rest) index
  needed : ∀ event rest left right, low (call event) = true → inv (event :: rest) left →
    Agree fact (known (event :: rest)) left right →
      need (call event) (meets event left) (meets event right)
  held : ∀ event rest state, inv (event :: rest) state → inv rest (meets event state)
  moved : ∀ event rest state reached, inv (event :: rest) state →
    side (call event) (meets event state) reached → inv rest reached
  spared : ∀ event rest state reached, low (call event) = false → inv (event :: rest) state →
    side (call event) (meets event state) reached →
      Agree fact (known rest) (meets event state) reached

namespace Policy

/-- No high call takes a turn between two turns of a low one. -/
def Unbroken (policy : Policy κ η σ ν) (events : List η) : Prop :=
  ∀ first between last, [first, between, last].Sublist events →
    policy.call first = policy.call last → policy.low (policy.call first) = true →
      policy.low (policy.call between) = true

def Going (policy : Policy κ η σ ν) (rest : List η) (left right : σ) (call : κ)
    (program : Program σ ε α) : Prop :=
  ∃ known, program.GoesBy policy.fact (policy.need call) (policy.side call) (fun _ => True) known ∧
    (policy.low call = true → (∃ event ∈ rest, policy.call event = call) →
      Agree policy.fact known left right)

/-- Before the remaining events, the pool looks to the low calls like the one without the
high calls. -/
structure Alike (policy : Policy κ η σ ν) (rest : List η)
    (pool purged : Pool κ σ (Program σ ε α)) : Prop where
  inv : policy.inv rest pool.state
  facts : Agree policy.fact (policy.known rest) pool.state purged.state
  calls : ∀ call, policy.low call = true → pool.calls call = purged.calls call
  going : ∀ call program, pool.calls call = some program →
    policy.Going rest pool.state purged.state call program
  free : ∀ between last, [between, last].Sublist rest → policy.low (policy.call last) = true →
    pool.calls (policy.call last) ≠ none → policy.low (policy.call between) = true

section Purge

variable {policy : Policy κ η σ ν} {event : η} {rest : List η}
  {pool purged : Pool κ σ (Program σ ε α)} {start start' : κ → Program σ ε α}

omit [DecidableEq κ] in
theorem fact_met (policy : Policy κ η σ ν) (event : η) {left right : σ} {index : ν}
    (fact : policy.fact index left right) :
    policy.fact index (policy.meets event left) (policy.meets event right) :=
  (policy.equivalence index).trans
    ((policy.equivalence index).symm (policy.unseen index event left))
    ((policy.equivalence index).trans fact (policy.unseen index event right))

omit [DecidableEq κ] in
theorem Going.tail {left right left' right' : σ} {call : κ} {program : Program σ ε α}
    (going : policy.Going (event :: rest) left right call program)
    (kept : policy.low call = true → (∃ event ∈ rest, policy.call event = call) →
      ∀ index, policy.fact index left right → policy.fact index left' right') :
    policy.Going rest left' right' call program := by
  obtain ⟨known, goes, agree⟩ := going
  refine ⟨known, goes, ?_⟩
  rintro low ⟨later, member, own⟩ index held
  have before := agree low ⟨later, List.mem_cons_of_mem _ member, own⟩ index held
  exact kept low ⟨later, member, own⟩ index before

omit [DecidableEq κ] in
theorem Alike.high (alike : policy.Alike (event :: rest) pool purged)
    (high : policy.low (policy.call event) = false) (state : σ) (past : List σ)
    (calls : κ → Option (Program σ ε α)) (inv : policy.inv rest state)
    (facts : Agree policy.fact (policy.known rest) (policy.meets event pool.state) state)
    (others : ∀ call, call ≠ policy.call event → calls call = pool.calls call)
    (own : ∀ program, calls (policy.call event) = some program → ∃ known,
      program.GoesBy policy.fact (policy.need (policy.call event))
        (policy.side (policy.call event)) (fun _ => True) known) :
    policy.Alike rest { state, past, calls } purged := by
  have differs : ∀ call, policy.low call = true → call ≠ policy.call event := by
    rintro call low rfl
    simp [high] at low
  refine ⟨inv, ?_, ?_, ?_, ?_⟩
  · intro index held
    have before := alike.facts index (policy.remains event rest index held)
    have steady := (policy.equivalence index).trans (policy.unseen index event pool.state)
      (facts index held)
    exact (policy.equivalence index).trans ((policy.equivalence index).symm steady) before
  · intro call low
    exact (others call (differs call low)).trans (alike.calls call low)
  · intro call program found
    by_cases same : call = policy.call event
    · subst same
      obtain ⟨known, goes⟩ := own program found
      refine ⟨known, goes, fun low => ?_⟩
      exact absurd low (by simp [high])
    · replace found := (others call same).symm.trans found
      -- the turn of a high call would stand between two turns of this one
      refine (alike.going call program found).tail fun low ⟨later, member, turns⟩ => ?_
      subst turns
      have between := alike.free event later
        (List.Sublist.cons_cons event (List.singleton_sublist.mpr member)) low (by simp [found])
      exact absurd between (by simp [high])
  · intro between last ordered low begun
    have unchanged := others (policy.call last) (differs _ low)
    exact alike.free between last (ordered.cons event) low (unchanged ▸ begun)

omit [DecidableEq κ] in
theorem Alike.low (alike : policy.Alike (event :: rest) pool purged)
    (unbroken : policy.Unbroken (event :: rest)) (low : policy.low (policy.call event) = true)
    (state state' : σ) (past past' : List σ) (calls calls' : κ → Option (Program σ ε α))
    (inv : policy.inv rest state)
    (facts : ∀ index, policy.fact index (policy.meets event pool.state)
      (policy.meets event purged.state) → policy.fact index state state')
    (others : ∀ call, call ≠ policy.call event → calls call = pool.calls call)
    (others' : ∀ call, call ≠ policy.call event → calls' call = purged.calls call)
    (own : calls (policy.call event) = calls' (policy.call event))
    (going : ∀ program, calls (policy.call event) = some program →
      policy.Going rest state state' (policy.call event) program) :
    policy.Alike rest { state, past, calls } { state := state', past := past', calls := calls' } := by
  have kept : ∀ index, policy.fact index pool.state purged.state →
      policy.fact index state state' :=
    fun index held => facts index (policy.fact_met event held)
  refine ⟨inv, ?_, ?_, ?_, ?_⟩
  · intro index held
    exact kept index (alike.facts index (policy.remains event rest index held))
  · intro call visible
    by_cases same : call = policy.call event
    · rw [same]
      exact own
    · exact (others call same).trans ((alike.calls call visible).trans (others' call same).symm)
  · intro call program found
    by_cases same : call = policy.call event
    · subst same
      exact going program found
    · have before := (others call same).symm.trans found
      exact (alike.going call program before).tail fun _ _ => kept
  · intro between last ordered visible begun
    by_cases same : policy.call last = policy.call event
    · exact unbroken event between last (ordered.cons_cons event) same.symm low
    · have unchanged := others (policy.call last) same
      exact alike.free between last (ordered.cons event) visible (unchanged ▸ begun)

theorem Alike.turn_high (alike : policy.Alike (event :: rest) pool purged)
    (high : policy.low (policy.call event) = false)
    (goes : ∀ call, (start call).GoesBy policy.fact (policy.need call) (policy.side call)
      (fun _ => True) fun _ => False) :
    policy.Alike rest
      (Pool.turn Program.advance start (pool.met policy.meets event) (policy.call event))
      purged := by
  have steady : Agree policy.fact (policy.known rest) (policy.meets event pool.state)
      (policy.meets event pool.state) := fun index _ => (policy.equivalence index).refl _
  have inv := policy.held event rest pool.state alike.inv
  have others (process : Program σ ε α) (call : κ) (differs : call ≠ policy.call event) :
      (pool.met policy.meets event).put (policy.call event) process call = pool.calls call :=
    Function.update_of_ne differs _ _
  unfold Pool.turn
  split
  next unused =>
    refine alike.high high _ _ _ inv steady (others _) ?_
    intro program found
    rw [Pool.put_self, Option.some.injEq] at found
    exact ⟨_, found ▸ goes _⟩
  next process running =>
    obtain ⟨known, goes, -⟩ := alike.going _ process running
    cases process with
    | done result =>
      refine alike.high high _ _ _ inv steady (fun _ _ => rfl) ?_
      intro program found
      exact ⟨known, (Option.some.inj (running.symm.trans found)) ▸ goes⟩
    | atomic change next =>
      obtain ⟨later, -, -, each⟩ := goes
      obtain ⟨within, goes⟩ := each (policy.meets event pool.state)
      refine alike.high high _ _ _ (policy.moved event rest pool.state _ alike.inv within)
        (policy.spared event rest pool.state _ high alike.inv within) (others _) ?_
      intro program found
      rw [Pool.put_self, Option.some.injEq] at found
      exact ⟨later, found ▸ goes⟩

theorem Alike.turn_low (alike : policy.Alike (event :: rest) pool purged)
    (unbroken : policy.Unbroken (event :: rest)) (low : policy.low (policy.call event) = true)
    (same : start (policy.call event) = start' (policy.call event))
    (goes : ∀ call, (start call).GoesBy policy.fact (policy.need call) (policy.side call)
      (fun _ => True) fun _ => False) :
    policy.Alike rest
      (Pool.turn Program.advance start (pool.met policy.meets event) (policy.call event))
      (Pool.turn Program.advance start' (purged.met policy.meets event) (policy.call event)) := by
  have inv := policy.held event rest pool.state alike.inv
  have others (pool : Pool κ σ (Program σ ε α)) (process : Program σ ε α) (call : κ)
      (differs : call ≠ policy.call event) :
      (pool.met policy.meets event).put (policy.call event) process call = pool.calls call :=
    Function.update_of_ne differs _ _
  have shared := alike.calls _ low
  have needed := policy.needed event rest pool.state purged.state low alike.inv alike.facts
  cases running : pool.calls (policy.call event) with
  | none =>
    simp only [Pool.turn, Pool.met, running, ← shared]
    refine alike.low unbroken low _ _ _ _ _ _ inv (fun _ held => held) (others pool _)
      (others purged _) ?_ ?_
    · rw [Pool.put_self, Pool.put_self, same]
    · intro program found
      rw [Pool.put_self, Option.some.injEq] at found
      exact ⟨_, found ▸ goes _, fun _ _ _ => False.elim⟩
  | some process =>
    have going := alike.going _ process running
    cases process with
    | done result =>
      simp only [Pool.turn, Pool.met, running, ← shared, Program.advance]
      refine alike.low unbroken low _ _ _ _ _ _ inv (fun _ held => held) (fun _ _ => rfl)
        (fun _ _ => rfl) shared ?_
      intro program found
      rw [← Option.some.inj (running.symm.trans found)]
      exact going.tail fun _ _ _ => policy.fact_met event
    | atomic change next =>
      obtain ⟨known, goes, agree⟩ := going
      obtain ⟨later, -, step, each⟩ := goes
      obtain ⟨within, goes⟩ := each (policy.meets event pool.state)
      have learnt := agree low ⟨event, List.mem_cons_self .., rfl⟩
      obtain ⟨follows, facts⟩ := step _ _ needed fun index held =>
        policy.fact_met event (learnt index held)
      simp only [Pool.turn, Pool.met, running, ← shared, Program.advance]
      refine alike.low unbroken low _ _ _ _ _ _
        (policy.moved event rest pool.state _ alike.inv within)
        (fun index held => facts index (.inr held)) (others pool _) (others purged _) ?_ ?_
      · rw [Pool.put_self, Pool.put_self, follows]
      · intro program found
        rw [Pool.put_self, Option.some.injEq] at found
        exact ⟨later, found ▸ goes, fun _ _ index held => facts index (.inl held)⟩

theorem purge (goes : ∀ call, (start call).GoesBy policy.fact (policy.need call)
      (policy.side call) (fun _ => True) fun _ => False)
    (same : ∀ call, policy.low call = true → start call = start' call) (events : List η)
    (unbroken : policy.Unbroken events) (alike : policy.Alike events pool purged) :
    policy.Alike []
      (Pool.attend policy.call policy.meets start events pool)
      (Pool.attend policy.call policy.meets start'
        (events.filter fun event => policy.low (policy.call event)) purged) := by
  induction events generalizing pool purged with
  | nil => exact alike
  | cons event rest ih =>
    have unbroken' : policy.Unbroken rest := fun first between last ordered =>
      unbroken first between last (ordered.cons event)
    rw [Pool.attend_cons]
    cases low : policy.low (policy.call event) with
    | false =>
      rw [List.filter_cons_of_neg (by simp [low])]
      exact ih unbroken' (alike.turn_high low goes)
    | true =>
      rw [List.filter_cons_of_pos (by simp [low]), Pool.attend_cons]
      exact ih unbroken' (alike.turn_low unbroken low (same _ low) goes)

omit [DecidableEq κ] in
theorem alike_idle (policy : Policy κ η σ ν) (events : List η) (state : σ)
    (inv : policy.inv events state) :
    policy.Alike events (Pool.idle state : Pool κ σ (Program σ ε α)) (Pool.idle state) where
  inv := inv
  facts index _ := (policy.equivalence index).refl state
  calls _ _ := rfl
  going _ _ found := nomatch found
  free _ _ _ _ begun := absurd rfl begun

end Purge

end Policy

end Lib
