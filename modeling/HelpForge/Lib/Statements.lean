import HelpForge.Lib.History
import HelpForge.Lib.Loop

set_option autoImplicit false

/-!
# Rules for single statements

What every statement of a program keeps to, every interleaving keeps to.
-/

namespace Lib

namespace Program

variable {σ ε α β : Type}

def Each (rule : (σ → σ) → σ → Prop) : Program σ ε α → Prop
  | done _ => True
  | atomic change next => ∀ state, rule change state ∧ (next state).Each rule

section Each

variable {rule rule' : (σ → σ) → σ → Prop} {program : Program σ ε α}

theorem Each.weaken (each : program.Each rule)
    (weaker : ∀ change state, rule change state → rule' change state) : program.Each rule' := by
  induction program with
  | done result => trivial
  | atomic change next ih =>
    intro state
    have now := each state
    exact ⟨weaker change state now.1, ih state now.2⟩

theorem Each.pure (value : α) : (Pure.pure value : Program σ ε α).Each rule := trivial

theorem Each.done (result : Except ε α) : (Program.done result).Each rule := trivial

theorem Each.reads {view : σ → α} (steady : ∀ state, rule id state) :
    (Program.reads view : Program σ ε α).Each rule :=
  fun state => ⟨steady state, trivial⟩

theorem Each.modify {change : σ → σ} (holds : ∀ state, rule change state) :
    (Program.modify change : Program σ ε Unit).Each rule :=
  fun state => ⟨holds state, trivial⟩

theorem Each.stretch {body : StateM σ α}
    (holds : ∀ state, rule (fun state => (body.run state).2) state) :
    (Program.stretch body : Program σ ε α).Each rule :=
  fun state => ⟨holds state, trivial⟩

theorem Each.bind {first : Program σ ε α} {rest : α → Program σ ε β}
    (started : first.Each rule) (continued : ∀ value, (rest value).Each rule) :
    (first >>= rest).Each rule := by
  change (first.bind rest).Each rule
  induction first with
  | done result =>
    cases result with
    | ok value => exact continued value
    | error failure => trivial
  | atomic change next ih =>
    intro state
    have now := started state
    exact ⟨now.1, ih state now.2⟩

theorem Each.recover {body : Program σ ε α} {handler : ε → Program σ ε α}
    (started : body.Each rule) (handled : ∀ failure, (handler failure).Each rule) :
    (body.recover handler).Each rule := by
  induction body with
  | done result =>
    cases result with
    | ok value => trivial
    | error failure => exact handled failure
  | atomic change next ih =>
    intro state
    have now := started state
    exact ⟨now.1, ih state now.2⟩

/-! Rules that relate the state before a statement to the one after it. -/

section Relating

variable {rel : σ → σ → Prop}

theorem Each.attempt {body : σ → Except ε (α × σ)} (refl : ∀ state, rel state state)
    (done : ∀ state value reached, body state = .ok (value, reached) → rel state reached) :
    (Program.attempt body).Each fun change state => rel state (change state) := by
  intro state
  rcases outcome : body state with failure | ⟨value, reached⟩ <;> simp only [outcome]
  · exact ⟨refl state, trivial⟩
  · exact ⟨done state value reached outcome, trivial⟩

end Relating

theorem Each.require {condition : Bool} {failure : ε} :
    (Program.require condition failure : Program σ ε Unit).Each rule := by
  cases condition <;> trivial

theorem Each.orFail {found : Option α} {failure : ε} :
    (Program.orFail found failure : Program σ ε α).Each rule := by
  cases found <;> trivial

theorem Each.whileAtMost {again : α → Bool} {body exhausted : α → Program σ ε α}
    (passed : ∀ value, (body value).Each rule) (ended : ∀ value, (exhausted value).Each rule)
    (bound : Nat) (value : α) :
    (Program.whileAtMost again body exhausted bound value).Each rule := by
  induction bound generalizing value with
  | zero =>
    rw [Program.whileAtMost]
    split
    · exact ended value
    · trivial
  | succ bound ih =>
    rw [Program.whileAtMost]
    split
    · exact (passed value).bind ih
    · trivial

theorem Each.zoom {τ : Type} {view : σ → τ} {replace : τ → σ → σ} {part : (τ → τ) → τ → Prop}
    {program : Program τ ε α} (each : program.Each part)
    (whole : ∀ change state, part change (view state) →
      rule (fun state => replace (change (view state)) state) state) :
    (program.zoom view replace).Each rule := by
  induction program with
  | done result => trivial
  | atomic change next ih =>
    intro state
    have now := each (view state)
    exact ⟨whole change state now.1, ih (view state) now.2⟩

theorem Each.run {rel : σ → σ → Prop} (each : program.Each rule) (refl : ∀ state, rel state state)
    (trans : ∀ first second third, rel first second → rel second third → rel first third)
    (step : ∀ change state, rule change state → rel state (change state)) (state : σ) :
    rel state (program.run state).2 := by
  induction program generalizing state with
  | done result => exact refl state
  | atomic change next ih =>
    obtain ⟨now, later⟩ := each state
    exact trans _ _ _ (step change state now) (ih state later (change state))

end Each

end Program

namespace History

variable {σ : Type} {init : σ → Prop} {step : List σ → σ → σ → Prop}

theorem stepped {seen : List σ} (run : History init step seen) (past : List σ)
    (state reached : σ) (part : reached :: state :: past <:+ seen) :
    step (state :: past) state reached := by
  induction run with
  | start state _ =>
    have shorter := part.length_le
    simp at shorter
  | next past' state' reached' _ made ih =>
    rcases List.suffix_cons_iff.mp part with same | earlier
    · cases same
      exact made
    · exact ih earlier

end History

namespace Pool

variable {κ σ ε α : Type} [DecidableEq κ]

def Permitted (permitted : κ → (σ → σ) → σ → Prop) (pool : Pool κ σ (Program σ ε α)) (call : κ)
    (program : Program σ ε α) : Prop :=
  ∀ change next, program = .atomic change next → permitted call change pool.state

theorem turn_cases (programs : κ → Program σ ε α) (pool : Pool κ σ (Program σ ε α)) (call : κ) :
    (turn Program.advance programs pool call).state = pool.state ∨
      ∃ change next, pool.calls call = some (.atomic change next) ∧
        turn Program.advance programs pool call =
          { state := change pool.state, past := pool.seen,
            calls := pool.put call (next pool.state) } := by
  cases running : pool.calls call with
  | none => simp only [turn, running, true_or]
  | some program =>
    cases program with
    | done result => simp only [turn, running, Program.advance, true_or]
    | atomic change next =>
      exact .inr ⟨change, next, rfl, by simp only [turn, running, Program.advance]⟩

/-- What holds of a program as it begins, and of what any of its statements leaves, holds of the
call wherever it stands. -/
theorem play_stands {programs : κ → Program σ ε α} {call : κ} {holds : Program σ ε α → Prop}
    (later : ∀ change next, holds (.atomic change next) → ∀ state, holds (next state))
    (begins : holds (programs call)) (moves : List (Move κ σ)) {start : σ}
    (program : Program σ ε α)
    (running : (play Program.advance programs moves (idle start)).calls call = some program) :
    holds program := by
  refine play_keeps (fun pool : Pool κ σ (Program σ ε α) =>
    ∀ program, pool.calls call = some program → holds program) moves ?_ ?_ (by rintro _ ⟨⟩)
    program running
  · intro pool other held
    by_cases same : call = other
    · subst same
      intro program there
      cases running : pool.calls call with
      | none =>
        simp only [turn, running, put_self, Option.some.injEq] at there
        exact there ▸ begins
      | some process =>
        cases process with
        | done result =>
          simp only [turn, running, Program.advance] at there
          exact held program (running ▸ there)
        | atomic change next =>
          simp only [turn, running, Program.advance, put_self, Option.some.injEq] at there
          exact there ▸ later change next (held _ running) pool.state
    · rwa [turn_other _ _ _ _ _ same]
  · exact fun change among pool held => held

section Permit

variable {P : Type} {system : System κ σ P} {allowed : Pool κ σ P → κ → P → Prop}

theorem Step.seen_suffix {pool reached : Pool κ σ P} (stepped : Step system allowed pool reached) :
    pool.seen <:+ reached.seen := by
  cases stepped with
  | start call process unused begun => exact List.suffix_refl _
  | statement call process next state running permitted advanced => exact List.suffix_cons _ _
  | outside state moved => exact List.suffix_cons _ _

theorem Run.permit {pool final : Pool κ σ P} (run : Run system anyStatement pool final)
    (holds : ∀ middle : Pool κ σ P, middle.seen <:+ final.seen → ∀ call process,
      allowed middle call process) : Run system allowed pool final := by
  induction run with
  | refl => exact .refl
  | @tail middle final _ stepped ih =>
    have grown := stepped.seen_suffix
    have before := ih fun earlier within => holds earlier (within.trans grown)
    refine before.tail ?_
    cases stepped with
    | start call process unused begun => exact .start middle call process unused begun
    | statement call process next state running permitted advanced =>
      exact .statement middle call process next state running (holds middle grown _ _) advanced
    | outside state moved => exact .outside middle state moved

end Permit

variable {begins : List σ → κ → Program σ ε α → Prop} {environment : σ → σ → Prop}
  {permitted rule : κ → (σ → σ) → σ → Prop}

/-- A call has made a change that it was permitted to make and that keeps to its rule, or the
state has changed from outside. -/
def Moved (permitted rule : κ → (σ → σ) → σ → Prop) (environment : σ → σ → Prop)
    (_ : List σ) (state reached : σ) : Prop :=
  (∃ call change, permitted call change state ∧ rule call change state ∧ reached = change state) ∨
    environment state reached

theorem Run.history {start : σ} {final : Pool κ σ (Program σ ε α)}
    (run : Run (ofPrograms begins environment) (Permitted permitted) (idle start) final)
    (keeps : ∀ seen call program, begins seen call program → program.Each (rule call)) :
    History (· = start) (Moved permitted rule environment) final.seen ∧
      ∀ call program, final.calls call = some program → program.Each (rule call) := by
  induction run with
  | refl => exact ⟨.start start rfl, nofun⟩
  | @tail middle final _ made ih =>
    obtain ⟨history, each⟩ := ih
    cases made with
    | start call program unused begun =>
      exact ⟨history, middle.put_forall (keeps _ _ _ begun) each⟩
    | statement call program next state running allowed advanced =>
      cases program with
      | done result => cases advanced
      | atomic change following =>
        simp only [ofPrograms, Program.advance, Option.some.injEq, Prod.mk.injEq] at advanced
        obtain ⟨rfl, rfl⟩ := advanced
        have now := each call _ running middle.state
        have moved : Moved permitted rule environment middle.seen middle.state
            (change middle.state) :=
          .inl ⟨call, change, allowed change following rfl, now.1, rfl⟩
        exact ⟨.next middle.past middle.state _ history moved, middle.put_forall now.2 each⟩
    | outside state moved =>
      exact ⟨.next middle.past middle.state state history (.inr moved), each⟩

end Pool

end Lib
