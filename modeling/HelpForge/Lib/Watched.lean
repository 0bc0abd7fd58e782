import HelpForge.Lib.Statements

set_option autoImplicit false

namespace Lib

variable {σ ε α β : Type}

structure Watched (σ ε α : Type) where
  program : Program σ ε α
  /-- The states that the executed statements have found, the latest first. -/
  met : List σ := []

def Watched.advance (watched : Watched σ ε α) (state : σ) : Option (Watched σ ε α × σ) :=
  (watched.program.advance state).map fun step =>
    ({ program := step.1, met := state :: watched.met }, step.2)

namespace Program

/-- As `Upholds`, for the statements that are permitted by the states that the call has met and
those before and after. -/
def UpholdsWhere (inv : List σ → Prop) (permitted : List σ → σ → σ → Prop)
    (post : List σ → List σ → Except ε α → Prop) : Program σ ε α → List σ → List σ → Prop
  | done result, met, seen => post met seen result
  | atomic change next, met, seen =>
    ∀ state past, seen <:+ state :: past → inv (state :: past) →
      permitted met state (change state) →
      inv (change state :: state :: past) ∧
        (next state).UpholdsWhere inv permitted post (state :: met) (change state :: state :: past)

def anyEnd (_ _ : List σ) (_ : Except ε α) : Prop := True

section UpholdsWhere

variable {inv : List σ → Prop} {permitted : List σ → σ → σ → Prop}
  {mid post : List σ → List σ → Except ε α → Prop} {goal : List σ → List σ → Except ε β → Prop}
  {program : Program σ ε α} {seen : List σ} {met : List σ}

theorem UpholdsWhere.later {later : List σ} (grown : seen <:+ later)
    (upheld : program.UpholdsWhere inv permitted anyEnd met seen) :
    program.UpholdsWhere inv permitted anyEnd met later := by
  cases program with
  | done result => trivial
  | atomic change next =>
    intro state past longer holds allowed
    exact upheld state past (grown.trans longer) holds allowed

theorem Upholds.anywhere {after : List σ → Except ε α → Prop} (met : List σ)
    (upheld : program.Upholds inv after seen) :
    program.UpholdsWhere inv permitted (fun _ => after) met seen := by
  induction program generalizing met seen with
  | done result => exact upheld
  | atomic change next ih =>
    intro state past grown holds _
    obtain ⟨kept, continues⟩ := upheld state past grown holds
    exact ⟨kept, ih state (state :: met) continues⟩

theorem Each.upholdsWhere {rule : (σ → σ) → σ → Prop} (each : program.Each rule)
    (kept : ∀ change state past, rule change state → inv (state :: past) →
      inv (change state :: state :: past)) (met seen : List σ) :
    program.UpholdsWhere inv permitted anyEnd met seen := by
  induction program generalizing met seen with
  | done result => trivial
  | atomic change next ih =>
    intro state past _ holds _
    obtain ⟨now, later⟩ := each state
    exact ⟨kept change state past now holds, ih state later _ _⟩

theorem UpholdsWhere.weaken (upheld : program.UpholdsWhere inv permitted mid met seen)
    (weaker : ∀ met seen result, mid met seen result → post met seen result) :
    program.UpholdsWhere inv permitted post met seen := by
  induction program generalizing met seen with
  | done result => exact weaker met seen result upheld
  | atomic change next ih =>
    intro state past grown holds allowed
    obtain ⟨kept, continues⟩ := upheld state past grown holds allowed
    exact ⟨kept, ih state continues⟩

theorem UpholdsWhere.bind {first : Program σ ε α} {rest : α → Program σ ε β}
    (started : first.UpholdsWhere inv permitted mid met seen)
    (continued : ∀ value met later, seen <:+ later → mid met later (.ok value) →
      (rest value).UpholdsWhere inv permitted goal met later)
    (stopped : ∀ failure met later, seen <:+ later → mid met later (.error failure) →
      goal met later (.error failure)) :
    (first >>= rest).UpholdsWhere inv permitted goal met seen := by
  change (first.bind rest).UpholdsWhere inv permitted goal met seen
  induction first generalizing met seen with
  | done result =>
    cases result with
    | error failure => exact stopped failure met seen (List.suffix_refl seen) started
    | ok value => exact continued value met seen (List.suffix_refl seen) started
  | atomic change next ih =>
    intro state past grown holds allowed
    obtain ⟨kept, after⟩ := started state past grown holds allowed
    have longer : seen <:+ change state :: state :: past :=
      grown.trans (List.suffix_cons (change state) (state :: past))
    exact ⟨kept, ih state after
      (fun value met later more => continued value met later (longer.trans more))
      (fun failure met later more => stopped failure met later (longer.trans more))⟩

theorem UpholdsWhere.recover {body : Program σ ε α} {handler : ε → Program σ ε α}
    (started : body.UpholdsWhere inv permitted mid met seen)
    (finished : ∀ value met later, seen <:+ later → mid met later (.ok value) →
      post met later (.ok value))
    (handled : ∀ failure met later, seen <:+ later → mid met later (.error failure) →
      (handler failure).UpholdsWhere inv permitted post met later) :
    (body.recover handler).UpholdsWhere inv permitted post met seen := by
  induction body generalizing met seen with
  | done result =>
    cases result with
    | error failure => exact handled failure met seen (List.suffix_refl seen) started
    | ok value => exact finished value met seen (List.suffix_refl seen) started
  | atomic change next ih =>
    intro state past grown holds allowed
    obtain ⟨kept, after⟩ := started state past grown holds allowed
    have longer : seen <:+ change state :: state :: past :=
      grown.trans (List.suffix_cons (change state) (state :: past))
    exact ⟨kept, ih state after
      (fun value met later more => finished value met later (longer.trans more))
      (fun failure met later more => handled failure met later (longer.trans more))⟩

theorem UpholdsWhere.attempt {body : σ → Except ε (α × σ)} {met seen : List σ}
    (succeeded : ∀ state past value reached, seen <:+ state :: past → inv (state :: past) →
      permitted met state reached → body state = .ok (value, reached) →
      inv (reached :: state :: past) ∧ post (state :: met) (reached :: state :: past) (.ok value))
    (failed : ∀ state past failure, seen <:+ state :: past → inv (state :: past) →
      inv (state :: state :: past) ∧ post (state :: met) (state :: state :: past) (.error failure)) :
    (Program.attempt body).UpholdsWhere inv permitted post met seen := by
  intro state past grown holds
  rcases outcome : body state with failure | ⟨value, reached⟩ <;> simp only [outcome] <;>
    intro allowed
  · exact failed state past failure grown holds
  · exact succeeded state past value reached grown holds allowed outcome

theorem UpholdsWhere.transaction {body : Program σ ε α} {met seen : List σ}
    (succeeded : ∀ state past value reached, seen <:+ state :: past → inv (state :: past) →
      permitted met state reached → body.run state = (.ok value, reached) →
      inv (reached :: state :: past) ∧ post (state :: met) (reached :: state :: past) (.ok value))
    (failed : ∀ state past failure, seen <:+ state :: past → inv (state :: past) →
      inv (state :: state :: past) ∧ post (state :: met) (state :: state :: past) (.error failure)) :
    (Program.transaction body).UpholdsWhere inv permitted post met seen := by
  refine UpholdsWhere.attempt ?_ failed
  intro state past value reached grown holds allowed outcome
  rcases ran : body.run state with ⟨failure | result, after⟩ <;> rw [ran] at outcome <;>
    cases outcome
  exact succeeded state past value reached grown holds allowed ran

end UpholdsWhere

end Program

namespace Pool

variable {κ : Type} [DecidableEq κ] {begins : List σ → κ → Program σ ε α → Prop}
  {environment : σ → σ → Prop} {permitted : κ → List σ → σ → σ → Prop}

def watching (begins : List σ → κ → Program σ ε α → Prop) (environment : σ → σ → Prop) :
    System κ σ (Watched σ ε α) where
  advance := Watched.advance
  begins seen call watched := begins seen call watched.program ∧ watched.met = []
  environment

/-- The statements that the condition permits. -/
def permitting (permitted : κ → List σ → σ → σ → Prop) (pool : Pool κ σ (Watched σ ε α)) (call : κ)
    (watched : Watched σ ε α) : Prop :=
  ∀ next reached, watched.advance pool.state = some (next, reached) →
    permitted call watched.met pool.state reached

variable {inv : List σ → Prop}

/-- The history satisfies `inv`, and each call upholds it by the statements that are left. -/
def UpheldWhere (inv : List σ → Prop) (permitted : κ → List σ → σ → σ → Prop)
    (pool : Pool κ σ (Watched σ ε α)) : Prop :=
  inv pool.seen ∧ ∀ call watched, pool.calls call = some watched →
    watched.program.UpholdsWhere inv (permitted call) Program.anyEnd watched.met pool.seen

theorem Step.upheldWhere
    (outside : ∀ state past reached, inv (state :: past) → environment state reached →
      inv (reached :: state :: past))
    (upholds : ∀ seen call program, inv seen → begins seen call program →
      program.UpholdsWhere inv (permitted call) Program.anyEnd [] seen)
    {pool reached : Pool κ σ (Watched σ ε α)}
    (stepped : Step (watching begins environment) (permitting permitted) pool reached)
    (held : UpheldWhere inv permitted pool) : UpheldWhere inv permitted reached := by
  obtain ⟨holds, each⟩ := held
  cases stepped with
  | start call watched unused begun =>
    refine ⟨holds, pool.put_forall ?_ each⟩
    rw [begun.2]
    exact upholds pool.seen call watched.program holds begun.1
  | statement call watched next state running allowed advanced =>
    have permitted := allowed next state advanced
    obtain ⟨program, met⟩ := watched
    cases program with
    | done result => cases advanced
    | atomic change continue_ =>
      simp only [watching, Watched.advance, Program.advance, Option.map_some, Option.some.injEq,
        Prod.mk.injEq] at advanced
      obtain ⟨rfl, rfl⟩ := advanced
      obtain ⟨kept, continues⟩ :=
        each call _ running pool.state pool.past (List.suffix_refl _) holds permitted
      refine ⟨kept, pool.put_forall continues fun other watched' before => ?_⟩
      exact (each other watched' before).later (List.suffix_cons _ _)
  | outside state moved =>
    refine ⟨outside pool.state pool.past state holds moved, fun call watched running => ?_⟩
    exact (each call watched running).later (List.suffix_cons _ _)

/-- If every call upholds `inv` by the statements that are permitted, then so does every
interleaving of permitted statements. -/
theorem Run.upheldWhere
    (outside : ∀ state past reached, inv (state :: past) → environment state reached →
      inv (reached :: state :: past))
    (upholds : ∀ seen call program, inv seen → begins seen call program →
      program.UpholdsWhere inv (permitted call) Program.anyEnd [] seen)
    {start : σ} {final : Pool κ σ (Watched σ ε α)}
    (run : Run (watching begins environment) (permitting permitted) (idle start) final)
    (holds : inv [start]) : inv final.seen := by
  have nothing : UpheldWhere inv permitted (idle start : Pool κ σ (Watched σ ε α)) :=
    ⟨holds, nofun⟩
  exact (run.invariant (fun _ _ held stepped => stepped.upheldWhere outside upholds held) nothing).1

end Pool

end Lib
