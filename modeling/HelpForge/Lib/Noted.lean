import HelpForge.Lib.Purge
import HelpForge.Lib.Statements

set_option autoImplicit false

/-!
# Programs that take notes

The notes are not read: a program without them does the same.
-/

namespace Lib

structure Noted (σ ν : Type) where
  state : σ
  notes : List ν := []

variable {σ ν ε α β : Type} {handler : ε → Program (Noted σ ν) ε α}
  {program : Program (Noted σ ν) ε α} {body : Program (Noted σ ν) ε α}

namespace Program

def quietly (program : Program σ ε α) : Program (Noted σ ν) ε α :=
  program.zoom Noted.state fun state noted => { noted with state }

/-- A stretch of code of which something is noted. -/
def noting (body : StateM σ α) (note : σ → List ν) : Program (Noted σ ν) ε α :=
  atomic
    (fun noted =>
      { state := (body.run noted.state).2, notes := noted.notes ++ note noted.state })
    fun noted => pure (body.run noted.state).1

/-- The program does what the other one does, and takes notes. -/
def Erases : Program (Noted σ ν) ε α → Program σ ε α → Prop
  | done result, done result' => result = result'
  | atomic change next, atomic change' next' => ∀ noted,
    (change noted).state = change' noted.state ∧ (next noted).Erases (next' noted.state)
  | _, _ => False

variable {plain : Program σ ε α}

namespace Erases

theorem done (result : Except ε α) :
    (Program.done result : Program (Noted σ ν) ε α).Erases (Program.done result) := rfl

theorem pure (value : α) :
    (Pure.pure value : Program (Noted σ ν) ε α).Erases (Pure.pure value) := rfl

theorem noting (body : StateM σ α) (note : σ → List ν) :
    (Program.noting body note : Program (Noted σ ν) ε α).Erases (Program.stretch body) :=
  fun _ => ⟨rfl, rfl⟩

theorem quietly (program : Program σ ε α) :
    (program.quietly : Program (Noted σ ν) ε α).Erases program := by
  induction program with
  | done result => rfl
  | atomic change next ih => exact fun noted => ⟨rfl, ih noted.state⟩

theorem bind {first : Program (Noted σ ν) ε α} {rest : α → Program (Noted σ ν) ε β}
    {rest' : α → Program σ ε β} (one : first.Erases plain)
    (other : ∀ value, (rest value).Erases (rest' value)) :
    (first >>= rest).Erases (plain >>= rest') := by
  change (first.bind rest).Erases (plain.bind rest')
  induction first generalizing plain with
  | done result =>
    cases plain with
    | done result' =>
      cases one
      cases result with
      | error failure => rfl
      | ok value => exact other value
    | atomic change' next' => cases one
  | atomic change next ih =>
    cases plain with
    | done result' => cases one
    | atomic change' next' => exact fun noted => ⟨(one noted).1, ih noted (one noted).2⟩

theorem recover {handler' : ε → Program σ ε α} (one : body.Erases plain)
    (other : ∀ failure, (handler failure).Erases (handler' failure)) :
    (body.recover handler).Erases (plain.recover handler') := by
  induction body generalizing plain with
  | done result =>
    cases plain with
    | done result' =>
      cases one
      cases result with
      | error failure => exact other failure
      | ok value => rfl
    | atomic change' next' => cases one
  | atomic change next ih =>
    cases plain with
    | done result' => cases one
    | atomic change' next' => exact fun noted => ⟨(one noted).1, ih noted (one noted).2⟩

theorem advance (erases : program.Erases plain) (noted : Noted σ ν) :
    match program.advance noted, plain.advance noted.state with
    | none, none => True
    | some (next, reached), some (next', reached') => reached.state = reached' ∧ next.Erases next'
    | _, _ => False := by
  cases program with
  | done result =>
    cases plain with
    | done result' => trivial
    | atomic change' next' => cases erases
  | atomic change next =>
    cases plain with
    | done result' => cases erases
    | atomic change' next' => exact erases noted

end Erases

section Maintains

variable {inv : Noted σ ν → Prop}

theorem Maintains.done (result : Except ε α) :
    (Program.done result : Program (Noted σ ν) ε α).Maintains inv := trivial

theorem Maintains.recover (tried : body.Maintains inv)
    (handled : ∀ failure, (handler failure).Maintains inv) :
    (body.recover handler).Maintains inv := by
  induction body with
  | done result =>
    cases result with
    | error failure => exact handled failure
    | ok value => trivial
  | atomic change next ih =>
    intro noted holds
    obtain ⟨kept, after⟩ := tried noted holds
    exact ⟨kept, ih noted after⟩

theorem Maintains.quietly {program : Program σ ε α}
    (each : program.Each fun change state =>
      ∀ notes, inv { state, notes } → inv { state := change state, notes }) :
    (program.quietly : Program (Noted σ ν) ε α).Maintains inv := by
  induction program with
  | done result => trivial
  | atomic change next ih =>
    intro noted holds
    obtain ⟨now, later⟩ := each noted.state
    exact ⟨now noted.notes holds, ih noted.state later⟩

theorem Maintains.noting {body : StateM σ α} {note : σ → List ν}
    (kept : ∀ state notes, inv { state, notes } →
      inv { state := (body.run state).2, notes := notes ++ note state }) :
    (Program.noting body note : Program (Noted σ ν) ε α).Maintains inv :=
  fun noted holds => ⟨kept noted.state noted.notes holds, trivial⟩

end Maintains

theorem Each.always {rule : (σ → σ) → σ → Prop} (holds : ∀ change state, rule change state)
    (program : Program σ ε α) : program.Each rule := by
  induction program with
  | done result => trivial
  | atomic change next ih => exact fun state => ⟨holds change state, ih state⟩

end Program

namespace Pool

variable {κ η : Type}

/-- The calls do what the calls of the other pool do. -/
structure Erases (pool : Pool κ (Noted σ ν) (Program (Noted σ ν) ε α))
    (plain : Pool κ σ (Program σ ε α)) : Prop where
  state : pool.state.state = plain.state
  calls : ∀ call, match pool.calls call, plain.calls call with
    | none, none => True
    | some program, some program' => program.Erases program'
    | _, _ => False

variable [DecidableEq κ] {pool : Pool κ (Noted σ ν) (Program (Noted σ ν) ε α)}
  {plain : Pool κ σ (Program σ ε α)}

theorem Erases.put (erases : pool.Erases plain) (call : κ) {program' : Program σ ε α}
    (same : program.Erases program') (other : κ) :
    match pool.put call program other, plain.put call program' other with
    | none, none => True
    | some program, some program' => program.Erases program'
    | _, _ => False := by
  unfold Pool.put
  by_cases own : other = call
  · subst own
    simpa using same
  · rw [Function.update_of_ne own, Function.update_of_ne own]
    exact erases.calls other

variable {start : κ → Program (Noted σ ν) ε α} {start' : κ → Program σ ε α}

theorem Erases.turn (erases : pool.Erases plain)
    (starts : ∀ call, (start call).Erases (start' call)) (call : κ) :
    (Pool.turn Program.advance start pool call).Erases
      (Pool.turn Program.advance start' plain call) := by
  have own := erases.calls call
  unfold Pool.turn
  cases running : pool.calls call with
  | none =>
    cases running' : plain.calls call with
    | none => exact ⟨erases.state, erases.put call (starts call)⟩
    | some program' =>
      rw [running, running'] at own
      cases own
  | some program =>
    cases running' : plain.calls call with
    | none =>
      rw [running, running'] at own
      cases own
    | some program' =>
      rw [running, running'] at own
      have advanced := own.advance pool.state
      rw [erases.state] at advanced
      simp only
      cases here : program.advance pool.state with
      | none =>
        cases there : program'.advance plain.state with
        | none => exact erases
        | some next' =>
          rw [here, there] at advanced
          cases advanced
      | some next =>
        cases there : program'.advance plain.state with
        | none =>
          rw [here, there] at advanced
          cases advanced
        | some next' =>
          rw [here, there] at advanced
          exact ⟨advanced.1, erases.put call advanced.2⟩

variable {call : η → κ}

theorem Erases.attend {meets : η → Noted σ ν → Noted σ ν} {meets' : η → σ → σ}
    (met : ∀ event noted, (meets event noted).state = meets' event noted.state)
    (starts : ∀ call, (start call).Erases (start' call)) (events : List η)
    (erases : pool.Erases plain) :
    (Pool.attend call meets start events pool).Erases
      (Pool.attend call meets' start' events plain) := by
  induction events generalizing pool plain with
  | nil => exact erases
  | cons event rest ih =>
    have same := met event pool.state
    rw [erases.state] at same
    have now : (pool.met meets event).Erases (plain.met meets' event) := ⟨same, erases.calls⟩
    rw [Pool.attend_cons, Pool.attend_cons]
    exact ih (now.turn starts (call event))

theorem attend_maintained {inv : σ → Prop} {meets : η → σ → σ} {start : κ → Program σ ε α}
    {events : List η} (met : ∀ event ∈ events, ∀ state, inv state → inv (meets event state))
    (maintains : ∀ call, (start call).Maintains inv) {pool : Pool κ σ (Program σ ε α)}
    (held : Maintained inv pool) : Maintained inv (Pool.attend call meets start events pool) := by
  let environment : σ → σ → Prop := fun state reached => inv state → inv reached
  let begins : List σ → κ → Program σ ε α → Prop := fun _ call program => program = start call
  have run : Run (ofPrograms begins environment) anyStatement pool
      (Pool.attend call meets start events pool) := by
    refine play_run (fun _ _ => rfl) _ ?_ pool
      (permits_any _ _ _ _)
    intro change member state
    obtain ⟨event, among, here⟩ := List.mem_flatMap.mp member
    rcases List.mem_pair.mp here with same | impossible
    · cases same
      exact met event among state
    · cases impossible
  refine run.maintained (fun _ _ holds moved => moved holds) ?_ held
  rintro _ call program rfl
  exact maintains call

end Pool

end Lib
