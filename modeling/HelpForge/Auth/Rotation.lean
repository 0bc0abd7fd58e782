import HelpForge.Auth.Effects

set_option autoImplicit false

namespace HelpForge.Auth

open Lib

def stored (db : Database) (refreshToken : Nat) : Prop :=
  ∃ row ∈ db.refreshTokens, row.token = refreshToken

variable (db : Database)

theorem stored_iff (refreshToken : Nat) :
    stored db refreshToken ↔ (findRefreshTokenIn db refreshToken).isSome := by
  simp [stored, findRefreshTokenIn, List.find?_isSome]

theorem dropRefreshToken_not_stored (refreshToken : Nat) :
    ¬ stored (dropRefreshToken refreshToken db) refreshToken := by
  rintro ⟨row, member, same⟩
  simp [dropRefreshToken, same] at member

def Issued (db : Database) : Prop := ∀ row ∈ db.refreshTokens, row.token < db.nextId

variable (setup : AuthSetup) (refreshToken : Nat) (phase : Phase) (next : Phase) (world : World)
  (reached : World)

namespace Phase

def unspent (refreshToken : Nat) : Phase → Prop
  -- A call that rotates the token and has not deleted it yet.
  | refreshFind token => token = refreshToken
  | refreshDate token _ => token = refreshToken
  | dropExpired token => token = refreshToken
  | dropOrphan token => token = refreshToken
  | dropRotated token _ => token = refreshToken
  | userGet (.rotate token) _ => token = refreshToken
  | userRead (.rotate token) _ => token = refreshToken
  | userPut (.rotate token) _ => token = refreshToken
  | finished (.error _) => True
  | _ => False

def spent : Phase → Prop
  | scopeGet _ => True
  | scopeRead _ => True
  | scopePut _ _ => True
  | sign _ _ => True
  | date _ _ => True
  | create _ _ _ => True
  | finished (.ok _) => True
  | _ => False

theorem unspent_not_spent (unspent : phase.unspent refreshToken) : ¬ phase.spent := by
  cases phase with
  | finished result =>
    cases result with
    | ok => exact unspent.elim
    | error => exact id
  | scopeGet | scopeRead | scopePut | sign | date | create => exact unspent.elim
  | _ => exact id

theorem deleting_cases (following : Phase) (world reached : World)
    (deleted : deleting refreshToken next world = (following, reached)) :
    (∃ failure, following = .failed failure ∧ reached = world) ∨
      (following = next ∧ stored world.db refreshToken ∧
        reached = world.withDb (dropRefreshToken refreshToken)) := by
  unfold deleting at deleted
  split_ifs at deleted
  · obtain ⟨rfl, rfl⟩ := Prod.mk.injEq .. ▸ deleted
    exact .inl ⟨_, rfl, rfl⟩
  · cases found : findRefreshTokenIn world.db refreshToken with
    | none =>
      rw [found] at deleted
      obtain ⟨rfl, rfl⟩ := Prod.mk.injEq .. ▸ deleted
      exact .inl ⟨_, rfl, rfl⟩
    | some row =>
      rw [found] at deleted
      obtain ⟨rfl, rfl⟩ := Prod.mk.injEq .. ▸ deleted
      exact .inr ⟨rfl, (stored_iff ..).mpr (by simp [found]), rfl⟩

theorem unspent_step (before : phase.unspent refreshToken)
    (stepped : phase.advance setup world = some (next, reached)) :
    next.unspent refreshToken ∨
      ((∃ user, next = .scopeGet user) ∧ stored world.db refreshToken ∧
        ¬ stored reached.db refreshToken) := by
  -- A rotation becomes spent by deleting the stored token, and in no other way.
  cases phase with
  | refreshFind token =>
    simp only [advance] at stepped
    split at stepped <;> cases stepped
    · exact .inl trivial
    · exact .inl before
  | refreshDate token row =>
    simp only [advance, Option.some.injEq, Prod.mk.injEq] at stepped
    obtain ⟨rfl, rfl⟩ := stepped
    split_ifs
    · exact .inl before
    · exact .inl before
  | dropExpired token =>
    simp only [advance, Option.some.injEq] at stepped
    rcases deleting_cases _ _ _ _ _ stepped with ⟨failure, rfl, rfl⟩ | ⟨rfl, _, rfl⟩
    · exact .inl trivial
    · exact .inl trivial
  | dropOrphan token =>
    simp only [advance, Option.some.injEq] at stepped
    rcases deleting_cases _ _ _ _ _ stepped with ⟨failure, rfl, rfl⟩ | ⟨rfl, _, rfl⟩
    · exact .inl trivial
    · exact .inl trivial
  | dropRotated token user =>
    simp only [advance, Option.some.injEq] at stepped
    have same : token = refreshToken := before
    subst same
    rcases deleting_cases _ _ _ _ _ stepped with ⟨failure, rfl, rfl⟩ | ⟨rfl, present, rfl⟩
    · exact .inl trivial
    · exact .inr ⟨⟨user, rfl⟩, present, dropRefreshToken_not_stored world.db token⟩
  | userGet purpose userId =>
    cases purpose with
    | authenticate => exact before.elim
    | rotate token =>
      simp only [advance] at stepped
      split at stepped <;> cases stepped <;> exact .inl before
  | userRead purpose userId =>
    cases purpose with
    | authenticate => exact before.elim
    | rotate token =>
      simp only [advance] at stepped
      split at stepped <;> cases stepped <;> exact .inl before
  | userPut purpose user =>
    cases purpose with
    | authenticate => exact before.elim
    | rotate token =>
      cases stepped
      exact .inl before
  | finished result => cases stepped
  | _ => exact before.elim

theorem spent_step (before : phase.spent)
    (stepped : phase.advance setup world = some (next, reached)) :
    next.spent ∨ next.unspent refreshToken := by
  cases phase with
  | scopeGet user =>
    simp only [advance] at stepped
    split at stepped <;> cases stepped <;> exact .inl trivial
  | create user accessToken expiresAt =>
    simp only [advance] at stepped
    split_ifs at stepped <;> cases stepped
    · exact .inr trivial
    · exact .inr trivial
    · exact .inl trivial
  | finished result => cases stepped
  | scopeRead | scopePut | sign | date =>
    cases stepped
    exact .inl trivial
  | _ => exact before.elim

theorem Effect.tokens {setup : AuthSetup} {phase : Phase} {world reached : World}
    (effect : Effect setup phase world reached) :
    world.db.nextId ≤ reached.db.nextId ∧
      ∀ row ∈ reached.db.refreshTokens, row ∈ world.db.refreshTokens ∨
        (world.db.nextId ≤ row.token ∧ row.token < reached.db.nextId) := by
  cases effect with
  | sign _ _ userId scope signs => exact ⟨Nat.le_succ _, fun row member => .inl member⟩
  | register userData expiresAt _ available =>
    refine ⟨by simp [insertRefreshToken]; omega, ?_⟩
    intro row member
    rcases List.mem_append.mp member with before | added
    · exact .inl before
    · rw [List.mem_singleton] at added
      subst added
      exact .inr ⟨by simp, by simp [insertRefreshToken]⟩
  | create user accessToken expiresAt _ =>
    refine ⟨Nat.le_succ _, ?_⟩
    intro row member
    rcases List.mem_append.mp member with before | added
    · exact .inl before
    · rw [List.mem_singleton] at added
      subst added
      exact .inr ⟨Nat.le_refl _, Nat.lt_succ_self _⟩
  | drop _ _ refreshToken drops present =>
    exact ⟨Nat.le_refl _, fun row member => .inl (List.mem_of_mem_filter member)⟩
  | dropAll userId => exact ⟨Nat.le_refl _, fun row member => .inl (List.mem_of_mem_filter member)⟩
  | _ => exact ⟨Nat.le_refl _, fun row member => .inl member⟩

end Phase

structure Rotations (pool : Pool (Request × Nat) World Phase) : Prop where
  issued : Issued pool.state.db
  position : ∀ refreshToken number phase,
    pool.calls (.refresh refreshToken, number) = some phase →
    phase.unspent refreshToken ∨ phase.spent
  gone : ∀ refreshToken number phase,
    pool.calls (.refresh refreshToken, number) = some phase → phase.spent →
    refreshToken < pool.state.db.nextId ∧ ¬ stored pool.state.db refreshToken
  once : ∀ refreshToken number number' phase phase',
    pool.calls (.refresh refreshToken, number) = some phase →
    pool.calls (.refresh refreshToken, number') = some phase' →
    phase.spent → phase'.spent → number = number'

theorem idle_rotations (issued : Issued world.db) : Rotations (Pool.idle world) where
  issued := issued
  position := by rintro refreshToken number phase ⟨⟩
  gone := by rintro refreshToken number phase ⟨⟩
  once := by rintro refreshToken number number' phase phase' ⟨⟩

theorem stays_gone (db reached : Database) (refreshToken : Nat) (generated : refreshToken < db.nextId)
    (gone : ¬ stored db refreshToken)
    (only : ∀ row ∈ reached.refreshTokens, row ∈ db.refreshTokens ∨ db.nextId ≤ row.token) :
    ¬ stored reached refreshToken := by
  rintro ⟨row, member, same⟩
  rcases only row member with before | new
  · exact gone ⟨row, before, same⟩
  · omega

theorem rotations_step (allowed : Pool (Request × Nat) World Phase → Request × Nat → Phase → Prop)
    (pool reached : Pool (Request × Nat) World Phase) (held : Rotations pool)
    (stepped : Pool.Step (machine setup Outside) allowed pool reached) : Rotations reached := by
  cases stepped with
  | start call phase unused begun =>
    have begins : phase = Phase.ofRequest call.1 := begun
    subst begins
    -- a call that begins has spent nothing
    have notSpent : ∀ refreshToken, call.1 = .refresh refreshToken →
        ¬ (Phase.ofRequest call.1).spent := by
      intro refreshToken same
      rw [same]
      exact id
    constructor
    case issued => exact held.issued
    case position =>
      intro refreshToken number phase running
      rcases (Pool.put_eq_some ..).mp running with ⟨rfl, rfl⟩ | ⟨_, running⟩
      · exact .inl rfl
      · exact held.position refreshToken number phase running
    case gone =>
      intro refreshToken number phase running spent
      rcases (Pool.put_eq_some ..).mp running with ⟨rfl, rfl⟩ | ⟨_, running⟩
      · exact (notSpent refreshToken rfl spent).elim
      · exact held.gone refreshToken number phase running spent
    case once =>
      intro refreshToken number number' phase phase' running running' spent spent'
      rcases (Pool.put_eq_some ..).mp running with ⟨rfl, rfl⟩ | ⟨_, running⟩
      · exact (notSpent refreshToken rfl spent).elim
      · rcases (Pool.put_eq_some ..).mp running' with ⟨rfl, rfl⟩ | ⟨_, running'⟩
        · exact (notSpent refreshToken rfl spent').elim
        · exact held.once refreshToken number number' phase phase' running running' spent spent'
  | statement call phase next state running permitted advanced =>
    have effect := Phase.advance_effect setup phase next pool.state state advanced
    obtain ⟨grows, tokens⟩ := effect.tokens
    have only : ∀ row ∈ state.db.refreshTokens,
        row ∈ pool.state.db.refreshTokens ∨ pool.state.db.nextId ≤ row.token :=
      fun row member => (tokens row member).imp id fun new => new.1
    have stays : ∀ refreshToken, refreshToken < pool.state.db.nextId ∧
        ¬ stored pool.state.db refreshToken →
        refreshToken < state.db.nextId ∧ ¬ stored state.db refreshToken :=
      fun refreshToken gone => ⟨by omega, stays_gone _ _ _ gone.1 gone.2 only⟩
    -- where the call that moved stands now, if it rotates a token
    have moved : ∀ refreshToken number, call = (.refresh refreshToken, number) → next.spent →
        phase.spent ∨ (stored pool.state.db refreshToken ∧ ¬ stored state.db refreshToken) := by
      rintro refreshToken number rfl spent
      rcases held.position refreshToken number phase running with unspent | spentBefore
      · rcases Phase.unspent_step setup _ _ _ _ _ unspent advanced with still | ⟨_, deleted⟩
        · exact (Phase.unspent_not_spent refreshToken next still spent).elim
        · exact .inr deleted
      · exact .inl spentBefore
    constructor
    case issued =>
      intro row member
      rcases tokens row member with before | new
      · exact Nat.lt_of_lt_of_le (held.issued row before) grows
      · exact new.2
    case position =>
      intro refreshToken number found there
      rcases (Pool.put_eq_some ..).mp there with ⟨rfl, rfl⟩ | ⟨_, there⟩
      · rcases held.position refreshToken number phase running with unspent | spent
        · rcases Phase.unspent_step setup _ _ _ _ _ unspent advanced with still | ⟨⟨user, rfl⟩, _⟩
          · exact .inl still
          · exact .inr trivial
        · exact (Phase.spent_step setup refreshToken _ _ _ _ spent advanced).symm
      · exact held.position refreshToken number found there
    case gone =>
      intro refreshToken number found there spent
      rcases (Pool.put_eq_some ..).mp there with ⟨rfl, rfl⟩ | ⟨_, there⟩
      · rcases moved refreshToken number rfl spent with before | ⟨⟨row, member, same⟩, gone⟩
        · exact stays refreshToken (held.gone refreshToken number phase running before)
        · have generated : refreshToken < state.db.nextId := by
            have issued := held.issued row member
            omega
          exact ⟨generated, gone⟩
      · exact stays refreshToken (held.gone refreshToken number found there spent)
    case once =>
      intro refreshToken number number' found found' there there' spent spent'
      -- a call that deletes the token finds no other call that has
      have unique : ∀ number number' found', call = (.refresh refreshToken, number) →
          next.spent → pool.calls (.refresh refreshToken, number') = some found' →
          found'.spent → number = number' := by
        rintro number number' found' rfl spent there' spent'
        rcases moved refreshToken number rfl spent with before | ⟨present, _⟩
        · exact held.once refreshToken number number' phase found' running there' before spent'
        · exact ((held.gone refreshToken number' found' there' spent').2 present).elim
      rcases (Pool.put_eq_some ..).mp there with ⟨same, rfl⟩ | ⟨_, before⟩
      · rcases (Pool.put_eq_some ..).mp there' with ⟨same', rfl⟩ | ⟨_, before'⟩
        · exact (Prod.mk.inj (same.trans same'.symm)).2
        · exact unique number number' found' same.symm spent before' spent'
      · rcases (Pool.put_eq_some ..).mp there' with ⟨same', rfl⟩ | ⟨_, before'⟩
        · exact (unique number' number found same'.symm spent' before spent).symm
        · exact held.once refreshToken number number' found found' before before' spent spent'
  | outside state moved =>
    have only : ∀ row ∈ state.db.refreshTokens,
        row ∈ pool.state.db.refreshTokens ∨ pool.state.db.nextId ≤ row.token :=
      fun row member => .inl (moved.refreshTokens ▸ member)
    have grows := moved.nextId
    constructor
    case issued =>
      intro row member
      rw [moved.refreshTokens] at member
      exact Nat.lt_of_lt_of_le (held.issued row member) grows
    case position => exact held.position
    case gone =>
      intro refreshToken number phase running spent
      obtain ⟨generated, gone⟩ := held.gone refreshToken number phase running spent
      exact ⟨Nat.lt_of_lt_of_le generated grows, stays_gone _ _ _ generated gone only⟩
    case once => exact held.once

theorem run_rotations (start : World) (issued : Issued start.db)
    (final : Pool (Request × Nat) World (Call Outcome))
    (run : Pool.Run (services setup Outside) Pool.anyStatement (Pool.idle start) final) :
    ∃ reached, final = reached.map (Phase.program setup) ∧ Rotations reached := by
  obtain ⟨reached, same, run⟩ :=
    services_described setup Outside (Pool.idle start) final run
  exact ⟨reached, same, run.invariant (rotations_step setup _) (idle_rotations start issued)⟩

def Successor (pool : Pool (Request × Nat) World (Call Outcome)) (refreshToken next : Nat) : Prop :=
  -- A call that rotated the first token has returned the second.
  ∃ number session,
    pool.calls (.refresh refreshToken, number) = some (.done (.ok (.session session))) ∧
      session.refreshToken = next

def Descends (pool : Pool (Request × Nat) World (Call Outcome)) : Nat → Nat → Prop :=
  Relation.ReflTransGen (Successor pool)

theorem program_done (result : Except ServiceError Outcome)
    (same : phase.program setup = .done result) : phase = .finished result := by
  have stops := Phase.advance_program setup phase {}
  rw [same] at stops
  obtain ⟨result', rfl⟩ := Phase.advance_none setup phase {} (Option.map_eq_none_iff.mp stops.symm)
  cases same
  rfl

theorem finished_of_map (pool : Pool (Request × Nat) World Phase) (call : Request × Nat)
    (result : Except ServiceError Outcome)
    (there : (pool.map (Phase.program setup)).calls call = some (.done result)) :
    pool.calls call = some (.finished result) := by
  obtain ⟨phase, found, same⟩ := Option.map_eq_some_iff.mp there
  rw [found, program_done setup phase result same]

/-- However many calls rotate a token, and however their statements interleave with
each other and with the rest of the gateway, at most one of them returns tokens. So a
token has at most one successor, and of all tokens that descend from one, a login's
for instance, at most one is stored. -/
theorem refresh_token_single_use (setup : AuthSetup) (start : World) (issued : Issued start.db)
    (final : Pool (Request × Nat) World (Call Outcome))
    (run : Pool.Run (services setup Outside) Pool.anyStatement (Pool.idle start) final) :
    (∀ refreshToken number number' outcome outcome',
      final.calls (.refresh refreshToken, number) = some (.done (.ok outcome)) →
      final.calls (.refresh refreshToken, number') = some (.done (.ok outcome')) →
      number = number') ∧
    (∀ refreshToken next next', Successor final refreshToken next →
      Successor final refreshToken next' → next = next') ∧
    (∀ root refreshToken refreshToken', Descends final root refreshToken →
      Descends final root refreshToken' → stored final.state.db refreshToken →
      stored final.state.db refreshToken' → refreshToken = refreshToken') := by
  obtain ⟨reached, rfl, held⟩ := run_rotations setup start issued final run
  have finished := finished_of_map setup reached
  have winner : ∀ refreshToken number number' outcome outcome',
      (reached.map (Phase.program setup)).calls (.refresh refreshToken, number) =
        some (.done (.ok outcome)) →
      (reached.map (Phase.program setup)).calls (.refresh refreshToken, number') =
        some (.done (.ok outcome')) → number = number' :=
    fun refreshToken number number' outcome outcome' there there' =>
      held.once refreshToken number number' _ _ (finished _ _ there) (finished _ _ there')
        trivial trivial
  have successor : ∀ refreshToken next next',
      Successor (reached.map (Phase.program setup)) refreshToken next →
      Successor (reached.map (Phase.program setup)) refreshToken next' → next = next' := by
    rintro refreshToken next next' ⟨number, session, there, rfl⟩ ⟨number', session', there', rfl⟩
    have same := winner refreshToken number number' _ _ there there'
    subst same
    rw [there] at there'
    cases there'
    rfl
  have spentGone : ∀ refreshToken next,
      Successor (reached.map (Phase.program setup)) refreshToken next →
      ¬ stored reached.state.db refreshToken := by
    rintro refreshToken next ⟨number, session, there, rfl⟩
    exact (held.gone refreshToken number _ (finished _ _ there) trivial).2
  refine ⟨winner, successor, ?_⟩
  intro root refreshToken refreshToken' descends descends' live live'
  -- of two descendants one descends from the other, and what has a successor is gone
  have apart : ∀ older newer, Descends (reached.map (Phase.program setup)) older newer →
      stored reached.state.db older → older = newer := by
    intro older newer below present
    rcases Relation.ReflTransGen.cases_head below with same | ⟨next, first, _⟩
    · exact same
    · exact (spentGone older next first present).elim
  rcases Relation.ReflTransGen.total_of_right_unique successor descends descends' with
    below | below
  · exact apart _ _ below live
  · exact (apart _ _ below live').symm

def plainSetup : AuthSetup :=
  { config := {}, hashPassword := fun password => password, comparePassword := (· == ·) }

def racedWorld : World :=
  -- A user with one refresh token, and two calls that rotate it side by side until one of them has
  -- deleted it.
  { db :=
      { users := [{ id := 1, email := "ada@example.com", password := "secret" }]
        refreshTokens := [{ token := 5, userId := 1, expiresAt := 1000 }]
        nextId := 10 } }

def raced : Pool (Request × Nat) World (Call Outcome) :=
  Pool.play Program.advance (fun call => call.1.program plainSetup)
    ((List.range 14).map (fun turn => .turn (.refresh 5, turn % 2)) ++
      List.replicate 6 (.turn (.refresh 5, 0)))
    (Pool.idle racedWorld)

theorem raced_run :
    Pool.Run (services plainSetup Outside) Pool.anyStatement (Pool.idle racedWorld) raced := by
  refine Pool.play_run (fun _ _ => rfl) _ ?_ _ (Pool.permits_any ..)
  intro change member
  simp at member

theorem one_of_two_rotations_wins :
    (∃ outcome, raced.calls (.refresh 5, 0) = some (.done (.ok outcome))) ∧
      ∀ number outcome, raced.calls (.refresh 5, number) = some (.done (.ok outcome)) →
        number = 0 := by
  have issued : Issued racedWorld.db := by simp [Issued, racedWorld]
  exact ⟨⟨_, rfl⟩, fun number outcome there =>
    (refresh_token_single_use plainSetup racedWorld issued raced raced_run).1 5 number 0 outcome _
      there rfl⟩

end HelpForge.Auth
