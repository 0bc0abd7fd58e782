import HelpForge.Auth.Machine

set_option autoImplicit false

namespace HelpForge.Auth

open Lib

variable (setup : AuthSetup) (phase : Phase) (world : World)

namespace Phase

def copy : Phase → Option AuthUser
  | registerCacheExisting user => some user
  | registerCache user _ => some user
  | loginCache user _ => some user
  | userPut _ user => some user
  | updatedPut _ user => some user
  | _ => none

def signsFor : Phase → Option Nat
  | registerSign user _ => some user.id
  | sign user _ => some user.id
  | _ => none

def drops : Phase → Option Nat
  | dropExpired refreshToken => some refreshToken
  | dropOrphan refreshToken => some refreshToken
  | dropRotated refreshToken _ => some refreshToken
  | logoutDrop refreshToken => some refreshToken
  | _ => none

inductive Effect (setup : AuthSetup) : Phase → World → World → Prop where
  | quiet (phase : Phase) (world : World) : Effect setup phase world world
  | userPut (phase : Phase) (world : World) (user : AuthUser) (held : phase.copy = some user) :
      Effect setup phase world (world.putUser (userToJson (stripPassword user)))
  | scopePut (phase : Phase) (world : World) (userId : Nat) (scope : List OrganizationScope) :
      Effect setup phase world (world.putAccessScope userId scope)
  | scopeDrop (phase : Phase) (world : World) (userId : Nat) :
      Effect setup phase world (world.dropAccessScope userId)
  | sign (phase : Phase) (world : World) (userId : Nat) (scope : List OrganizationScope)
      (signs : phase.signsFor = some userId) :
      Effect setup phase world
        (Auth.sign (newAccessToken setup.config world userId scope) world)
  | register (userData : UserData) (expiresAt : Nat) (world : World)
      (available : ∀ user ∈ world.db.users, user.email ≠ userData.email) :
      Effect setup (.registerCreate userData expiresAt) world
        ((world.withDb fun db =>
          { db with
            users := db.users ++
              [newUser world { userData with password := setup.hashPassword userData.password }]
            nextId := db.nextId + 1 }).withDb
          (insertRefreshToken
            { token := world.db.nextId + 1, userId := world.db.nextId, expiresAt }))
  | create (user : AuthUser) (accessToken : Claims) (expiresAt : Nat) (world : World) :
      Effect setup (.create user accessToken expiresAt) world
        (world.withDb (insertRefreshToken (newRefreshToken world user.id expiresAt)))
  | drop (phase : Phase) (world : World) (refreshToken : Nat)
      (drops : phase.drops = some refreshToken)
      (stored : (findRefreshTokenIn world.db refreshToken).isSome) :
      Effect setup phase world (world.withDb (dropRefreshToken refreshToken))
  | dropAll (userId : Nat) (world : World) :
      Effect setup (.tokensDrop userId) world (world.withDb (dropUserRefreshTokens userId))
  | insertBlacklisted (jti expiresAt : Nat) (refreshToken : Option Nat) (world : World)
      (absent : ∀ row ∈ world.db.tokenBlacklist, row.jti ≠ jti) :
      Effect setup (.blacklistInsert jti expiresAt refreshToken) world
        (world.withDb (insertBlacklistRow { jti, expiresAt }))
  | putBlacklisted (phase : Phase) (world : World) (jti : Nat) :
      Effect setup phase world (world.putBlacklisted jti)
  | updateIssuedAt (userId now : Nat) (world : World) :
      Effect setup (.updateIssuedAt userId now) world
        (world.withDb (changeUser userId (issuedAt now) world.now))
  | clean (before : Nat) (world : World) :
      Effect setup (.clean before) world (deleteExpired before world)

theorem deleting_effect (refreshToken : Nat) (next : Phase)
    (drops : phase.drops = some refreshToken) :
    Effect setup phase world (deleting refreshToken next world).2 := by
  unfold deleting
  split_ifs
  · exact .quiet phase world
  · cases stored : findRefreshTokenIn world.db refreshToken with
    | none => exact .quiet phase world
    | some row => exact .drop phase world refreshToken drops (by simp [stored])

theorem insertUserWithRefreshToken_ok (userData : UserData) (expiresAt : Nat)
    (world reached : World) (user : AuthUser) (refreshToken : RefreshToken)
    (ran : (insertUserWithRefreshToken userData expiresAt).run world =
      (.ok (user, refreshToken), reached)) :
    (∀ user ∈ world.db.users, user.email ≠ userData.email) ∧
      user = userSelectWithPassword (newUser world userData) ∧
      refreshToken = { token := world.db.nextId + 1, userId := world.db.nextId, expiresAt } ∧
      reached = (world.withDb fun db =>
          { db with
            users := db.users ++ [newUser world userData]
            nextId := db.nextId + 1 }).withDb
        (insertRefreshToken
          { token := world.db.nextId + 1, userId := world.db.nextId, expiresAt }) := by
  rw [insertUserWithRefreshToken, Program.bind_ok] at ran
  obtain ⟨created, middle, inserted, ran⟩ := ran
  rw [insertUser, Program.attempt_ok] at inserted
  split_ifs at inserted with taken
  obtain ⟨rfl, rfl⟩ := Prod.mk.injEq .. ▸ Except.ok.inj inserted
  rw [Program.bind_ok] at ran
  obtain ⟨row, last, stored, finish⟩ := ran
  rw [createRefreshToken, Program.attempt_ok] at stored
  split_ifs at stored
  obtain ⟨rfl, rfl⟩ := Prod.mk.injEq .. ▸ Except.ok.inj stored
  rw [Program.pure_ok] at finish
  obtain ⟨same, rfl⟩ := finish
  obtain ⟨rfl, rfl⟩ := Prod.mk.injEq .. ▸ same
  refine ⟨?_, rfl, rfl, rfl⟩
  simpa using taken

theorem advance_effect (next : Phase) (world reached : World)
    (stepped : phase.advance setup world = some (next, reached)) :
    Effect setup phase world reached := by
  cases phase with
  | registerCacheExisting user =>
    cases stepped
    exact .userPut _ world user rfl
  | registerCreate userData expiresAt =>
    simp only [advance] at stepped
    split at stepped
    next user refreshToken middle ran =>
      cases stepped
      obtain ⟨available, rfl, rfl, rfl⟩ := insertUserWithRefreshToken_ok _ _ _ _ _ _ ran
      exact .register userData expiresAt world available
    next failure middle ran =>
      cases stepped
      exact .quiet _ world
  | registerCache user refreshToken =>
    cases stepped
    exact .userPut _ world user rfl
  | registerSign user refreshToken =>
    cases stepped
    exact .sign _ world user.id [] rfl
  | loginCache user password =>
    cases stepped
    exact .userPut _ world user rfl
  | scopePut user scope =>
    cases stepped
    exact .scopePut _ world user.id scope
  | sign user scope =>
    cases stepped
    exact .sign _ world user.id scope rfl
  | create user accessToken expiresAt =>
    simp only [advance] at stepped
    split_ifs at stepped <;> cases stepped
    · exact .quiet _ world
    · exact .quiet _ world
    · exact .create user accessToken expiresAt world
  | dropExpired refreshToken =>
    simp only [advance, Option.some.injEq] at stepped
    have effect := deleting_effect setup (.dropExpired refreshToken) world refreshToken
      (.failed (.api 401 "Refresh token expired" "REFRESH_TOKEN_EXPIRED")) rfl
    rwa [stepped] at effect
  | dropOrphan refreshToken =>
    simp only [advance, Option.some.injEq] at stepped
    have effect := deleting_effect setup (.dropOrphan refreshToken) world refreshToken
      (.failed (.api 401 "User not found" "USER_NOT_FOUND")) rfl
    rwa [stepped] at effect
  | dropRotated refreshToken user =>
    simp only [advance, Option.some.injEq] at stepped
    have effect := deleting_effect setup (.dropRotated refreshToken user) world refreshToken
      (.scopeGet user) rfl
    rwa [stepped] at effect
  | userPut purpose user =>
    cases stepped
    exact .userPut _ world user rfl
  | blacklistInsert jti expiresAt refreshToken =>
    simp only [advance] at stepped
    split_ifs at stepped with failing present <;> cases stepped
    · exact .quiet _ world
    · exact .quiet _ world
    · exact .insertBlacklisted jti expiresAt refreshToken world (by simpa using present)
  | blacklistPut jti refreshToken =>
    cases stepped
    exact .putBlacklisted _ world jti
  | logoutDrop refreshToken =>
    have effect := deleting_effect setup (.logoutDrop refreshToken) world refreshToken
      (.finished (.ok .done)) rfl
    simp only [advance] at stepped
    split at stepped
    next failure middle deleted =>
      rw [deleted] at effect
      split_ifs at stepped <;> cases stepped <;> exact effect
    next following middle _ deleted =>
      rw [deleted] at effect
      cases stepped
      exact effect
  | updateIssuedAt userId now =>
    simp only [advance] at stepped
    split at stepped <;> cases stepped
    · exact .quiet _ world
    · exact .updateIssuedAt userId now world
  | updatedPut userId user =>
    cases stepped
    exact .userPut _ world user rfl
  | scopeDrop userId =>
    cases stepped
    exact .scopeDrop _ world userId
  | tokensDrop userId =>
    simp only [advance] at stepped
    split_ifs at stepped <;> cases stepped
    · exact .quiet _ world
    · exact .dropAll userId world
  | blacklistFill accessToken =>
    cases stepped
    exact .putBlacklisted _ world accessToken.jti
  | clean before =>
    simp only [advance] at stepped
    split_ifs at stepped <;> cases stepped
    · exact .quiet _ world
    · exact .clean before world
  -- every other statement only reads
  | _ =>
    simp only [advance] at stepped
    repeat' split at stepped
    all_goals
      cases stepped
      try exact .quiet _ world

theorem advance_none (stops : phase.advance setup world = none) :
    ∃ result, phase = .finished result := by
  cases phase with
  | finished result => exact ⟨result, rfl⟩
  | _ =>
    simp only [advance] at stops
    repeat' split at stops
    all_goals cases stops

end Phase

/-- What happens to the state outside the calls of the auth module: time passes, cached
entries expire, stores begin or cease to fail, and the rest of the gateway works on
its own tables. -/
structure Outside (world reached : World) : Prop where
  users : reached.db.users = world.db.users
  refreshTokens : reached.db.refreshTokens = world.db.refreshTokens
  tokenBlacklist : reached.db.tokenBlacklist = world.db.tokenBlacklist
  nextId : world.db.nextId ≤ reached.db.nextId
  userCache : ∀ userId user, reached.userCache userId = some user →
    world.userCache userId = some user
  blacklistCache : ∀ jti, reached.blacklistCache jti = true → world.blacklistCache jti = true
  signed : reached.signed = world.signed
  cleaned : reached.cleaned = world.cleaned

def machine (setup : AuthSetup) (environment : World → World → Prop) :
    Pool.System (Request × Nat) World Phase :=
  { advance := Phase.advance setup
    begins := fun _ call phase => phase = Phase.ofRequest call.1
    environment }

def services (setup : AuthSetup) (environment : World → World → Prop) :
    Pool.System (Request × Nat) World (Call Outcome) :=
  Pool.ofPrograms (fun _ call program => program = call.1.program setup) environment

theorem services_described (environment : World → World → Prop)
    (pool : Pool (Request × Nat) World Phase) (final : Pool (Request × Nat) World (Call Outcome))
    (run : Pool.Run (services setup environment) Pool.anyStatement
      (pool.map (Phase.program setup)) final) :
    ∃ reached, final = reached.map (Phase.program setup) ∧
      Pool.Run (machine setup environment) Pool.anyStatement pool reached := by
  -- Every interleaving of the services is one of the machine.
  have begins : ∀ seen call program, (services setup environment).begins seen call program →
      ∃ phase, (machine setup environment).begins seen call phase ∧
        phase.program setup = program := by
    rintro seen call program rfl
    exact ⟨Phase.ofRequest call.1, rfl, Phase.program_ofRequest setup call.1⟩
  exact Pool.Run.lift begins (Phase.advance_program setup) (fun _ _ moved => moved) run

end HelpForge.Auth
