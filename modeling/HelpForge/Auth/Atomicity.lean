import HelpForge.Auth.Lineage

set_option autoImplicit false

namespace HelpForge.Auth

open Lib
open Program (raising_none run_attempt run_bind run_reads)

/-- The steps in their order; what the cache raises is caught. -/
structure RefreshFaults where
  lookup : Option ServiceError := none
  userCacheRead : Option ServiceError := none
  userRead : Option ServiceError := none
  userCacheWrite : Option ServiceError := none
  delete : Option ServiceError := none
  scopeCacheRead : Option ServiceError := none
  scopeRead : Option ServiceError := none
  scopeCacheWrite : Option ServiceError := none
  create : Option ServiceError := none

variable {tokens : Tokens} {userId : Nat} {reached : World}

namespace Faulty

def findUserById (faults : RefreshFaults) (id : Nat) : Call (Option AuthUser) := do
  let cached ←
    (Program.reads fun world => cachedUser world id).absorbing faults.userCacheRead none
  match cached with
  | some cached => pure (some cached)
  | none =>
    let user ← (Program.reads fun world =>
      (world.db.findUser id).map userSelectPublic).raising faults.userRead
    match user.filter fun user => !user.isDeleted with
    | none => pure none
    | some user =>
      (cacheUser user).absorbing faults.userCacheWrite ()
      pure (some user)

def getUserPermissionSnapshot (faults : RefreshFaults) (userId : Nat) :
    Call (List OrganizationScope) := do
  let cached ←
    (Program.reads fun world => cachedAccessScope world userId).absorbing faults.scopeCacheRead none
  match cached with
  | some cached => pure cached
  | none =>
    let snapshot ← (Program.reads fun world =>
      permissionSnapshot world.db userId).raising faults.scopeRead
    (Program.modify fun world => world.putAccessScope userId snapshot).absorbing
      faults.scopeCacheWrite ()
    pure snapshot

def issueTokens (config : AuthConfig) (faults : RefreshFaults) (user : AuthUser) :
    Call Tokens := do
  let orgPermissions ← getUserPermissionSnapshot faults user.id
  let accessToken ← generateAccessToken config user.id orgPermissions
  let refreshExpiresAt ← Program.reads fun world => world.now + config.refreshTokenExpiresIn
  let refreshToken ← (createRefreshToken user.id refreshExpiresAt).raising faults.create
  pure
    { accessToken
      refreshToken := refreshToken.token
      expiresIn := config.accessTokenExpiresIn }

def refreshAccessToken (config : AuthConfig) (faults : RefreshFaults) (refreshToken : Nat) :
    Call Session := do
  let stored ← (findRefreshToken refreshToken).raising faults.lookup
  let stored ← Program.orFail stored
    (.api 401 "Invalid refresh token" "REFRESH_TOKEN_INVALID")
  let now ← Program.reads fun world => world.now
  if stored.expiresAt < now then
    let _ ← (deleteRefreshToken refreshToken).raising faults.delete
    Program.fail (.api 401 "Refresh token expired" "REFRESH_TOKEN_EXPIRED")
  else
    let user ← findUserById faults stored.userId
    match user with
    | none =>
      let _ ← (deleteRefreshToken refreshToken).raising faults.delete
      Program.fail (.api 401 "User not found" "USER_NOT_FOUND")
    | some user =>
      let _ ← (deleteRefreshToken refreshToken).raising faults.delete
      let tokens ← issueTokens config faults user
      pure { tokens with user := sanitizeUser user }

theorem refreshAccessToken_none (config : AuthConfig) (refreshToken : Nat) :
    refreshAccessToken config {} refreshToken = Auth.refreshAccessToken config refreshToken := rfl

def readable (cacheRead read : Option ServiceError) (copied : Bool) : Bool :=
  -- A value can be read: its copy in the cache, or what the database has.
  (cacheRead.isNone && copied) || read.isNone

structure Looked (world reached : World) : Prop where
  db : reached.db = world.db
  now : reached.now = world.now
  signed : reached.signed = world.signed
  failing : reached.failing = world.failing

theorem Looked.refl (world : World) : Looked world world := ⟨rfl, rfl, rfl, rfl⟩

def Labelled (world : World) : Prop :=
  -- Cached users are those that they are cached for.
  ∀ userId copy, world.userCache userId = some copy → copy.id = userId

theorem cachedUser_id (world : World) (userId : Nat) (copy : AuthUser) (labelled : Labelled world)
    (cached : cachedUser world userId = some copy) : copy.id = userId := by
  unfold cachedUser at cached
  split_ifs at cached
  exact labelled userId copy cached

theorem readable_of_copy {α : Type} (cacheRead read : Option ServiceError) (copy : Option α) :
    readable cacheRead read copy.isSome =
      ((if cacheRead.isSome then none else copy).isSome || read.isNone) := by
  -- What is left of a copy when the read of the cache may have failed.
  cases cacheRead <;> simp [readable]

theorem run_findUserById (faults : RefreshFaults) (userId : Nat) (user : User) (world : World)
    (found : world.db.findUser userId = some user) (live : user.isDeleted = false)
    (labelled : Labelled world) :
    ∃ result reached, (findUserById faults userId).run world = (result, reached) ∧
      Looked world reached ∧ Labelled reached ∧ reached.accessScopeCache = world.accessScopeCache ∧
      if readable faults.userCacheRead faults.userRead (cachedUser world userId).isSome then
        ∃ copy : AuthUser, result = .ok (some copy) ∧ copy.id = userId
      else ∃ failure, result = .error failure := by
  unfold findUserById
  rw [run_bind, Program.run_absorbing_reads, readable_of_copy]
  cases hit : (if faults.userCacheRead.isSome then none else cachedUser world userId) with
  | some copy =>
    have cached : cachedUser world userId = some copy := by
      split_ifs at hit
      exact hit
    refine ⟨_, _, rfl, Looked.refl world, labelled, rfl, ?_⟩
    rw [if_pos (by simp)]
    exact ⟨copy, rfl, cachedUser_id world userId copy labelled cached⟩
  | none =>
    dsimp only
    rw [run_bind]
    cases faults.userRead with
    | some failure =>
      refine ⟨_, _, rfl, Looked.refl world, labelled, rfl, ?_⟩
      rw [if_neg (by simp)]
      exact ⟨failure, rfl⟩
    | none =>
      have kept : ((world.db.findUser userId).map userSelectPublic).filter
          (fun user => !user.isDeleted) = some (userSelectPublic user) := by
        rw [found, Option.map_some, Option.filter_some, if_pos]
        simpa [userSelectPublic, stripPassword, userSelectWithPassword] using live
      have same : user.id = userId := by simpa using List.find?_some found
      rw [raising_none, run_reads]
      dsimp only
      rw [kept]
      dsimp only
      rw [cacheUser, run_bind, Program.run_absorbing_modify]
      refine ⟨_, _, rfl, ?_, ?_, ?_, ?_⟩
      · split_ifs
        · exact Looked.refl world
        · exact ⟨rfl, rfl, rfl, rfl⟩
      · intro other copy there
        split_ifs at there
        · exact labelled other copy there
        · obtain before | ⟨key, rfl⟩ := World.putUser_userCache _ _ _ _ there
          · exact labelled other copy before
          · exact key
      · split_ifs
        · rfl
        · rfl
      · rw [if_pos (by simp)]
        exact ⟨_, rfl, same⟩

theorem run_getUserPermissionSnapshot (faults : RefreshFaults) (userId : Nat) (world : World) :
    ∃ result reached, (getUserPermissionSnapshot faults userId).run world = (result, reached) ∧
      Looked world reached ∧ reached.userCache = world.userCache ∧
      if readable faults.scopeCacheRead faults.scopeRead (cachedAccessScope world userId).isSome
      then ∃ scope, result = .ok scope
      else ∃ failure, result = .error failure := by
  unfold getUserPermissionSnapshot
  rw [run_bind, Program.run_absorbing_reads, readable_of_copy]
  cases (if faults.scopeCacheRead.isSome then none else cachedAccessScope world userId) with
  | some copy =>
    refine ⟨_, _, rfl, Looked.refl world, rfl, ?_⟩
    rw [if_pos (by simp)]
    exact ⟨copy, rfl⟩
  | none =>
    dsimp only
    rw [run_bind]
    cases faults.scopeRead with
    | some failure =>
      refine ⟨_, _, rfl, Looked.refl world, rfl, ?_⟩
      rw [if_neg (by simp)]
      exact ⟨failure, rfl⟩
    | none =>
      rw [raising_none, run_reads]
      dsimp only
      rw [run_bind, Program.run_absorbing_modify]
      refine ⟨_, _, rfl, ?_, ?_, ?_⟩
      · split_ifs
        · exact Looked.refl world
        · exact ⟨rfl, rfl, rfl, rfl⟩
      · split_ifs
        · rfl
        · rfl
      · rw [if_pos (by simp)]
        exact ⟨_, rfl⟩

/-- The pair is signed and stored, for the user and for its lifetimes. -/
structure Granted (config : AuthConfig) (userId : Nat) (tokens : Tokens) (world reached : World) :
    Prop where
  signed : tokens.accessToken ∈ reached.signed
  owner : tokens.accessToken.sub = userId
  expires : tokens.accessToken.exp = world.now / 1000 + config.accessTokenExpiresIn
  stored : reached.db.refreshTokens = world.db.refreshTokens ++
    [{ token := tokens.refreshToken
       userId
       expiresAt := world.now + config.refreshTokenExpiresIn }]
  fresh : world.db.nextId ≤ tokens.refreshToken

theorem Granted.earlier {config : AuthConfig} {change : Database → Database} {world looked : World}
    (granted : Granted config userId tokens (looked.withDb change) reached)
    (same : Looked world looked) : Granted config userId tokens (world.withDb change) reached := by
  have db : (looked.withDb change).db = (world.withDb change).db := congrArg change same.db
  have now : (looked.withDb change).now = (world.withDb change).now := same.now
  obtain ⟨signed, owner, expires, stored, fresh⟩ := granted
  rw [now] at expires
  rw [db, now] at stored
  rw [db] at fresh
  exact ⟨signed, owner, expires, stored, fresh⟩

structure Beside (world reached : World) : Prop where
  now : reached.now = world.now
  users : reached.db.users = world.db.users
  failing : reached.failing = world.failing
  userCache : reached.userCache = world.userCache

theorem run_createRefreshToken (userId expiresAt : Nat) (world : World)
    (works : world.failing .refreshToken = false)
    (owner : (world.db.findUser userId).isSome = true) :
    (createRefreshToken userId expiresAt).run world =
      (.ok (newRefreshToken world userId expiresAt),
        world.withDb (insertRefreshToken (newRefreshToken world userId expiresAt))) := by
  have known : (world.db.findUser userId).isNone = false := by simpa using owner
  unfold createRefreshToken
  rw [run_attempt]
  simp only [works, known, Bool.false_eq_true, if_false]

theorem run_issueTokens (config : AuthConfig) (faults : RefreshFaults) (user : AuthUser)
    (world : World) (works : world.failing .refreshToken = false)
    (owner : (world.db.findUser user.id).isSome = true) :
    ∃ result reached, (issueTokens config faults user).run world = (result, reached) ∧
      Beside world reached ∧
      if readable faults.scopeCacheRead faults.scopeRead
          (cachedAccessScope world user.id).isSome && faults.create.isNone then
        ∃ tokens, result = .ok tokens ∧ Granted config user.id tokens world reached
      else
        ∃ failure, result = .error failure ∧
          reached.db.refreshTokens = world.db.refreshTokens := by
  obtain ⟨scope, looked, ran, same, copies, read⟩ :=
    run_getUserPermissionSnapshot faults user.id world
  have users : looked.db.users = world.db.users := congrArg Database.users same.db
  have rows : looked.db.refreshTokens = world.db.refreshTokens :=
    congrArg Database.refreshTokens same.db
  unfold issueTokens
  rw [run_bind, ran]
  by_cases reads : readable faults.scopeCacheRead faults.scopeRead
      (cachedAccessScope world user.id).isSome = true
  · rw [if_pos reads] at read
    obtain ⟨orgPermissions, rfl⟩ := read
    let accessToken := newAccessToken config looked user.id orgPermissions
    -- Signing draws an identifier and leaves all that the new row refers to.
    have works' : (sign accessToken looked).failing .refreshToken = false := by
      change looked.failing _ = _
      rw [same.failing, works]
    have owner' : ((sign accessToken looked).db.findUser user.id).isSome = true := by
      change (looked.db.findUser _).isSome = _
      rw [same.db, owner]
    dsimp only
    rw [run_bind, generateAccessToken, run_attempt]
    dsimp only
    rw [run_bind, run_reads]
    dsimp only
    rw [run_bind]
    cases faults.create with
    | some failure =>
      refine ⟨_, _, rfl, ⟨same.now, users, same.failing, copies⟩, ?_⟩
      rw [if_neg (by simp)]
      exact ⟨failure, rfl, rows⟩
    | none =>
      rw [raising_none, run_createRefreshToken _ _ _ works' owner']
      refine ⟨_, _, rfl, ⟨same.now, users, same.failing, copies⟩, ?_⟩
      rw [if_pos (by simp [reads])]
      refine ⟨_, rfl, List.mem_cons_self, rfl, ?_, ?_, ?_⟩
      · change looked.now / 1000 + _ = _
        rw [same.now]
      · rw [← rows, ← same.now]
        rfl
      · change _ ≤ looked.db.nextId + 1
        rw [same.db]
        omega
  · rw [if_neg reads] at read
    obtain ⟨failure, rfl⟩ := read
    refine ⟨_, _, rfl, ⟨same.now, users, same.failing, copies⟩, ?_⟩
    rw [if_neg (by simp [reads])]
    exact ⟨failure, rfl, rows⟩

/-- A stored refresh token that has not expired, of a user who is still there. -/
structure Valid (world : World) (refreshToken : Nat) (row : RefreshToken) (user : User) :
    Prop where
  stored : findRefreshTokenIn world.db refreshToken = some row
  unexpired : world.now ≤ row.expiresAt
  owner : world.db.findUser row.userId = some user
  live : user.isDeleted = false

def rotating (config : AuthConfig) (faults : RefreshFaults) (refreshToken : Nat)
    (user : AuthUser) : Call Session := do
  let _ ← (deleteRefreshToken refreshToken).raising faults.delete
  let tokens ← issueTokens config faults user
  pure { tokens with user := sanitizeUser user }

def findsUser (faults : RefreshFaults) (world : World) (userId : Nat) : Bool :=
  -- The row is found, and its user.
  faults.lookup.isNone &&
    readable faults.userCacheRead faults.userRead (cachedUser world userId).isSome

def deletes (faults : RefreshFaults) (world : World) (userId : Nat) : Bool :=
  -- The old token is deleted.
  findsUser faults world userId && (faults.delete.isNone && !world.failing .refreshToken)

def grants (faults : RefreshFaults) (world : World) (userId : Nat) : Bool :=
  -- The permissions are read, and the new token is stored.
  readable faults.scopeCacheRead faults.scopeRead (cachedAccessScope world userId).isSome &&
    faults.create.isNone

section Exchange

variable (config : AuthConfig) (faults : RefreshFaults) {world : World} (refreshToken : Nat)
  {row : RefreshToken} {user : User}

theorem run_refresh_start (valid : Valid world refreshToken row user)
    (labelled : Labelled world) :
    ∃ looked, Looked world looked ∧ Labelled looked ∧
      looked.accessScopeCache = world.accessScopeCache ∧
      if findsUser faults world row.userId then
        ∃ copy : AuthUser, copy.id = row.userId ∧
          (refreshAccessToken config faults refreshToken).run world =
            (rotating config faults refreshToken copy).run looked
      else ∃ failure, (refreshAccessToken config faults refreshToken).run world =
        (.error failure, looked) := by
  unfold refreshAccessToken findsUser
  rw [run_bind]
  cases faults.lookup with
  | some failure =>
    refine ⟨world, Looked.refl world, labelled, rfl, ?_⟩
    rw [if_neg (by simp)]
    exact ⟨failure, rfl⟩
  | none =>
    obtain ⟨result, looked, ran, same, labels, scopes, found⟩ :=
      run_findUserById faults row.userId user world valid.owner valid.live labelled
    refine ⟨looked, same, labels, scopes, ?_⟩
    rw [raising_none, findRefreshToken, run_reads, valid.stored]
    dsimp only [Program.orFail]
    rw [Program.pure_bind, run_bind, run_reads]
    dsimp only
    rw [if_neg (Nat.not_lt.mpr valid.unexpired), run_bind, ran]
    by_cases known : readable faults.userCacheRead faults.userRead
        (cachedUser world row.userId).isSome = true
    · rw [if_pos known] at found
      obtain ⟨copy, rfl, owner⟩ := found
      rw [if_pos (by simp [known])]
      exact ⟨copy, owner, rfl⟩
    · rw [if_neg known] at found
      obtain ⟨failure, rfl⟩ := found
      rw [if_neg (by simp [known])]
      exact ⟨failure, rfl⟩

variable (copy : AuthUser)

theorem run_rotating_barred
    (barred : (faults.delete.isNone && !world.failing .refreshToken) = false) :
    ∃ failure, (rotating config faults refreshToken copy).run world = (.error failure, world) := by
  unfold rotating
  rw [run_bind]
  cases up : faults.delete with
  | some failure => exact ⟨failure, rfl⟩
  | none =>
    have fails : world.failing .refreshToken = true := by simpa [up] using barred
    rw [raising_none, deleteRefreshToken, run_attempt]
    simp only [fails, if_true]
    exact ⟨_, rfl⟩

theorem run_rotating (works : (faults.delete.isNone && !world.failing .refreshToken) = true)
    (stored : findRefreshTokenIn world.db refreshToken = some row)
    (owner : (world.db.findUser copy.id).isSome = true) :
    ∃ result reached, (rotating config faults refreshToken copy).run world = (result, reached) ∧
      Beside world reached ∧
      if grants faults world copy.id then
        ∃ session : Session, result = .ok session ∧
          Granted config copy.id session.toTokens (world.withDb (dropRefreshToken refreshToken))
            reached
      else ∃ failure, result = .error failure ∧
        reached.db.refreshTokens = (dropRefreshToken refreshToken world.db).refreshTokens := by
  rw [Bool.and_eq_true, Bool.not_eq_true', Option.isNone_iff_eq_none] at works
  obtain ⟨up, works⟩ := works
  obtain ⟨tokens, reached, ran, beside, issued⟩ := run_issueTokens config faults copy
    (world.withDb (dropRefreshToken refreshToken)) works owner
  refine ⟨tokens.map fun tokens => { tokens with user := sanitizeUser copy }, reached, ?_,
    ⟨beside.now, beside.users, beside.failing, beside.userCache⟩, ?_⟩
  · unfold rotating
    rw [run_bind, up, raising_none, deleteRefreshToken, run_attempt]
    simp only [works, stored, Bool.false_eq_true, if_false]
    rw [run_bind, ran]
    cases tokens with
    | error failure => rfl
    | ok tokens => rfl
  · -- The deleted row is not among what the permissions are read from.
    change if grants faults world copy.id = true then _ else _ at issued
    by_cases given : grants faults world copy.id = true
    · rw [if_pos given] at issued ⊢
      obtain ⟨tokens, rfl, granted⟩ := issued
      exact ⟨_, rfl, granted⟩
    · rw [if_neg given] at issued ⊢
      obtain ⟨failure, rfl, rows⟩ := issued
      exact ⟨failure, rfl, rows⟩

theorem run_refresh (valid : Valid world refreshToken row user) (labelled : Labelled world) :
    ∃ result reached,
      (refreshAccessToken config faults refreshToken).run world = (result, reached) ∧
      Labelled reached ∧ reached.now = world.now ∧ reached.db.users = world.db.users ∧
      if deletes faults world row.userId then
        if grants faults world row.userId then
          ∃ session : Session, result = .ok session ∧
            Granted config row.userId session.toTokens
              (world.withDb (dropRefreshToken refreshToken)) reached
        else ∃ failure, result = .error failure ∧
          reached.db.refreshTokens = (dropRefreshToken refreshToken world.db).refreshTokens
      else ∃ failure, result = .error failure ∧ reached.db = world.db := by
  -- All the ways in which the exchange of a valid token ends.
  obtain ⟨looked, same, labels, scopes, start⟩ :=
    run_refresh_start config faults refreshToken valid labelled
  by_cases known : findsUser faults world row.userId = true
  · rw [if_pos known] at start
    obtain ⟨copy, owner, ran⟩ := start
    have equal : (faults.delete.isNone && !looked.failing .refreshToken) =
        deletes faults world row.userId := by
      rw [deletes, known, Bool.true_and, same.failing]
    by_cases works : deletes faults world row.userId = true
    · have live : (looked.db.findUser copy.id).isSome = true := by
        rw [same.db, owner, valid.owner]
        rfl
      have there : findRefreshTokenIn looked.db refreshToken = some row := by
        rw [same.db, valid.stored]
      -- From here on the old token is gone.
      obtain ⟨result, reached, rest, beside, ending⟩ :=
        run_rotating config faults refreshToken copy (equal.trans works) there live
      have scope : grants faults looked copy.id = grants faults world row.userId := by
        simp only [grants, cachedAccessScope, scopes, same.failing, owner]
      rw [scope] at ending
      have users : reached.db.users = world.db.users := by rw [beside.users, same.db]
      have labelled' : Labelled reached := by
        unfold Labelled
        rw [beside.userCache]
        exact labels
      refine ⟨result, reached, ran.trans rest, labelled', beside.now.trans same.now, users, ?_⟩
      rw [if_pos works]
      by_cases given : grants faults world row.userId = true
      · rw [if_pos given] at ending ⊢
        obtain ⟨session, rfl, granted⟩ := ending
        rw [owner] at granted
        exact ⟨session, rfl, granted.earlier same⟩
      · rw [if_neg given] at ending ⊢
        obtain ⟨failure, rfl, rows⟩ := ending
        rw [same.db] at rows
        exact ⟨failure, rfl, rows⟩
    · obtain ⟨failure, rest⟩ := run_rotating_barred config faults refreshToken copy
        (equal.trans (Bool.eq_false_iff.mpr works))
      refine ⟨_, looked, ran.trans rest, labels, same.now, congrArg Database.users same.db, ?_⟩
      rw [if_neg works]
      exact ⟨failure, rfl, same.db⟩
  · rw [if_neg known] at start
    obtain ⟨failure, ran⟩ := start
    refine ⟨_, looked, ran, labels, same.now, congrArg Database.users same.db, ?_⟩
    rw [if_neg (by simp [deletes, known])]
    exact ⟨failure, rfl, same.db⟩

end Exchange

def repaired (world : World) : World := { world with failing := fun _ => false }

def Exchangeable (config : AuthConfig) (refreshToken : Nat) (world : World) : Prop :=
  -- The token can be exchanged for a new pair once nothing fails any more.
  ∃ session reached, (Auth.refreshAccessToken config refreshToken).run (repaired world) =
    (.ok session, reached)

theorem exchangeable_of_valid (config : AuthConfig) (world : World) (refreshToken : Nat)
    (row : RefreshToken) (user : User) (valid : Valid world refreshToken row user)
    (labelled : Labelled world) : Exchangeable config refreshToken world := by
  have still : Valid (repaired world) refreshToken row user :=
    ⟨valid.stored, valid.unexpired, valid.owner, valid.live⟩
  obtain ⟨result, reached, ran, -, -, -, ending⟩ := run_refresh config {} refreshToken still labelled
  have undone : deletes {} (repaired world) row.userId = true := by
    simp [deletes, findsUser, readable, repaired]
  have granted : grants {} (repaired world) row.userId = true := by simp [grants, readable]
  rw [if_pos undone, if_pos granted] at ending
  obtain ⟨session, rfl, -⟩ := ending
  rw [refreshAccessToken_none] at ran
  exact ⟨session, reached, ran⟩

structure Usable (config : AuthConfig) (userId : Nat) (session : Session) (world : World) :
    Prop where
  owner : session.accessToken.sub = userId
  lifetime : session.accessToken.exp = world.now / 1000 + config.accessTokenExpiresIn
  verifies : ∀ later, later / 1000 < session.accessToken.exp →
    jwtVerifies { world with now := later } session.accessToken = true
  exchangeable : Exchangeable config session.refreshToken world

section RefreshToken

variable {config : AuthConfig} {world : World} {refreshToken : Nat} {row : RefreshToken}

theorem Granted.usable {session : Session} {user : User}
    (granted : Granted config row.userId session.toTokens
      (world.withDb (dropRefreshToken refreshToken)) reached)
    (valid : Valid world refreshToken row user) (issued : Issued world.db)
    (labelled : Labelled reached) (now : reached.now = world.now)
    (users : reached.db.users = world.db.users) : Usable config row.userId session reached where
  owner := granted.owner
  lifetime := by rw [granted.expires, now]; rfl
  verifies := by
    intro later early
    simp [jwtVerifies, granted.signed, early]
  exchangeable := by
    have absent : (dropRefreshToken refreshToken world.db).refreshTokens.find?
        (·.token == session.refreshToken) = none := by
      rw [List.find?_eq_none]
      intro other member same
      have older := issued other (List.mem_filter.mp member).1
      have newer : world.db.nextId ≤ session.refreshToken := granted.fresh
      have equal : other.token = session.refreshToken := by simpa using same
      omega
    refine exchangeable_of_valid config reached session.refreshToken
      { token := session.refreshToken
        userId := row.userId
        expiresAt := world.now + config.refreshTokenExpiresIn } user ⟨?_, ?_, ?_, valid.live⟩ labelled
    · rw [findRefreshTokenIn, granted.stored, World.withDb_db, List.find?_append, absent,
        Option.none_or]
      simp
    · rw [now]
      exact Nat.le_add_right ..
    · rw [Database.findUser, users]
      exact valid.owner

theorem Granted.consumed
    (granted : Granted config userId tokens (world.withDb (dropRefreshToken refreshToken)) reached)
    (found : findRefreshTokenIn world.db refreshToken = some row) (issued : Issued world.db) :
    ¬Auth.stored reached.db refreshToken := by
  rintro ⟨other, member, same⟩
  rw [granted.stored, List.mem_append, List.mem_singleton] at member
  obtain old | rfl := member
  · exact dropRefreshToken_not_stored world.db refreshToken ⟨other, old, same⟩
  · have older := issued row (List.mem_of_find?_eq_some found)
    have named : row.token = refreshToken := by simpa using List.find?_some found
    have newer : world.db.nextId ≤ tokens.refreshToken := granted.fresh
    have equal : tokens.refreshToken = refreshToken := same
    omega

end RefreshToken

end Faulty

/-- A new pair in the place of the old token, or all tokens as they were; a call that rejects
leaves the old one exchangeable. -/
structure Atomic (config : AuthConfig) (world : World) (refreshToken userId : Nat)
    (result : Except ServiceError Session) (reached : World) : Prop where
  rejected : ∀ failure, result = .error failure →
    Faulty.Exchangeable config refreshToken reached
  whole : (∃ session, result = .ok session ∧ Faulty.Usable config userId session reached ∧
      ¬stored reached.db refreshToken) ∨
    reached.db.refreshTokens = world.db.refreshTokens

/-- The rotation is atomic unless the old token is deleted and the new one cannot be issued. -/
theorem rotation_atomic_iff (config : AuthConfig) (faults : RefreshFaults) (world : World)
    (refreshToken : Nat) (row : RefreshToken) (user : User) (sane : WellFormed world)
    (valid : Faulty.Valid world refreshToken row user) :
    (∀ result reached,
      (Faulty.refreshAccessToken config faults refreshToken).run world = (result, reached) →
      Atomic config world refreshToken row.userId result reached) ↔
    ¬(Faulty.deletes faults world row.userId = true ∧
      Faulty.grants faults world row.userId = false) := by
  have labelled : Faulty.Labelled world := fun userId copy there =>
    (sane.cached userId copy there).1
  obtain ⟨result, reached, ran, labels, now, users, ending⟩ :=
    Faulty.run_refresh config faults refreshToken valid labelled
  constructor
  · intro atomic lost
    rw [if_pos lost.1, if_neg (by simp [lost.2])] at ending
    obtain ⟨failure, rfl, rows⟩ := ending
    obtain ⟨session, impossible, -⟩ | same := (atomic _ _ ran).whole
    · cases impossible
    · refine dropRefreshToken_not_stored world.db refreshToken ⟨row, ?_, ?_⟩
      · rw [← rows, same]
        exact List.mem_of_find?_eq_some valid.stored
      · simpa using List.find?_some valid.stored
  · intro kept result' reached' ran'
    rw [ran] at ran'
    cases ran'
    by_cases undone : Faulty.deletes faults world row.userId = true
    · have given : Faulty.grants faults world row.userId = true := by
        by_contra denied
        exact kept ⟨undone, Bool.eq_false_iff.mpr denied⟩
      rw [if_pos undone, if_pos given] at ending
      obtain ⟨session, rfl, granted⟩ := ending
      refine ⟨?_, .inl ⟨session, rfl, granted.usable valid sane.issued labels now users,
        granted.consumed valid.stored sane.issued⟩⟩
      intro failure impossible
      cases impossible
    · rw [if_neg undone] at ending
      obtain ⟨failure, rfl, same⟩ := ending
      have still : Faulty.Valid reached refreshToken row user := by
        refine ⟨?_, ?_, ?_, valid.live⟩
        · rw [same, valid.stored]
        · rw [now]
          exact valid.unexpired
        · rw [same, valid.owner]
      exact ⟨fun _ _ => Faulty.exchangeable_of_valid config reached refreshToken row user still
        labels, .inr (congrArg Database.refreshTokens same)⟩

def signedInWorld : World where
  db :=
    { users := [{ id := 1, email := "ada@example.com", password := "secret" }]
      refreshTokens := [{ token := 5, userId := 1, expiresAt := 1000 }]
      nextId := 10 }

def ada : User := { id := 1, email := "ada@example.com", password := "secret" }

theorem signedIn_valid :
    Faulty.Valid signedInWorld 5 { token := 5, userId := 1, expiresAt := 1000 } ada where
  stored := rfl
  unexpired := by decide
  owner := by decide +kernel
  live := rfl

theorem signedIn_wellFormed : WellFormed signedInWorld where
  issued := by simp [Issued, signedInWorld]
  distinct := by simp [signedInWorld]
  users := by simp [signedInWorld]
  cached _ _ there := by cases there

/-- A deletion that fails is harmless. -/
theorem failed_deletion_keeps :
    WellFormed signedInWorld ∧
      ∀ result reached,
        (Faulty.refreshAccessToken {} { delete := some (.unavailable "refreshToken.delete") } 5).run
          signedInWorld = (result, reached) →
        Atomic {} signedInWorld 5 1 result reached :=
  ⟨signedIn_wellFormed,
    (rotation_atomic_iff {} { delete := some (.unavailable "refreshToken.delete") } signedInWorld 5
      { token := 5, userId := 1, expiresAt := 1000 } ada signedIn_wellFormed signedIn_valid).mpr
      fun both => Bool.false_ne_true both.1⟩

/-- The new token cannot be stored; the old one is gone, and nothing is left to exchange. -/
theorem failed_creation_loses :
    Faulty.Valid signedInWorld 5 { token := 5, userId := 1, expiresAt := 1000 } ada ∧
    ∃ reached,
      (Faulty.refreshAccessToken {} { create := some (.unavailable "refreshToken.create") } 5).run
          signedInWorld = (.error (.unavailable "refreshToken.create"), reached) ∧
        reached.db.refreshTokens = [] ∧
        ((refreshAccessToken {} 5).run reached).1 =
          .error (.api 401 "Invalid refresh token" "REFRESH_TOKEN_INVALID") :=
  ⟨signedIn_valid, _, Prod.ext (by decide +kernel) rfl, by decide +kernel, by decide +kernel⟩

end HelpForge.Auth
