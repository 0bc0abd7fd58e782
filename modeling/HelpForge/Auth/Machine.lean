import HelpForge.Auth.Service
import HelpForge.Lib.History

set_option autoImplicit false

namespace HelpForge.Auth

open Lib
open Program (advance_attempt_bind advance_reads_bind)

structure AuthSetup where
  config : AuthConfig
  hashPassword : String → String
  comparePassword : String → String → Bool

inductive Request where
  | register (userData : UserData)
  | login (email password : String)
  | refresh (refreshToken : Nat)
  | logout (accessToken : Option Claims) (refreshToken : Option Nat)
  | logoutAll (userId : Nat)
  | authenticate (token : Option Claims)
  | clean
  deriving DecidableEq, Repr

inductive Outcome where
  | session (session : Session)
  | authenticated (authenticated : Authenticated)
  | done
  deriving DecidableEq, Repr

def Request.program (setup : AuthSetup) : Request → Call Outcome
  | register userData => do
    let session ← registerUser setup.hashPassword setup.config userData
    pure (.session session)
  | login email password => do
    let session ← loginUser setup.comparePassword setup.config email password
    pure (.session session)
  | refresh refreshToken => do
    let session ← refreshAccessToken setup.config refreshToken
    pure (.session session)
  | logout accessToken refreshToken => do
    logoutUser accessToken refreshToken
    pure .done
  | logoutAll userId => do
    logoutAllDevices userId
    pure .done
  | authenticate token => do
    let authenticated ← Auth.authenticate token
    pure (.authenticated authenticated)
  | clean => do
    cleanExpiredBlacklistEntries
    pure .done

inductive Purpose where
  | rotate (refreshToken : Nat)
  | authenticate (accessToken : Claims)
  deriving DecidableEq, Repr

/-- The next statement of a call, with the values that the call holds. -/
inductive Phase where
  | registerFind (userData : UserData)
  | registerCacheExisting (user : AuthUser)
  | registerDate (userData : UserData)
  | registerCreate (userData : UserData) (expiresAt : Nat)
  | registerCache (user : AuthUser) (refreshToken : RefreshToken)
  | registerSign (user : AuthUser) (refreshToken : RefreshToken)
  | loginFind (email password : String)
  | loginCache (user : AuthUser) (password : String)
  | scopeGet (user : AuthUser)
  | scopeRead (user : AuthUser)
  | scopePut (user : AuthUser) (scope : List OrganizationScope)
  | sign (user : AuthUser) (scope : List OrganizationScope)
  | date (user : AuthUser) (accessToken : Claims)
  | create (user : AuthUser) (accessToken : Claims) (expiresAt : Nat)
  | refreshFind (refreshToken : Nat)
  | refreshDate (refreshToken : Nat) (stored : RefreshToken)
  | dropExpired (refreshToken : Nat)
  | dropOrphan (refreshToken : Nat)
  | dropRotated (refreshToken : Nat) (user : AuthUser)
  | userGet (purpose : Purpose) (userId : Nat)
  | userRead (purpose : Purpose) (userId : Nat)
  | userPut (purpose : Purpose) (user : AuthUser)
  | logoutVerify (accessToken : Claims) (refreshToken : Option Nat)
  | blacklistInsert (jti expiresAt : Nat) (refreshToken : Option Nat)
  | blacklistPut (jti : Nat) (refreshToken : Option Nat)
  | logoutDrop (refreshToken : Nat)
  | captureNow (userId : Nat)
  | updateIssuedAt (userId now : Nat)
  | updatedPut (userId : Nat) (user : AuthUser)
  | scopeDrop (userId : Nat)
  | tokensDrop (userId : Nat)
  | verify (accessToken : Claims)
  -- `verifiedAt` is the time at which the token was verified.
  | blacklistGet (accessToken : Claims) (verifiedAt : Nat)
  | blacklistRead (accessToken : Claims) (verifiedAt : Nat)
  | blacklistFill (accessToken : Claims)
  | cleanNow
  | clean (before : Nat)
  | finished (result : Except ServiceError Outcome)

variable (setup : AuthSetup) (refreshToken : Nat) (purpose : Purpose) (user : AuthUser)

namespace Phase

def failed (failure : ServiceError) : Phase := .finished (.error failure)

def loggedOut : Option Nat → Phase
  | none => .finished (.ok .done)
  | some refreshToken => .logoutDrop refreshToken

def admitted (accessToken : Claims) (user : AuthUser) : Except ServiceError Outcome :=
  ((checkIssuedAt accessToken user).run {}).1.map fun _ =>
    .authenticated { auth := accessToken, user }

def found : Purpose → AuthUser → Phase
  | .rotate refreshToken, user => .dropRotated refreshToken user
  | .authenticate accessToken, user => .finished (admitted accessToken user)

def missing : Purpose → Phase
  | .rotate refreshToken => .dropOrphan refreshToken
  | .authenticate _ => .failed (.api 401 "Invalid authentication token" "TOKEN_INVALID")

def deleting (refreshToken : Nat) (next : Phase) (world : World) : Phase × World :=
  if world.failing .refreshToken then (.failed (.unavailable "refreshToken.delete"), world)
  else
    match findRefreshTokenIn world.db refreshToken with
    | none => (.failed .recordNotFound, world)
    | some _ => (next, world.withDb (dropRefreshToken refreshToken))

def passwordMatches (setup : AuthSetup) (user : AuthUser) (password : String) : Bool :=
  match user.password.filter (· != "") with
  | none => false
  | some hashed => setup.comparePassword password hashed

def live (user : Option AuthUser) : Option AuthUser := user.filter fun user => !user.isDeleted

def advance (setup : AuthSetup) : Phase → World → Option (Phase × World)
  | registerFind userData, world =>
    match live ((world.db.users.find? (·.email == userData.email)).map userSelectWithPassword) with
    | some user => some (.registerCacheExisting user, world)
    | none =>
      if setup.hashPassword userData.password != "" then some (.registerDate userData, world)
      else some (.failed (.api 500 "Failed to hash password" "HASH_FAILED"), world)
  | registerCacheExisting user, world =>
    some (.failed (.api 409 "User already exists" "USER_EXISTS"),
      world.putUser (userToJson (stripPassword user)))
  | registerDate userData, world =>
    some (.registerCreate userData (world.now + setup.config.refreshTokenExpiresIn), world)
  | registerCreate userData expiresAt, world =>
    match (insertUserWithRefreshToken
        { userData with password := setup.hashPassword userData.password } expiresAt).run world with
    | (.ok (user, refreshToken), reached) => some (.registerCache user refreshToken, reached)
    | (.error failure, _) => some (.failed failure, world)
  | registerCache user refreshToken, world =>
    some (.registerSign user refreshToken, world.putUser (userToJson (stripPassword user)))
  | registerSign user refreshToken, world =>
    let accessToken := newAccessToken setup.config world user.id []
    some (.finished (.ok (.session
      { user := sanitizeUser user
        accessToken
        refreshToken := refreshToken.token
        expiresIn := setup.config.accessTokenExpiresIn })), Auth.sign accessToken world)
  | loginFind email password, world =>
    match live ((world.db.users.find? (·.email == email)).map userSelectWithPassword) with
    | some user => some (.loginCache user password, world)
    | none => some (.failed invalidCredentials, world)
  | loginCache user password, world =>
    some (if passwordMatches setup user password then .scopeGet user else .failed invalidCredentials,
      world.putUser (userToJson (stripPassword user)))
  | scopeGet user, world =>
    match cachedAccessScope world user.id with
    | some scope => some (.sign user scope, world)
    | none => some (.scopeRead user, world)
  | scopeRead user, world => some (.scopePut user (permissionSnapshot world.db user.id), world)
  | scopePut user scope, world => some (.sign user scope, world.putAccessScope user.id scope)
  | sign user scope, world =>
    let accessToken := newAccessToken setup.config world user.id scope
    some (.date user accessToken, Auth.sign accessToken world)
  | date user accessToken, world =>
    some (.create user accessToken (world.now + setup.config.refreshTokenExpiresIn), world)
  | create user accessToken expiresAt, world =>
    if world.failing .refreshToken then
      some (.failed (.unavailable "refreshToken.create"), world)
    else if (world.db.findUser user.id).isNone then some (.failed .foreignKeyConstraint, world)
    else
      some (.finished (.ok (.session
        { user := sanitizeUser user
          accessToken
          refreshToken := generateRefreshToken world
          expiresIn := setup.config.accessTokenExpiresIn })),
        world.withDb (insertRefreshToken (newRefreshToken world user.id expiresAt)))
  | refreshFind refreshToken, world =>
    match findRefreshTokenIn world.db refreshToken with
    | none => some (.failed (.api 401 "Invalid refresh token" "REFRESH_TOKEN_INVALID"), world)
    | some stored => some (.refreshDate refreshToken stored, world)
  | refreshDate refreshToken stored, world =>
    some (if stored.expiresAt < world.now then .dropExpired refreshToken
      else .userGet (.rotate refreshToken) stored.userId, world)
  | dropExpired refreshToken, world =>
    some (deleting refreshToken
      (.failed (.api 401 "Refresh token expired" "REFRESH_TOKEN_EXPIRED")) world)
  | dropOrphan refreshToken, world =>
    some (deleting refreshToken (.failed (.api 401 "User not found" "USER_NOT_FOUND")) world)
  | dropRotated refreshToken user, world =>
    some (deleting refreshToken (.scopeGet user) world)
  | userGet purpose userId, world =>
    match cachedUser world userId with
    | some user => some (found purpose user, world)
    | none => some (.userRead purpose userId, world)
  | userRead purpose userId, world =>
    match live ((world.db.findUser userId).map userSelectPublic) with
    | some user => some (.userPut purpose user, world)
    | none => some (missing purpose, world)
  | userPut purpose user, world =>
    some (found purpose user, world.putUser (userToJson (stripPassword user)))
  | logoutVerify accessToken refreshToken, world =>
    some (if jwtVerifies world accessToken && accessToken.type == "access" then
        .blacklistInsert accessToken.jti (accessToken.exp * 1000) refreshToken
      else loggedOut refreshToken, world)
  | blacklistInsert jti expiresAt refreshToken, world =>
    if world.failing .tokenBlacklist then some (loggedOut refreshToken, world)
    else if world.db.tokenBlacklist.any (·.jti == jti) then some (loggedOut refreshToken, world)
    else some (.blacklistPut jti refreshToken,
      world.withDb (insertBlacklistRow { jti, expiresAt }))
  | blacklistPut jti refreshToken, world => some (loggedOut refreshToken, world.putBlacklisted jti)
  | logoutDrop refreshToken, world =>
    match deleting refreshToken (.finished (.ok .done)) world with
    | (.finished (.error failure), reached) =>
      if failure.code = some "P2025" then some (.finished (.ok .done), reached)
      else some (.failed failure, reached)
    | (next, reached) => some (next, reached)
  | captureNow userId, world => some (.updateIssuedAt userId world.now, world)
  | updateIssuedAt userId now, world =>
    match world.db.findUser userId with
    | none => some (.failed .recordNotFound, world)
    | some user =>
      some (.updatedPut userId (userSelectPublic { issuedAt now user with updatedAt := world.now }),
        world.withDb (changeUser userId (issuedAt now) world.now))
  | updatedPut userId user, world =>
    some (.scopeDrop userId, world.putUser (userToJson (stripPassword user)))
  | scopeDrop userId, world => some (.tokensDrop userId, world.dropAccessScope userId)
  | tokensDrop userId, world =>
    if world.failing .refreshToken then
      some (.failed (.unavailable "refreshToken.deleteMany"), world)
    else some (.finished (.ok .done), world.withDb (dropUserRefreshTokens userId))
  | verify accessToken, world =>
    if jwtVerifies world accessToken then
      if accessToken.type == "access" then some (.blacklistGet accessToken world.now, world)
      else some (.failed (.api 401 "Invalid token type" "TOKEN_TYPE_INVALID"), world)
    else some (.failed invalidToken, world)
  | blacklistGet accessToken verifiedAt, world =>
    if !world.failing .cache && world.blacklistCache accessToken.jti then
      some (.failed revokedToken, world)
    else some (.blacklistRead accessToken verifiedAt, world)
  | blacklistRead accessToken _, world =>
    if world.db.tokenBlacklist.any (·.jti == accessToken.jti) then
      some (.blacklistFill accessToken, world)
    else some (.userGet (.authenticate accessToken) accessToken.sub, world)
  | blacklistFill accessToken, world =>
    some (.failed revokedToken, world.putBlacklisted accessToken.jti)
  | cleanNow, world => some (.clean world.now, world)
  | clean before, world =>
    if world.failing .tokenBlacklist then
      some (.failed (.unavailable "tokenBlacklist.deleteMany"), world)
    else some (.finished (.ok .done), deleteExpired before world)
  | finished _, _ => none

def withTokens (setup : AuthSetup) (user : AuthUser) (accessToken : Claims)
    (refreshToken : RefreshToken) : Call Outcome :=
  pure (.session
    { user := sanitizeUser user
      accessToken
      refreshToken := refreshToken.token
      expiresIn := setup.config.accessTokenExpiresIn })

def afterUser (setup : AuthSetup) : Purpose → Option AuthUser → Call Outcome
  | .rotate refreshToken, none => do
    let _ ← deleteRefreshToken refreshToken
    Program.fail (.api 401 "User not found" "USER_NOT_FOUND")
  | .rotate refreshToken, some user => do
    let _ ← deleteRefreshToken refreshToken
    let tokens ← issueTokens setup.config user
    pure (.session { tokens with user := sanitizeUser user })
  | .authenticate accessToken, user => do
    let user ← Program.orFail user
      (.api 401 "Invalid authentication token" "TOKEN_INVALID")
    checkIssuedAt accessToken user
    pure (.authenticated { auth := accessToken, user })

def afterBlacklist (setup : AuthSetup) (accessToken : Claims) (blacklisted : Bool) :
    Call Outcome := do
  Program.require (!blacklisted) revokedToken
  let user ← findUserById accessToken.sub
  afterUser setup (.authenticate accessToken) user

def dropOnLogout (refreshToken : Option Nat) : Call Outcome := do
  logoutUser none refreshToken
  pure .done

def program (setup : AuthSetup) : Phase → Call Outcome
  | registerFind userData => (Request.register userData).program setup
  | registerCacheExisting user => do
    cacheUser user
    Program.fail (.api 409 "User already exists" "USER_EXISTS")
  | registerDate userData => do
    let expiresAt ← Program.reads fun world => world.now + setup.config.refreshTokenExpiresIn
    let (user, refreshToken) ← createUserWithRefreshToken
      { userData with password := setup.hashPassword userData.password } expiresAt
    let accessToken ← generateAccessToken setup.config user.id []
    withTokens setup user accessToken refreshToken
  | registerCreate userData expiresAt => do
    let (user, refreshToken) ← createUserWithRefreshToken
      { userData with password := setup.hashPassword userData.password } expiresAt
    let accessToken ← generateAccessToken setup.config user.id []
    withTokens setup user accessToken refreshToken
  | registerCache user refreshToken => do
    cacheUser user
    let accessToken ← generateAccessToken setup.config user.id []
    withTokens setup user accessToken refreshToken
  | registerSign user refreshToken => do
    let accessToken ← generateAccessToken setup.config user.id []
    withTokens setup user accessToken refreshToken
  | loginFind email password => (Request.login email password).program setup
  | loginCache user password => do
    cacheUser user
    let hashed ← Program.orFail (user.password.filter (· != "")) invalidCredentials
    Program.require (setup.comparePassword password hashed) invalidCredentials
    let tokens ← issueTokens setup.config user
    pure (.session { tokens with user := sanitizeUser user })
  | scopeGet user => do
    let tokens ← issueTokens setup.config user
    pure (.session { tokens with user := sanitizeUser user })
  | scopeRead user => do
    let scope ← Program.reads fun world => permissionSnapshot world.db user.id
    Program.modify fun world => world.putAccessScope user.id scope
    let accessToken ← generateAccessToken setup.config user.id scope
    let expiresAt ← Program.reads fun world => world.now + setup.config.refreshTokenExpiresIn
    let refreshToken ← createRefreshToken user.id expiresAt
    withTokens setup user accessToken refreshToken
  | scopePut user scope => do
    Program.modify fun world => world.putAccessScope user.id scope
    let accessToken ← generateAccessToken setup.config user.id scope
    let expiresAt ← Program.reads fun world => world.now + setup.config.refreshTokenExpiresIn
    let refreshToken ← createRefreshToken user.id expiresAt
    withTokens setup user accessToken refreshToken
  | sign user scope => do
    let accessToken ← generateAccessToken setup.config user.id scope
    let expiresAt ← Program.reads fun world => world.now + setup.config.refreshTokenExpiresIn
    let refreshToken ← createRefreshToken user.id expiresAt
    withTokens setup user accessToken refreshToken
  | date user accessToken => do
    let expiresAt ← Program.reads fun world => world.now + setup.config.refreshTokenExpiresIn
    let refreshToken ← createRefreshToken user.id expiresAt
    withTokens setup user accessToken refreshToken
  | create user accessToken expiresAt => do
    let refreshToken ← createRefreshToken user.id expiresAt
    withTokens setup user accessToken refreshToken
  | refreshFind refreshToken => (Request.refresh refreshToken).program setup
  | refreshDate refreshToken stored => do
    let now ← Program.reads fun world => world.now
    if stored.expiresAt < now then
      let _ ← deleteRefreshToken refreshToken
      Program.fail (.api 401 "Refresh token expired" "REFRESH_TOKEN_EXPIRED")
    else
      let user ← findUserById stored.userId
      afterUser setup (.rotate refreshToken) user
  | dropExpired refreshToken => do
    let _ ← deleteRefreshToken refreshToken
    Program.fail (.api 401 "Refresh token expired" "REFRESH_TOKEN_EXPIRED")
  | dropOrphan refreshToken => afterUser setup (.rotate refreshToken) none
  | dropRotated refreshToken user => afterUser setup (.rotate refreshToken) (some user)
  | userGet purpose userId => do
    let user ← findUserById userId
    afterUser setup purpose user
  | userRead purpose userId => do
    let user ← Program.reads fun world => (world.db.findUser userId).map userSelectPublic
    match user.filter fun user => !user.isDeleted with
    | none => afterUser setup purpose none
    | some user => do
      cacheUser user
      afterUser setup purpose (some user)
  | userPut purpose user => do
    cacheUser user
    afterUser setup purpose (some user)
  | logoutVerify accessToken refreshToken =>
    (Request.logout (some accessToken) refreshToken).program setup
  | blacklistInsert jti expiresAt refreshToken => do
    (blacklistToken jti expiresAt).recover fun _ => pure ()
    dropOnLogout refreshToken
  | blacklistPut jti refreshToken => do
    (cacheBlacklisted jti).recover fun _ => pure ()
    dropOnLogout refreshToken
  | logoutDrop refreshToken => dropOnLogout (some refreshToken)
  | captureNow userId => (Request.logoutAll userId).program setup
  | updateIssuedAt userId now => do
    let user ← updateUser userId (issuedAt now)
    cacheUser user
    invalidateUserPermissionSnapshot userId
    deleteUserRefreshTokens userId
    pure .done
  | updatedPut userId user => do
    cacheUser user
    invalidateUserPermissionSnapshot userId
    deleteUserRefreshTokens userId
    pure .done
  | scopeDrop userId => do
    invalidateUserPermissionSnapshot userId
    deleteUserRefreshTokens userId
    pure .done
  | tokensDrop userId => do
    deleteUserRefreshTokens userId
    pure .done
  | verify accessToken => (Request.authenticate (some accessToken)).program setup
  | blacklistGet accessToken _ => do
    let blacklisted ← isTokenBlacklisted accessToken.jti
    afterBlacklist setup accessToken blacklisted
  | blacklistRead accessToken _ => do
    let entry ← Program.reads fun world => world.db.tokenBlacklist.any (·.jti == accessToken.jti)
    if entry then do
      cacheBlacklisted accessToken.jti
      afterBlacklist setup accessToken true
    else afterBlacklist setup accessToken false
  | blacklistFill accessToken => do
    cacheBlacklisted accessToken.jti
    afterBlacklist setup accessToken true
  | cleanNow => Request.clean.program setup
  | clean before => do
    deleteExpiredBefore before
    pure .done
  | finished result => .done result

def ofRequest : Request → Phase
  | .register userData => .registerFind userData
  | .login email password => .loginFind email password
  | .refresh refreshToken => .refreshFind refreshToken
  | .logout none refreshToken => loggedOut refreshToken
  | .logout (some accessToken) refreshToken => .logoutVerify accessToken refreshToken
  | .logoutAll userId => .captureNow userId
  | .authenticate none =>
    .failed (.api 401 "Authentication token is required" "TOKEN_MISSING")
  | .authenticate (some accessToken) => .verify accessToken
  | .clean => .cleanNow

theorem program_ofRequest (request : Request) :
    (ofRequest request).program setup = request.program setup := by
  cases request with
  | logout accessToken refreshToken =>
    cases accessToken <;> cases refreshToken <;> rfl
  | authenticate token => cases token <;> rfl
  | _ => rfl

def residual (setup : AuthSetup) (step : Phase × World) : Call Outcome × World :=
  (step.1.program setup, step.2)

theorem afterUser_rotate (user : Option AuthUser) :
    afterUser setup (.rotate refreshToken) user = (do
      let session ← (match user with
        | none => do
          let _ ← deleteRefreshToken refreshToken
          Program.fail (.api 401 "User not found" "USER_NOT_FOUND")
        | some user => do
          let _ ← deleteRefreshToken refreshToken
          let tokens ← issueTokens setup.config user
          pure { tokens with user := sanitizeUser user } : Call Session)
      pure (.session session)) := by
  cases user with
  | none => simp only [afterUser, bind_assoc, Program.fail_bind]
  | some user => simp only [afterUser, bind_assoc, Program.pure_bind]

theorem refresh_program :
    (Request.refresh refreshToken).program setup = (do
      let stored ← findRefreshToken refreshToken
      let stored ← Program.orFail stored
        (.api 401 "Invalid refresh token" "REFRESH_TOKEN_INVALID")
      program setup (.refreshDate refreshToken stored)) := by
  simp only [Request.program, refreshAccessToken, bind_assoc, program]
  congr
  funext found
  congr
  funext stored
  congr
  funext now
  split_ifs
  · simp only [bind_assoc, Program.fail_bind]
  · simp only [bind_assoc]
    congr
    funext user
    exact (afterUser_rotate setup refreshToken user).symm

theorem passwordMatches_bind (password : String) (rest : Call Outcome) :
    (do
      let hashed ← Program.orFail (user.password.filter (· != "")) invalidCredentials
      Program.require (setup.comparePassword password hashed) invalidCredentials
      rest) =
      if passwordMatches setup user password then rest else Program.fail invalidCredentials := by
  obtain ⟨stored, known⟩ : ∃ stored, user.password.filter (· != "") = stored := ⟨_, rfl⟩
  cases stored with
  | none => simp [passwordMatches, known, Program.orFail]
  | some hashed =>
    cases valid : setup.comparePassword password hashed <;>
      simp [passwordMatches, known, Program.orFail, Program.require, valid]

theorem checkIssuedAt_bind (accessToken : Claims) (user : AuthUser) :
    afterUser setup (.authenticate accessToken) (some user) =
      (.done (admitted accessToken user) : Call Outcome) := by
  simp only [afterUser, Program.orFail, Program.pure_bind, checkIssuedAt, admitted]
  cases user.tokenIssuedAt with
  | none => rfl
  | some issued =>
    cases issued with
    | isoText => rfl
    | date time => by_cases earlier : accessToken.iat < time / 1000 <;> simp [earlier, Program.require] <;> rfl

theorem afterUser_found :
    afterUser setup purpose (some user) = (found purpose user).program setup := by
  cases purpose with
  | rotate => rfl
  | authenticate accessToken => exact checkIssuedAt_bind setup accessToken user

theorem afterUser_missing : afterUser setup purpose none = (missing purpose).program setup := by
  cases purpose <;> rfl

theorem advance_program (phase : Phase) (world : World) :
    (phase.program setup).advance world =
      (phase.advance setup world).map (residual setup) := by
  cases phase with
  | registerFind userData =>
    simp only [program, Request.program, registerUser, findUserByEmail, bind_assoc,
      advance_reads_bind, advance, live]
    cases found : ((world.db.users.find? (·.email == userData.email)).map userSelectWithPassword).filter
      fun user => !user.isDeleted with
    | some user => rfl
    | none =>
      by_cases hashed : (setup.hashPassword userData.password != "") = true
      · simp only [hashed]
        rfl
      · simp only [hashed]
        rfl
  | registerCreate userData expiresAt =>
    simp only [program, createUserWithRefreshToken, bind_assoc, Program.advance_transaction_bind, advance]
    rcases ((insertUserWithRefreshToken
        { userData with password := setup.hashPassword userData.password } expiresAt).run world) with ⟨failure | value, reached⟩
    · rfl
    · rfl
  | loginFind email password => 
    simp only [program, Request.program, loginUser, findUserByEmail, bind_assoc,
      advance_reads_bind, advance, live]
    cases found : ((world.db.users.find? (·.email == email)).map userSelectWithPassword).filter
      fun user => !user.isDeleted with
    | some user => rfl
    | none => rfl
  | loginCache user password =>
    simp only [program, cacheUser, Program.advance_modify_bind, advance, passwordMatches_bind]
    by_cases matching : passwordMatches setup user password = true
    · simp only [matching]
      rfl
    · simp only [matching]
      rfl
  | scopeGet user =>
    simp only [program, issueTokens, getUserPermissionSnapshot, bind_assoc, advance_reads_bind, advance]
    cases cachedAccessScope world user.id <;> rfl
  | create user accessToken expiresAt =>
    simp only [program, createRefreshToken, advance_attempt_bind, advance]
    split_ifs <;> rfl
  | refreshFind refreshToken =>
    simp only [program, refresh_program, findRefreshToken, advance_reads_bind, advance]
    cases findRefreshTokenIn world.db refreshToken <;> rfl
  | refreshDate r stored =>
    simp only [program, advance_reads_bind, advance]
    split_ifs <;> rfl
  | dropExpired r =>
    simp only [program, deleteRefreshToken, advance_attempt_bind, advance, deleting]
    split_ifs
    · rfl
    · cases findRefreshTokenIn world.db r <;> rfl
  | dropOrphan r =>
    simp only [program, afterUser, deleteRefreshToken, advance_attempt_bind, advance, deleting]
    split_ifs
    · rfl
    · cases findRefreshTokenIn world.db r <;> rfl
  | dropRotated r user =>
    simp only [program, afterUser, deleteRefreshToken, advance_attempt_bind, advance, deleting]
    split_ifs
    · rfl
    · cases findRefreshTokenIn world.db r <;> rfl
  | userGet purpose userId =>
    simp only [program, findUserById, bind_assoc, advance_reads_bind, advance]
    cases cachedUser world userId with
    | none =>
      simp only [bind_assoc, residual, Option.map_some, program]
      congr
      funext user
      cases user.filter fun user => !user.isDeleted <;> rfl
    | some user =>
      simp only [Program.pure_bind, afterUser_found, residual, Option.map_some]
  | userRead purpose userId =>
    simp only [program, advance_reads_bind, advance, live]
    cases ((world.db.findUser userId).map userSelectPublic).filter fun user => !user.isDeleted with
    | none => simp only [afterUser_missing, residual, Option.map_some]
    | some user => rfl
  | userPut purpose user =>
    simp only [program, cacheUser, Program.advance_modify_bind, advance]
    rw [afterUser_found]
    rfl
  | blacklistPut jti r => cases r <;> rfl
  | captureNow => 
    simp only [program, Request.program, logoutAllDevices, updateUserTokenIssuedAt, bind_assoc,
      advance_reads_bind, advance]
    rfl
  | updateIssuedAt userId now =>
    simp only [program, updateUser, advance_attempt_bind, advance]
    cases world.db.findUser userId <;> rfl
  | tokensDrop =>
    simp only [program, deleteUserRefreshTokens, advance_attempt_bind, advance]
    split_ifs <;> rfl
  | verify accessToken =>
    simp only [program, Request.program, Auth.authenticate, verifyAccessToken, bind_assoc,
      Program.orFail, Program.pure_bind, advance_reads_bind, advance]
    by_cases verifies : jwtVerifies world accessToken = true
    · by_cases typed : (accessToken.type == "access") = true
      · simp only [verifies, typed, Program.require]
        rfl
      · simp only [verifies, typed, Program.require]
        rfl
    · simp only [verifies, Program.require]
      rfl
  | blacklistGet accessToken verifiedAt =>
    simp only [program, isTokenBlacklisted, bind_assoc, advance_reads_bind, advance]
    split_ifs
    · rfl
    · simp only [bind_assoc, residual, Option.map_some, program]
      congr
      funext entry
      cases entry <;> rfl
  | blacklistRead accessToken verifiedAt =>
    simp only [program, advance_reads_bind, advance]
    split_ifs <;> rfl
  | logoutVerify accessToken refreshToken =>
    simp only [program, Request.program, logoutUser, revokeAccessToken, verifyAccessToken,
      bind_assoc, Program.advance_recover_reads_bind, advance]
    by_cases verifies : jwtVerifies world accessToken = true
    · by_cases typed : (accessToken.type == "access") = true
      · simp only [verifies, typed, Program.require]
        cases refreshToken <;> rfl
      · simp only [verifies, typed, Program.require]
        cases refreshToken <;> rfl
    · simp only [verifies, Program.require]
      cases refreshToken <;> rfl
  | blacklistInsert jti expiresAt refreshToken =>
    simp only [program, blacklistToken, insertBlacklisted, Program.advance_recover_attempt_bind,
      advance]
    split_ifs
    · cases refreshToken <;> rfl
    · cases refreshToken <;> rfl
    · rfl
  | logoutDrop refreshToken =>
    simp only [program, dropOnLogout, logoutUser, deleteRefreshToken,
      Program.advance_recover_attempt_bind, advance, deleting]
    split_ifs
    · rfl
    · cases findRefreshTokenIn world.db refreshToken <;> rfl
  | clean => 
    simp only [program, deleteExpiredBefore, advance_attempt_bind, advance]
    split_ifs <;> rfl
  | _ => rfl

end Phase

end HelpForge.Auth
