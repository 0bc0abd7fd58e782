import HelpForge.Shared.World

set_option autoImplicit false

namespace HelpForge.Auth

open Lib

/-- Lifetimes of tokens: an access token's in seconds, a refresh token's in milliseconds. -/
structure AuthConfig where
  accessTokenExpiresIn : Nat := 900
  refreshTokenExpiresIn : Nat := 604800000
  deriving DecidableEq, Repr

structure UserData where
  email : String
  password : String
  name : Option String := none
  deriving DecidableEq, Repr

def userSelectWithPassword (user : User) : AuthUser :=
  { id := user.id
    email := user.email
    password := some user.password
    name := user.name
    createdAt := .date user.createdAt
    updatedAt := .date user.updatedAt
    tokenIssuedAt := user.tokenIssuedAt.map .date
    isDeleted := user.isDeleted }

def stripPassword (user : AuthUser) : AuthUser := { user with password := none }

def userSelectPublic (user : User) : AuthUser := stripPassword (userSelectWithPassword user)

/-- `JSON.parse` after `JSON.stringify`. -/
def dateToJson : JsDate → JsDate
  | .date time => .isoText time
  | .isoText time => .isoText time

def userToJson (user : AuthUser) : AuthUser :=
  { user with
    createdAt := dateToJson user.createdAt
    updatedAt := dateToJson user.updatedAt
    tokenIssuedAt := user.tokenIssuedAt.map dateToJson }

variable (user : User)

@[simp] theorem userSelectWithPassword_id :
    (userSelectWithPassword user).id = user.id := rfl

@[simp] theorem userSelectPublic_id : (userSelectPublic user).id = user.id := rfl

@[simp] theorem userSelectWithPassword_tokenIssuedAt :
    (userSelectWithPassword user).tokenIssuedAt = user.tokenIssuedAt.map .date := rfl

@[simp] theorem userSelectPublic_tokenIssuedAt :
    (userSelectPublic user).tokenIssuedAt = user.tokenIssuedAt.map .date := rfl

def cacheUser (user : AuthUser) : Call Unit :=
  Program.modify fun world => world.putUser (userToJson (stripPassword user))

def invalidateUser (userId : Nat) : Call Unit :=
  Program.modify fun world => world.dropUser userId

def cachedUser (world : World) (id : Nat) : Option AuthUser :=
  if world.failing .cache then none else world.userCache id

def findUserByEmail (email : String) : Call (Option AuthUser) := do
  let user ← Program.reads fun world =>
    (world.db.users.find? (·.email == email)).map userSelectWithPassword
  match user.filter fun user => !user.isDeleted with
  | none => pure none
  | some user =>
    cacheUser user
    pure (some user)

def newUser (world : World) (userData : UserData) : User :=
  { id := world.db.nextId
    email := userData.email
    password := userData.password
    name := userData.name
    createdAt := world.now
    updatedAt := world.now }

def insertUser (userData : UserData) : Call AuthUser :=
  Program.attempt fun world =>
    if world.db.users.any (·.email == userData.email) then .error .uniqueConstraint
    else
      .ok (userSelectWithPassword (newUser world userData), world.withDb fun db =>
        { db with
          users := db.users ++ [newUser world userData]
          nextId := db.nextId + 1 })

def createUser (userData : UserData) : Call AuthUser := do
  let user ← insertUser userData
  cacheUser user
  pure user

/-- 48 random bytes: a text that nobody has seen before. As nobody sees it before its
row is stored either, it is drawn with the row. -/
def generateRefreshToken (world : World) : Nat := world.db.nextId

def newRefreshToken (world : World) (userId expiresAt : Nat) : RefreshToken :=
  { token := generateRefreshToken world, userId, expiresAt }

def insertRefreshToken (row : RefreshToken) (db : Database) : Database :=
  { db with
    refreshTokens := db.refreshTokens ++ [row]
    nextId := db.nextId + 1 }

def createRefreshToken (userId expiresAt : Nat) : Call RefreshToken :=
  Program.attempt fun world =>
    if world.failing .refreshToken then .error (.unavailable "refreshToken.create")
    else if (world.db.findUser userId).isNone then .error .foreignKeyConstraint
    else
      .ok (newRefreshToken world userId expiresAt,
        world.withDb (insertRefreshToken (newRefreshToken world userId expiresAt)))

def insertUserWithRefreshToken (userData : UserData) (expiresAt : Nat) :
    Call (AuthUser × RefreshToken) := do
  let createdUser ← insertUser userData
  let refreshToken ← createRefreshToken createdUser.id expiresAt
  pure (createdUser, refreshToken)

def createUserWithRefreshToken (userData : UserData) (expiresAt : Nat) :
    Call (AuthUser × RefreshToken) := do
  let (user, refreshToken) ← Program.transaction (insertUserWithRefreshToken userData expiresAt)
  cacheUser user
  pure (user, refreshToken)

def findUserById (id : Nat) : Call (Option AuthUser) := do
  let cached ← Program.reads fun world => cachedUser world id
  match cached with
  | some cached => pure (some cached)
  | none =>
    let user ← Program.reads fun world => (world.db.findUser id).map userSelectPublic
    match user.filter fun user => !user.isDeleted with
    | none => pure none
    | some user =>
      cacheUser user
      pure (some user)

def cachedAccessScope (world : World) (userId : Nat) : Option (List OrganizationScope) :=
  if world.failing .cache then none else world.accessScopeCache userId

def scopeOf (db : Database) (membership : Membership) : Option OrganizationScope :=
  (db.findOrgRole membership.roleId).map fun role =>
    { organizationId := membership.organizationId
      roleId := membership.roleId
      roleName := role.name
      level := role.level
      permissions := role.permissions }

def permissionSnapshot (db : Database) (userId : Nat) : List OrganizationScope :=
  (db.memberships.filter (·.userId == userId)).filterMap (scopeOf db)

def getUserPermissionSnapshot (userId : Nat) : Call (List OrganizationScope) := do
  let cached ← Program.reads fun world => cachedAccessScope world userId
  match cached with
  | some cached => pure cached
  | none =>
    let snapshot ← Program.reads fun world => permissionSnapshot world.db userId
    Program.modify fun world => world.putAccessScope userId snapshot
    pure snapshot

def invalidateUserPermissionSnapshot (userId : Nat) : Call Unit :=
  Program.modify fun world => world.dropAccessScope userId

/-- `user.update`: `updatedAt` follows every change. -/
def changeUser (userId : Nat) (change : User → User) (now : Nat) (db : Database) : Database :=
  { db with
    users := changeWhere (·.id == userId)
      (fun user => { change user with updatedAt := now }) db.users }

def updateUser (userId : Nat) (change : User → User) : Call AuthUser :=
  Program.attempt fun world =>
    match world.db.findUser userId with
    | none => .error .recordNotFound
    | some user =>
      .ok (userSelectPublic { change user with updatedAt := world.now },
        world.withDb (changeUser userId change world.now))

def issuedAt (now : Nat) (user : User) : User := { user with tokenIssuedAt := some now }

def updateUserTokenIssuedAt (userId : Nat) : Call AuthUser := do
  let now ← Program.reads fun world => world.now
  let user ← updateUser userId (issuedAt now)
  cacheUser user
  invalidateUserPermissionSnapshot userId
  pure user

def softDeleteUser (userId : Nat) : Call AuthUser := do
  let now ← Program.reads fun world => world.now
  let user ← updateUser userId fun user => { user with isDeleted := true, deletedAt := some now }
  invalidateUser userId
  invalidateUserPermissionSnapshot userId
  pure user

def findRefreshTokenIn (db : Database) (token : Nat) : Option RefreshToken :=
  db.refreshTokens.find? (·.token == token)

def findRefreshToken (token : Nat) : Call (Option RefreshToken) :=
  Program.reads fun world => findRefreshTokenIn world.db token

def dropRefreshToken (token : Nat) (db : Database) : Database :=
  { db with refreshTokens := db.refreshTokens.filter (·.token != token) }

def dropUserRefreshTokens (userId : Nat) (db : Database) : Database :=
  { db with refreshTokens := db.refreshTokens.filter (·.userId != userId) }

def deleteRefreshToken (token : Nat) : Call RefreshToken :=
  Program.attempt fun world =>
    if world.failing .refreshToken then .error (.unavailable "refreshToken.delete")
    else
      match findRefreshTokenIn world.db token with
      | none => .error .recordNotFound
      | some row => .ok (row, world.withDb (dropRefreshToken token))

def deleteUserRefreshTokens (userId : Nat) : Call Unit :=
  Program.attempt fun world =>
    if world.failing .refreshToken then .error (.unavailable "refreshToken.deleteMany")
    else .ok ((), world.withDb (dropUserRefreshTokens userId))

def insertBlacklistRow (row : TokenBlacklist) (db : Database) : Database :=
  { db with tokenBlacklist := db.tokenBlacklist ++ [row] }

def insertBlacklisted (jti expiresAt : Nat) : Call Unit :=
  Program.attempt fun world =>
    if world.failing .tokenBlacklist then .error (.unavailable "tokenBlacklist.create")
    else if world.db.tokenBlacklist.any (·.jti == jti) then .error .uniqueConstraint
    else .ok ((), world.withDb (insertBlacklistRow { jti, expiresAt }))

def cacheBlacklisted (jti : Nat) : Call Unit :=
  Program.modify fun world => world.putBlacklisted jti

def blacklistToken (jti expiresAt : Nat) : Call Unit := do
  insertBlacklisted jti expiresAt
  cacheBlacklisted jti

def isTokenBlacklisted (jti : Nat) : Call Bool := do
  let cached ← Program.reads fun world => !world.failing .cache && world.blacklistCache jti
  if cached then pure true
  else
    let entry ← Program.reads fun world => world.db.tokenBlacklist.any (·.jti == jti)
    if entry then
      cacheBlacklisted jti
      pure true
    else pure false

def deleteExpired (before : Nat) (world : World) : World :=
  { world with
    db := { world.db with
      tokenBlacklist := world.db.tokenBlacklist.filter fun row => !decide (row.expiresAt < before) }
    cleaned := max world.cleaned before }

def deleteExpiredBefore (before : Nat) : Call Unit :=
  Program.attempt fun world =>
    if world.failing .tokenBlacklist then .error (.unavailable "tokenBlacklist.deleteMany")
    else .ok ((), deleteExpired before world)

def cleanExpiredBlacklistEntries : Call Unit := do
  let now ← Program.reads fun world => world.now
  deleteExpiredBefore now

end HelpForge.Auth
