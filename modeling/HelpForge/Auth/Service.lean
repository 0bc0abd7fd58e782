import HelpForge.Auth.Repo

set_option autoImplicit false

namespace HelpForge.Auth

open Lib

def invalidToken : ServiceError := .api 401 "Invalid or expired token" "TOKEN_INVALID"

def revokedToken : ServiceError := .api 401 "Token has been revoked" "TOKEN_REVOKED"

def newAccessToken (config : AuthConfig) (world : World) (userId : Nat)
    (orgPermissions : List OrganizationScope) : Claims :=
  { sub := userId
    jti := world.db.nextId
    iat := world.now / 1000
    exp := world.now / 1000 + config.accessTokenExpiresIn
    orgPermissions }

def sign (accessToken : Claims) (world : World) : World :=
  { world with
    db := { world.db with nextId := world.db.nextId + 1 }
    signed := accessToken :: world.signed }

def generateAccessToken (config : AuthConfig) (userId : Nat)
    (orgPermissions : List OrganizationScope) : Call Claims :=
  Program.attempt fun world =>
    let accessToken := newAccessToken config world userId orgPermissions
    .ok (accessToken, sign accessToken world)

/-- `jwt.verify`: the secret has signed the token, and it has not expired. -/
def jwtVerifies (world : World) (accessToken : Claims) : Bool :=
  world.signed.contains accessToken && decide (world.now / 1000 < accessToken.exp)

def verifyAccessToken (accessToken : Claims) : Call Claims := do
  let verifies ← Program.reads fun world => jwtVerifies world accessToken
  Program.require verifies invalidToken
  Program.require (accessToken.type == "access")
    (.api 401 "Invalid token type" "TOKEN_TYPE_INVALID")
  pure accessToken

def sanitizeUser (user : AuthUser) : AuthUser := { user with password := none }

structure Tokens where
  accessToken : Claims
  refreshToken : Nat
  expiresIn : Nat
  deriving DecidableEq, Repr

structure Session extends Tokens where
  user : AuthUser
  deriving DecidableEq, Repr

def issueTokens (config : AuthConfig) (user : AuthUser) : Call Tokens := do
  let orgPermissions ← getUserPermissionSnapshot user.id
  let accessToken ← generateAccessToken config user.id orgPermissions
  let refreshExpiresAt ← Program.reads fun world => world.now + config.refreshTokenExpiresIn
  let refreshToken ← createRefreshToken user.id refreshExpiresAt
  pure
    { accessToken
      refreshToken := refreshToken.token
      expiresIn := config.accessTokenExpiresIn }

def invalidCredentials : ServiceError := .api 401 "Invalid credentials" "INVALID_CREDENTIALS"

section passwords

variable (hashPassword : String → String) (comparePassword : String → String → Bool)

def registerUser (config : AuthConfig) (userData : UserData) : Call Session := do
  let existingUser ← findUserByEmail userData.email
  Program.require existingUser.isNone (.api 409 "User already exists" "USER_EXISTS")
  let hashedPassword := hashPassword userData.password
  Program.require (hashedPassword != "") (.api 500 "Failed to hash password" "HASH_FAILED")
  let refreshExpiresAt ← Program.reads fun world => world.now + config.refreshTokenExpiresIn
  let (newUser, refreshToken) ←
    createUserWithRefreshToken { userData with password := hashedPassword } refreshExpiresAt
  let accessToken ← generateAccessToken config newUser.id []
  pure
    { user := sanitizeUser newUser
      accessToken
      refreshToken := refreshToken.token
      expiresIn := config.accessTokenExpiresIn }

def loginUser (config : AuthConfig) (email password : String) : Call Session := do
  let user ← findUserByEmail email
  let user ← Program.orFail user invalidCredentials
  let hashed ← Program.orFail (user.password.filter (· != "")) invalidCredentials
  Program.require (comparePassword password hashed) invalidCredentials
  let tokens ← issueTokens config user
  pure { tokens with user := sanitizeUser user }

end passwords

def refreshAccessToken (config : AuthConfig) (refreshToken : Nat) : Call Session := do
  let stored ← findRefreshToken refreshToken
  let stored ← Program.orFail stored
    (.api 401 "Invalid refresh token" "REFRESH_TOKEN_INVALID")
  let now ← Program.reads fun world => world.now
  if stored.expiresAt < now then
    let _ ← deleteRefreshToken refreshToken
    Program.fail (.api 401 "Refresh token expired" "REFRESH_TOKEN_EXPIRED")
  else
    let user ← findUserById stored.userId
    match user with
    | none =>
      let _ ← deleteRefreshToken refreshToken
      Program.fail (.api 401 "User not found" "USER_NOT_FOUND")
    | some user =>
      let _ ← deleteRefreshToken refreshToken
      let tokens ← issueTokens config user
      pure { tokens with user := sanitizeUser user }

def revokeAccessToken (accessToken : Claims) : Call Unit := do
  let decoded ← verifyAccessToken accessToken
  blacklistToken decoded.jti (decoded.exp * 1000)

def logoutUser (accessToken : Option Claims) (refreshToken : Option Nat) : Call Unit := do
  match accessToken with
  | none => pure ()
  -- whatever goes wrong in there, a refused insert included, is swallowed
  | some accessToken => (revokeAccessToken accessToken).recover fun _ => pure ()
  match refreshToken with
  | none => pure ()
  | some refreshToken =>
    (do let _ ← deleteRefreshToken refreshToken
        pure ()).recover fun failure =>
      if failure.code = some "P2025" then pure () else Program.fail failure

def logoutAllDevices (userId : Nat) : Call Unit := do
  let _ ← updateUserTokenIssuedAt userId
  deleteUserRefreshTokens userId

structure Authenticated where
  auth : Claims
  user : AuthUser
  deriving DecidableEq, Repr

/-- `user.tokenIssuedAt && decoded.iat < Math.floor(user.tokenIssuedAt.getTime() / 1000)`. -/
def checkIssuedAt (decoded : Claims) (user : AuthUser) : Call Unit :=
  match user.tokenIssuedAt with
  | none => pure ()
  | some (.date time) => Program.require (!decide (decoded.iat < time / 1000)) revokedToken
  -- text has no `getTime`
  | some (.isoText _) =>
    Program.fail (.javascript "TypeError" "user.tokenIssuedAt.getTime is not a function")

def authenticate (token : Option Claims) : Call Authenticated := do
  let token ← Program.orFail token
    (.api 401 "Authentication token is required" "TOKEN_MISSING")
  let decoded ← verifyAccessToken token
  let blacklisted ← isTokenBlacklisted decoded.jti
  Program.require (!blacklisted) revokedToken
  let user ← findUserById decoded.sub
  let user ← Program.orFail user
    (.api 401 "Invalid authentication token" "TOKEN_INVALID")
  checkIssuedAt decoded user
  pure { auth := decoded, user }

end HelpForge.Auth
