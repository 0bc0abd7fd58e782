import HelpForge.Auth.Rotation

set_option autoImplicit false

namespace HelpForge.Auth

open Lib
open Program (run_bind run_pure run_reads run_require)

inductive UserCall where
  | findUserByEmail (email : String)
  | createUser (userData : UserData)
  | createUserWithRefreshToken (userData : UserData) (expiresAt : Nat)
  | findUserById (id : Nat)
  | updateUserTokenIssuedAt (userId : Nat)
  | softDeleteUser (userId : Nat)
  deriving DecidableEq, Repr

def UserCall.program : UserCall → Call Unit
  | findUserByEmail email => do
    let _ ← Auth.findUserByEmail email
    pure ()
  | createUser userData => do
    let _ ← Auth.createUser userData
    pure ()
  | createUserWithRefreshToken userData expiresAt => do
    let _ ← Auth.createUserWithRefreshToken userData expiresAt
    pure ()
  | findUserById id => do
    let _ ← Auth.findUserById id
    pure ()
  | updateUserTokenIssuedAt userId => do
    let _ ← Auth.updateUserTokenIssuedAt userId
    pure ()
  | softDeleteUser userId => do
    let _ ← Auth.softDeleteUser userId
    pure ()

def Evicts (world reached : World) : Prop :=
  ∀ userId copy, reached.userCache userId = some copy → world.userCache userId = some copy

def userRepo : Pool.System (UserCall × Nat) World (Call Unit) :=
  Pool.ofPrograms (fun _ call program => program = call.1.program) Evicts

structure Serialized (userId : Nat) (copy : AuthUser) : Prop where
  id : copy.id = userId
  password : copy.password = none
  dates : userToJson copy = copy

def AllSerialized (world : World) : Prop :=
  ∀ userId copy, world.userCache userId = some copy → Serialized userId copy

@[simp] theorem dateToJson_idem (date : JsDate) : dateToJson (dateToJson date) = dateToJson date := by
  cases date <;> rfl

variable (user : AuthUser)

theorem userToJson_idem : userToJson (userToJson user) = userToJson user := by
  cases stamp : user.tokenIssuedAt <;> simp [userToJson, stamp]

theorem serialized_cacheUser : Serialized user.id (userToJson (stripPassword user)) where
  id := rfl
  password := rfl
  dates := userToJson_idem _

theorem allSerialized_of_evicts (world reached : World) (held : AllSerialized world)
    (evicts : Evicts world reached) : AllSerialized reached :=
  fun userId copy there => held userId copy (evicts userId copy there)

theorem cacheUser_maintains : (cacheUser user).Maintains AllSerialized := by
  refine Program.Maintains.modify fun world held userId copy there => ?_
  rcases World.putUser_userCache world _ copy userId there with before | ⟨rfl, rfl⟩
  · exact held userId copy before
  · exact serialized_cacheUser user

variable (userId : Nat)

theorem invalidateUser_maintains : (invalidateUser userId).Maintains AllSerialized := by
  refine Program.Maintains.modify fun world held other copy there => ?_
  simp only [World.dropUser] at there
  split_ifs at there
  · exact held other copy there
  · by_cases same : other = userId
    · subst same
      rw [Function.update_self] at there
      cases there
    · rw [Function.update_of_ne same] at there
      exact held other copy there

theorem invalidateUserPermissionSnapshot_maintains :
    (invalidateUserPermissionSnapshot userId).Maintains AllSerialized :=
  Program.Maintains.modify fun _ held => held

variable (userData : UserData)

theorem insertUser_maintains : (insertUser userData).Maintains AllSerialized := by
  refine Program.Maintains.attempt fun world user reached held outcome => ?_
  split_ifs at outcome
  cases outcome
  exact held

theorem insertUserWithRefreshToken_keeps (expiresAt : Nat) :
    Program.Keeps AllSerialized (insertUserWithRefreshToken userData expiresAt) := by
  refine Program.Keeps.bind ?_ fun user => Program.Keeps.bind ?_ fun row => Program.Keeps.pure _
  · refine Program.Keeps.attempt fun world user reached held outcome => ?_
    split_ifs at outcome
    cases outcome
    exact held
  · refine Program.Keeps.attempt fun world row reached held outcome => ?_
    split_ifs at outcome
    cases outcome
    exact held

theorem updateUser_maintains (change : User → User) :
    (updateUser userId change).Maintains AllSerialized := by
  refine Program.Maintains.attempt fun world user reached held outcome => ?_
  cases found : world.db.findUser userId <;> rw [found] at outcome <;> cases outcome
  exact held

theorem userCall_maintains (call : UserCall) : call.program.Maintains AllSerialized := by
  cases call with
  | findUserByEmail email =>
    refine (Program.Maintains.bind (Program.Maintains.reads _) fun user => ?_).bind
      fun _ => Program.Maintains.pure _
    split
    · exact Program.Maintains.pure _
    · exact (cacheUser_maintains _).bind fun _ => Program.Maintains.pure _
  | createUser userData =>
    exact ((insertUser_maintains userData).bind fun user =>
      (cacheUser_maintains user).bind fun _ => Program.Maintains.pure _).bind
        fun _ => Program.Maintains.pure _
  | createUserWithRefreshToken userData expiresAt =>
    exact ((Program.Maintains.transaction
      (insertUserWithRefreshToken_keeps userData expiresAt)).bind fun created =>
        (cacheUser_maintains created.1).bind fun _ => Program.Maintains.pure _).bind
          fun _ => Program.Maintains.pure _
  | findUserById id =>
    refine (Program.Maintains.bind (Program.Maintains.reads _) fun cached => ?_).bind
      fun _ => Program.Maintains.pure _
    cases cached with
    | some copy => exact Program.Maintains.pure _
    | none =>
      refine (Program.Maintains.reads _).bind fun user => ?_
      split
      · exact Program.Maintains.pure _
      · exact (cacheUser_maintains _).bind fun _ => Program.Maintains.pure _
  | updateUserTokenIssuedAt userId =>
    exact ((Program.Maintains.reads _).bind fun now =>
      (updateUser_maintains userId _).bind fun user =>
        (cacheUser_maintains user).bind fun _ =>
          (invalidateUserPermissionSnapshot_maintains userId).bind
            fun _ => Program.Maintains.pure _).bind fun _ => Program.Maintains.pure _
  | softDeleteUser userId =>
    exact ((Program.Maintains.reads _).bind fun now =>
      (updateUser_maintains userId _).bind fun user =>
        (invalidateUser_maintains userId).bind fun _ =>
          (invalidateUserPermissionSnapshot_maintains userId).bind
            fun _ => Program.Maintains.pure _).bind fun _ => Program.Maintains.pure _

theorem reachable_serialized (start : World) (empty : ∀ userId, start.userCache userId = none)
    (final : Pool (UserCall × Nat) World (Call Unit))
    (run : Pool.Run userRepo Pool.anyStatement (Pool.idle start) final) :
    AllSerialized final.state := by
  have initially : AllSerialized start := by
    intro userId copy there
    rw [empty userId] at there
    cases there
  have begins : ∀ seen call program, userRepo.begins seen call program →
      program.Maintains AllSerialized := by
    rintro seen call program rfl
    exact userCall_maintains call.1
  exact (Pool.Run.maintained allSerialized_of_evicts begins run
    ⟨initially, fun call program there => nomatch there⟩).1

def verdict (token : Claims) (world : World) : Except ServiceError Claims :=
  ((authenticate (some token)).run world).1.map Authenticated.auth

def blacklisted (world : World) (jti : Nat) : Bool :=
  (!world.failing .cache && world.blacklistCache jti) ||
    world.db.tokenBlacklist.any (·.jti == jti)

def storedUser (world : World) (id : Nat) : Option AuthUser :=
  ((world.db.findUser id).map userSelectPublic).filter fun user => !user.isDeleted

def foundUser (world : World) (id : Nat) : Option AuthUser :=
  (cachedUser world id).or (storedUser world id)

def screen (token : Claims) (world : World) : Except ServiceError Unit :=
  if !jwtVerifies world token then .error invalidToken
  else if token.type != "access" then .error (.api 401 "Invalid token type" "TOKEN_TYPE_INVALID")
  else if blacklisted world token.jti then .error revokedToken
  else .ok ()

def judge (token : Claims) : Option AuthUser → Except ServiceError Claims
  | none => .error (.api 401 "Invalid authentication token" "TOKEN_INVALID")
  | some user =>
    match user.tokenIssuedAt with
    | none => .ok token
    | some (.date time) => if token.iat < time / 1000 then .error revokedToken else .ok token
    | some (.isoText _) =>
      .error (.javascript "TypeError" "user.tokenIssuedAt.getTime is not a function")

theorem isTokenBlacklisted_run (jti : Nat) (world : World) :
    ∃ reached, (isTokenBlacklisted jti).run world = (.ok (blacklisted world jti), reached) ∧
      reached.db = world.db ∧ reached.failing = world.failing ∧
      reached.userCache = world.userCache := by
  unfold isTokenBlacklisted blacklisted
  rw [run_bind, run_reads]
  by_cases cached : (!world.failing .cache && world.blacklistCache jti) = true
  · refine ⟨world, ?_, rfl, rfl, rfl⟩
    simp only [cached, if_true, run_pure, Bool.true_or]
  · by_cases entry : world.db.tokenBlacklist.any (·.jti == jti) = true
    · refine ⟨world.putBlacklisted jti, ?_, rfl, rfl, rfl⟩
      simp only [cached, entry, run_bind, run_reads, if_true,
        Bool.false_eq_true, if_false, cacheBlacklisted, Program.run_modify, run_pure,
        Bool.or_true]
    · refine ⟨world, ?_, rfl, rfl, rfl⟩
      simp only [cached, entry, run_bind, run_reads, Bool.false_eq_true, if_false,
        run_pure, Bool.or_self]

theorem findUserById_run (id : Nat) (world : World) :
    ((findUserById id).run world).1 = .ok (foundUser world id) := by
  unfold findUserById foundUser storedUser
  rw [run_bind, run_reads]
  cases cached : cachedUser world id with
  | some copy => rfl
  | none =>
    simp only [Option.none_or]
    rw [run_bind, run_reads]
    dsimp only
    cases ((world.db.findUser id).map userSelectPublic).filter fun user => !user.isDeleted <;> rfl

variable (token : Claims)

theorem checkIssuedAt_run (user : AuthUser) (world : World) :
    ((checkIssuedAt token user).run world).1.map (fun _ => token) = judge token (some user) := by
  unfold checkIssuedAt judge
  dsimp only
  cases user.tokenIssuedAt with
  | none => rfl
  | some stamp =>
    cases stamp with
    | isoText time => rfl
    | date time =>
      dsimp only
      rw [run_require]
      by_cases revoked : token.iat < time / 1000 <;> simp [revoked, Except.map]

variable (world : World)

theorem verdict_eq :
    verdict token world =
      match screen token world with
      | .error failure => .error failure
      | .ok () => judge token (foundUser world token.sub) := by
  obtain ⟨reached, answered, db, failing, userCache⟩ := isTokenBlacklisted_run token.jti world
  have same : foundUser reached token.sub = foundUser world token.sub := by
    simp only [foundUser, cachedUser, storedUser, db, failing, userCache]
  unfold verdict authenticate verifyAccessToken screen
  simp only [run_bind, Program.run_orFail, run_reads, run_require]
  by_cases verifies : jwtVerifies world token = true
  case neg => simp [verifies, Except.map]
  by_cases typed : token.type = "access"
  case neg => simp [verifies, typed, Except.map]
  by_cases revoked : blacklisted world token.jti = true
  case pos => simp [verifies, typed, answered, revoked, Except.map]
  simp only [verifies, typed, beq_self_eq_true, if_true, run_pure, answered, revoked,
    Bool.not_false]
  have looked := findUserById_run token.sub reached
  rw [same] at looked
  rcases ran : (findUserById token.sub).run reached with ⟨result, after⟩
  rw [ran] at looked
  dsimp only at looked
  subst looked
  cases foundUser world token.sub with
  | none => rfl
  | some user =>
    have judged := checkIssuedAt_run token user after
    rcases checked : (checkIssuedAt token user).run after with ⟨failure | passed, later⟩ <;>
      rw [checked] at judged <;> simpa [checked, Except.map] using judged

def uncached (world : World) (userId : Nat) : World :=
  -- The state without the user's copy, where the database has to answer.
  { world with userCache := Function.update world.userCache userId none }

theorem foundUser_uncached (userId : Nat) :
    foundUser (uncached world userId) userId = storedUser world userId := by
  have missing : cachedUser (uncached world userId) userId = none := by
    simp [cachedUser, uncached]
  rw [foundUser, missing]
  rfl

def StoredLive (world : World) (token : Claims) : Prop :=
  -- The stored user is live and was not logged out everywhere after the token's second.
  ∃ user, world.db.findUser token.sub = some user ∧ user.isDeleted = false ∧
    ∀ time, user.tokenIssuedAt = some time → time / 1000 ≤ token.iat

/-- The token is refused before its user matters, or no copy of its user is used, or the
copy has no date and the stored user would be let through as well. -/
def HitHarmless (world : World) (token : Claims) : Prop :=
  (jwtVerifies world token = false ∨ token.type ≠ "access" ∨ blacklisted world token.jti = true) ∨
    ∀ copy, cachedUser world token.sub = some copy →
      copy.tokenIssuedAt = none ∧ StoredLive world token

theorem screen_ok :
    screen token world = .ok () ↔
      ¬ (jwtVerifies world token = false ∨ token.type ≠ "access" ∨
        blacklisted world token.jti = true) := by
  unfold screen
  by_cases verifies : jwtVerifies world token = true
  case neg => simp [verifies]
  by_cases typed : token.type = "access"
  case neg => simp [verifies, typed]
  cases blacklisted world token.jti <;> simp [verifies, typed]

theorem storedUser_eq (id : Nat) :
    storedUser world id =
      ((world.db.findUser id).filter fun user => !user.isDeleted).map userSelectPublic := by
  unfold storedUser
  cases world.db.findUser id with
  | none => rfl
  | some user => cases deleted : user.isDeleted <;>
      simp [Option.filter, deleted, userSelectPublic, stripPassword, userSelectWithPassword]

theorem judge_public (user : User) :
    judge token (some (userSelectPublic user)) =
      if ∀ time, user.tokenIssuedAt = some time → time / 1000 ≤ token.iat then .ok token
      else .error revokedToken := by
  cases stamp : user.tokenIssuedAt with
  | none => simp [judge, stamp]
  | some time =>
    by_cases late : token.iat < time / 1000
    · have early : ¬ time / 1000 ≤ token.iat := by omega
      simp [judge, stamp, late, early]
    · have early : time / 1000 ≤ token.iat := by omega
      simp [judge, stamp, late, early]

theorem judge_storedUser :
    (StoredLive world token ∧ judge token (storedUser world token.sub) = .ok token) ∨
      (¬ StoredLive world token ∧ ∃ message code,
        judge token (storedUser world token.sub) = .error (.api 401 message code)) := by
  rw [storedUser_eq]
  unfold StoredLive
  cases found : world.db.findUser token.sub with
  | none => exact .inr ⟨by simp, _, _, rfl⟩
  | some user =>
    cases deleted : user.isDeleted with
    | true => 
      have none : (some user).filter (fun user => !user.isDeleted) = none := by simp [deleted]
      rw [none]
      exact .inr ⟨by simp [deleted], _, _, rfl⟩
    | false =>
      simp only [Option.filter, deleted, Bool.not_false, if_true, Option.map_some, judge_public]
      by_cases early : ∀ time, user.tokenIssuedAt = some time → time / 1000 ≤ token.iat
      · exact .inl ⟨⟨user, rfl, deleted, early⟩, if_pos early⟩
      · refine .inr ⟨?_, _, _, if_neg early⟩
        rintro ⟨other, same, _, stamps⟩
        cases same
        exact early stamps

theorem judge_serialized (copy : AuthUser) (userId : Nat) (serialized : Serialized userId copy) :
    (copy.tokenIssuedAt = none ∧ judge token (some copy) = .ok token) ∨
      (copy.tokenIssuedAt ≠ none ∧ judge token (some copy) =
        .error (.javascript "TypeError" "user.tokenIssuedAt.getTime is not a function")) := by
  have dates := congrArg AuthUser.tokenIssuedAt serialized.dates
  cases stamp : copy.tokenIssuedAt with
  | none => exact .inl ⟨rfl, by simp [judge, stamp]⟩
  | some date =>
    cases date with
    | date time => simp [userToJson, stamp, dateToJson] at dates
    | isoText time => exact .inr ⟨by simp, by simp [judge, stamp]⟩

/-- In every state that the repo functions can leave behind, the middleware decides the
same on a hit as on a miss exactly if the hit is harmless: every user who has ever used
`logoutAllDevices` is locked out by the text in place of the date. -/
theorem user_cache_transparent_iff (start : World)
    (empty : ∀ userId, start.userCache userId = none)
    (final : Pool (UserCall × Nat) World (Call Unit))
    (run : Pool.Run userRepo Pool.anyStatement (Pool.idle start) final) (token : Claims) :
    verdict token final.state = verdict token (uncached final.state token.sub) ↔
      HitHarmless final.state token := by
  have serialized := reachable_serialized start empty final run
  have sameScreen : screen token (uncached final.state token.sub) = screen token final.state := rfl
  rw [verdict_eq, verdict_eq, sameScreen, foundUser_uncached]
  unfold HitHarmless
  cases screened : screen token final.state with
  | error failure =>
    have refused : ¬ screen token final.state = .ok () := by simp [screened]
    rw [screen_ok, not_not] at refused
    simp only [true_iff]
    exact .inl refused
  | ok _ =>
    have passed := (screen_ok token final.state).mp screened
    simp only [passed, false_or]
    unfold foundUser
    cases hit : cachedUser final.state token.sub with
    | none => simp
    | some copy =>
      have there : final.state.userCache token.sub = some copy := by
        simp only [cachedUser] at hit
        split_ifs at hit
        exact hit
      simp only [Option.some.injEq, forall_eq']
      rcases judge_serialized token copy token.sub (serialized _ _ there) with
        ⟨undated, accepts⟩ | ⟨dated, crashes⟩
      · rcases judge_storedUser token final.state with ⟨live, passes⟩ | ⟨gone, _, _, fails⟩
        · simp [accepts, passes, undated, live]
        · simp [accepts, fails, undated, gone]
      · rcases judge_storedUser token final.state with ⟨_, passes⟩ | ⟨_, _, _, fails⟩
        · simp [crashes, passes, dated]
        · simp [crashes, fails, dated]

def returningToken : Claims := { sub := 1, jti := 3, iat := 2, exp := 902 }

def returningWorld (now : Nat) : World :=
  { db :=
      { users := [{ id := 1, email := "ada@example.com", password := "secret" }]
        nextId := 10 }
    now
    signed := [returningToken] }

def afterCall (call : UserCall) (world : World) : Pool (UserCall × Nat) World (Call Unit) :=
  Pool.play Program.advance (fun call => call.1.program) (List.replicate 6 (.turn (call, 0)))
    (Pool.idle world)

theorem afterCall_run (call : UserCall) (world : World) :
    Pool.Run userRepo Pool.anyStatement (Pool.idle world) (afterCall call world) := by
  refine Pool.play_run (fun _ _ => rfl) _ ?_ _ (Pool.permits_any ..)
  intro change member
  simp at member

/-- Who has never used `logoutAllDevices` is let through on a hit as on a miss. -/
theorem plain_user_transparent :
    cachedUser (afterCall (.findUserById 1) (returningWorld 2500)).state 1 ≠ none ∧
      verdict returningToken (afterCall (.findUserById 1) (returningWorld 2500)).state =
        verdict returningToken
          (uncached (afterCall (.findUserById 1) (returningWorld 2500)).state 1) := by
  refine ⟨by decide, ?_⟩
  refine (user_cache_transparent_iff (returningWorld 2500) (fun _ => rfl) _
    (afterCall_run (.findUserById 1) _) returningToken).mpr (.inr ?_)
  rintro copy ⟨⟩
  exact ⟨rfl, _, rfl, rfl, nofun⟩

/-- `logoutAllDevices` 1.2 seconds after the epoch, and a token issued later: the miss lets
the user through, the hit does not. -/
theorem returning_user_locked_out :
    let final := afterCall (.updateUserTokenIssuedAt 1) (returningWorld 1200)
    let state := { final.state with now := 2500 }
    Pool.Run userRepo Pool.anyStatement (Pool.idle (returningWorld 1200))
        { final with state, past := final.seen } ∧
      verdict returningToken state =
        .error (.javascript "TypeError" "user.tokenIssuedAt.getTime is not a function") ∧
      verdict returningToken (uncached state 1) = .ok returningToken := by
  refine ⟨?_, rfl, rfl⟩
  exact (afterCall_run _ _).tail (.outside _ _ fun _ _ kept => kept)

end HelpForge.Auth
