import HelpForge.Auth.Lineage

set_option autoImplicit false

namespace HelpForge.Auth

open Lib
open Pool (play_run put_eq_some put_self)

variable (setup : AuthSetup) {phase : Phase}

namespace Phase

def issuesFor : Phase → Option Nat
  | scopeGet user => some user.id
  | scopeRead user => some user.id
  | scopePut user _ => some user.id
  | sign user _ => some user.id
  | date user _ => some user.id
  | create user _ _ => some user.id
  | _ => none

def captured : Phase → Prop
  | updateIssuedAt _ _ => True
  | updatedPut _ _ => True
  | scopeDrop _ => True
  | tokensDrop _ => True
  | _ => False

def updated : Phase → Prop
  | updatedPut _ _ => True
  | scopeDrop _ => True
  | tokensDrop _ => True
  | finished (.ok _) => True
  | _ => False

def announced : Phase → Prop
  | scopeDrop _ => True
  | tokensDrop _ => True
  | finished (.ok _) => True
  | _ => False

def revokes (userId capturedAt : Nat) : Phase → Prop
  | captureNow id => id = userId
  | updateIssuedAt id now => id = userId ∧ now = capturedAt
  | updatedPut id copy => id = userId ∧ copy.id = userId ∧ copy.tokenIssuedAt ≠ none
  | scopeDrop id => id = userId
  | tokensDrop id => id = userId
  | finished _ => True
  | _ => False

theorem copy_source (phase next : Phase) (world reached : World) (copy : AuthUser)
    (stepped : phase.advance setup world = some (next, reached)) (held : next.copy = some copy) :
    (∃ row ∈ world.db.users, copy.id = row.id ∧
      copy.tokenIssuedAt = row.tokenIssuedAt.map .date) ∨
      copy.id = world.db.nextId ∨
      ∃ now, phase = .updateIssuedAt copy.id now ∧ copy.tokenIssuedAt = some (.date now) := by
  -- A call comes by its copy of a user in one of three ways: from the stored row, from a
  -- registration or from `logoutAllDevices`.
  have byEmail : ∀ email user,
      live ((world.db.users.find? (·.email == email)).map userSelectWithPassword) = some user →
      ∃ row ∈ world.db.users, user.id = row.id ∧
        user.tokenIssuedAt = row.tokenIssuedAt.map .date := by
    intro email user found
    obtain ⟨known, _⟩ := Option.filter_eq_some_iff.mp found
    obtain ⟨row, there, rfl⟩ := Option.map_eq_some_iff.mp known
    exact ⟨row, List.mem_of_find?_eq_some there, rfl, rfl⟩
  cases phase with
  | registerFind userData =>
    simp only [advance] at stepped
    split at stepped
    next user found =>
      cases stepped
      cases held
      exact .inl (byEmail _ _ found)
    next => split_ifs at stepped <;> cases stepped <;> cases held
  | registerCreate userData expiresAt =>
    simp only [advance] at stepped
    split at stepped <;> cases stepped
    next user refreshToken ran =>
      obtain ⟨_, rfl, _, _⟩ := insertUserWithRefreshToken_ok _ _ _ _ _ _ ran
      cases held
      exact .inr (.inl rfl)
    next => cases held
  | loginFind email password =>
    simp only [advance] at stepped
    split at stepped <;> cases stepped
    next user found =>
      cases held
      exact .inl (byEmail _ _ found)
    next => cases held
  | loginCache user password =>
    simp only [advance] at stepped
    split_ifs at stepped <;> cases stepped <;> cases held
  | userGet purpose userId =>
    simp only [advance] at stepped
    split at stepped <;> cases stepped
    · cases purpose <;> cases held
    · cases held
  | userRead purpose userId =>
    simp only [advance] at stepped
    split at stepped <;> cases stepped
    next user found =>
      obtain ⟨row, member, _, rfl⟩ := live_findUser world userId user found
      cases held
      exact .inl ⟨row, member, rfl, rfl⟩
    next => cases purpose <;> cases held
  | userPut purpose user =>
    cases stepped
    cases purpose <;> cases held
  | dropExpired token =>
    simp only [advance, Option.some.injEq] at stepped
    rcases deleting_cases _ _ _ _ _ stepped with ⟨failure, rfl, rfl⟩ | ⟨rfl, _, rfl⟩ <;> cases held
  | dropOrphan token =>
    simp only [advance, Option.some.injEq] at stepped
    rcases deleting_cases _ _ _ _ _ stepped with ⟨failure, rfl, rfl⟩ | ⟨rfl, _, rfl⟩ <;> cases held
  | dropRotated token user =>
    simp only [advance, Option.some.injEq] at stepped
    rcases deleting_cases _ _ _ _ _ stepped with ⟨failure, rfl, rfl⟩ | ⟨rfl, _, rfl⟩ <;> cases held
  | logoutVerify accessToken refreshToken =>
    simp only [advance] at stepped
    split_ifs at stepped <;> cases stepped
    · cases held
    · cases refreshToken <;> cases held
  | blacklistInsert jti expiresAt refreshToken =>
    simp only [advance] at stepped
    split_ifs at stepped <;> cases stepped
    · cases refreshToken <;> cases held
    · cases refreshToken <;> cases held
    · cases held
  | blacklistPut jti refreshToken =>
    cases stepped
    cases refreshToken <;> cases held
  | logoutDrop refreshToken =>
    simp only [advance] at stepped
    split at stepped
    · split_ifs at stepped <;> cases stepped <;> cases held
    next following middle _ deleted =>
      cases stepped
      rcases deleting_cases _ _ _ _ _ deleted with ⟨failure, rfl, rfl⟩ | ⟨rfl, _, rfl⟩ <;> cases held
  | updateIssuedAt userId now =>
    simp only [advance] at stepped
    split at stepped <;> cases stepped
    next => cases held
    next user found =>
      cases held
      have same : user.id = userId := by simpa using List.find?_some found
      exact .inr (.inr ⟨now, by simp [issuedAt, same], rfl⟩)
  | _ =>
    simp only [advance] at stepped
    repeat' split at stepped
    all_goals
      cases stepped
      try cases held

theorem Effect.signed {setup : AuthSetup} {world reached : World}
    (effect : Effect setup phase world reached) :
    ∀ token ∈ reached.signed, token ∈ world.signed ∨ phase.signsFor = some token.sub := by
  intro token member
  cases effect with
  | sign _ _ userId scope signs =>
    rcases List.mem_cons.mp member with rfl | before
    · exact .inr signs
    · exact .inl before
  | _ => exact .inl member

end Phase

structure RowsRevoke (userId capturedAt : Nat) (world : World) : Prop where
  known : userId < world.db.nextId
  rows : ∀ row ∈ world.db.users, row.id = userId →
    ∃ time, row.tokenIssuedAt = some time ∧ capturedAt / 1000 ≤ time / 1000

/-- No copy of the user lacks `tokenIssuedAt`: none in the cache, and none that a call
is about to put there. -/
structure CopiesRevoke (userId : Nat) (pool : Pool (Request × Nat) World Phase) : Prop where
  cached : ∀ copy, pool.state.userCache userId = some copy → copy.tokenIssuedAt ≠ none
  held : ∀ call phase copy, pool.calls call = some phase → phase.copy = some copy →
    copy.id = userId → copy.tokenIssuedAt ≠ none

/-- Nothing slips in between the statements of one `logoutAllDevices` call: a condition
on the state in which a call takes its next statement. -/
structure Undisturbed (userId number capturedAt : Nat) (pool : Pool (Request × Nat) World Phase)
    (call : Request × Nat) (phase : Phase) : Prop where
  -- In the second of the capture no access token of the user has been signed before.
  capture : call = (.logoutAll userId, number) → phase = .captureNow userId →
    pool.state.now = capturedAt ∧
      ∀ token ∈ pool.state.signed, token.sub = userId → token.iat < capturedAt / 1000
  -- Between the capture and the end none is signed.
  signing : phase.signsFor = some userId → ∀ own,
    pool.calls (.logoutAll userId, number) = some own → ¬ own.captured
  -- The cache takes the new copy, unless it holds none from before any `logoutAllDevices`, and no
  -- other call holds one.
  announcing : call = (.logoutAll userId, number) → ∀ copy, phase = .updatedPut userId copy →
    (∀ cached, pool.state.userCache userId = some cached → pool.state.failing .cache = true →
      cached.tokenIssuedAt ≠ none) ∧
      ∀ other process held, pool.calls other = some process → process.copy = some held →
        held.id = userId → held.tokenIssuedAt ≠ none
  -- When the refresh tokens are deleted, no rotation of the user's stands between the deletion of
  -- its token and the creation of the next.
  deleting : call = (.logoutAll userId, number) → phase = .tokensDrop userId →
    ∀ refreshToken other process, pool.calls (.refresh refreshToken, other) = some process →
      process.issuesFor ≠ some userId
  -- No call with an earlier capture stores its instant later.
  updating : ∀ now, phase = .updateIssuedAt userId now → ∀ own,
    pool.calls (.logoutAll userId, number) = some own → own.updated →
    capturedAt / 1000 ≤ now / 1000

structure Revocation (userId number capturedAt : Nat)
    (pool : Pool (Request × Nat) World Phase) : Prop where
  lineage : Lineage pool
  position : ∀ own, pool.calls (.logoutAll userId, number) = some own →
    own.revokes userId capturedAt
  old : ∀ own, pool.calls (.logoutAll userId, number) = some own → own.captured →
    ∀ token ∈ pool.state.signed, token.sub = userId → token.iat < capturedAt / 1000
  rows : ∀ own, pool.calls (.logoutAll userId, number) = some own → own.updated →
    RowsRevoke userId capturedAt pool.state
  copies : ∀ own, pool.calls (.logoutAll userId, number) = some own → own.announced →
    CopiesRevoke userId pool

theorem announced_updated (phase : Phase) (announced : phase.announced) : phase.updated := by
  cases phase with
  | scopeDrop | tokensDrop => trivial
  | finished result =>
    cases result with
    | ok => trivial
    | error => exact announced.elim
  | _ => exact announced.elim

variable (userId : Nat) (number : Nat) (capturedAt : Nat)

theorem idle_revocation (world : World) (sane : WellFormed world) :
    Revocation userId number capturedAt (Pool.idle world) where
  lineage := idle_lineage world sane
  position := by rintro own ⟨⟩
  old := by rintro own ⟨⟩
  rows := by rintro own ⟨⟩
  copies := by rintro own ⟨⟩

theorem RowsRevoke.step {userId capturedAt : Nat} {setup : AuthSetup} {world reached : World}
    (revoke : RowsRevoke userId capturedAt world) (effect : Phase.Effect setup phase world reached)
    (updating : ∀ now, phase = .updateIssuedAt userId now → capturedAt / 1000 ≤ now / 1000) :
    RowsRevoke userId capturedAt reached := by
  -- Once the instant is stored, rows revoke until an earlier capture is stored.
  have known := revoke.known
  refine ⟨Nat.lt_of_lt_of_le known effect.tokens.1, ?_⟩
  intro row member same
  rcases effect.users row member with before | ⟨fresh, _⟩ | ⟨now, _, _, updates, _, stores⟩
  · exact revoke.rows row before same
  · omega
  · rw [same] at updates
    exact ⟨now, stores, updating now updates⟩

theorem copy_revokes (phase next : Phase) (world reached : World)
    (revoke : RowsRevoke userId capturedAt world)
    (stepped : phase.advance setup world = some (next, reached)) (copy : AuthUser)
    (held : next.copy = some copy) (same : copy.id = userId) : copy.tokenIssuedAt ≠ none := by
  have known := revoke.known
  rcases Phase.copy_source setup phase next world reached copy stepped held with
    ⟨row, member, identity, issued⟩ | fresh | ⟨now, _, issued⟩
  · obtain ⟨time, stores, _⟩ := revoke.rows row member (by rw [← identity, same])
    simp [issued, stores]
  · omega
  · simp [issued]

theorem CopiesRevoke.step {userId capturedAt : Nat} (setup : AuthSetup)
    (pool : Pool (Request × Nat) World Phase) (call : Request × Nat) (phase next : Phase)
    (state : World) (copies : CopiesRevoke userId pool)
    (revoke : RowsRevoke userId capturedAt pool.state) (running : pool.calls call = some phase)
    (advanced : phase.advance setup pool.state = some (next, state)) :
    CopiesRevoke userId { state, past := pool.seen, calls := pool.put call next } := by
  constructor
  case cached =>
    intro copy there
    have effect := Phase.advance_effect setup phase next pool.state state advanced
    rcases effect.userCache userId copy there with before | ⟨user, held, same, rfl⟩
    · exact copies.cached copy before
    · have issued := copies.held call phase user running held same
      simpa [userToJson, stripPassword] using issued
  case held =>
    intro other found copy there held same
    rcases (put_eq_some ..).mp there with ⟨_, rfl⟩ | ⟨_, before⟩
    · exact copy_revokes setup userId capturedAt phase found pool.state state revoke advanced copy
        held same
    · exact copies.held other found copy before held same

theorem CopiesRevoke.announce {userId : Nat} (pool : Pool (Request × Nat) World Phase)
    (call : Request × Nat) (copy : AuthUser) (next : Phase) (nothing : next.copy = none)
    (identity : copy.id = userId) (issued : copy.tokenIssuedAt ≠ none)
    (works : ∀ cached, pool.state.userCache userId = some cached →
      pool.state.failing .cache = true → cached.tokenIssuedAt ≠ none)
    (others : ∀ other process held, pool.calls other = some process → process.copy = some held →
      held.id = userId → held.tokenIssuedAt ≠ none) :
    CopiesRevoke userId
      { state := pool.state.putUser (userToJson (stripPassword copy))
        past := pool.seen
        calls := pool.put call next } := by
  -- The call puts its copy into the cache, with no older copy left or on its way.
  constructor
  case cached =>
    intro found there
    cases failing : pool.state.failing .cache with
    | true =>
      simp only [World.putUser, failing, if_true] at there
      exact works found there failing
    | false =>
      have self := World.putUser_self pool.state (userToJson (stripPassword copy)) failing
      have same : (userToJson (stripPassword copy)).id = userId := identity
      rw [same] at self
      rw [self, Option.some.injEq] at there
      subst there
      simpa [userToJson, stripPassword] using issued
  case held =>
    intro other process held there carries same
    rcases (put_eq_some ..).mp there with ⟨_, rfl⟩ | ⟨_, before⟩
    · rw [nothing] at carries
      cases carries
    · exact others other process held before carries same

structure OwnStep (userId capturedAt : Nat) (next : Phase)
    (reached : Pool (Request × Nat) World Phase) : Prop where
  position : next.revokes userId capturedAt
  old : next.captured →
    ∀ token ∈ reached.state.signed, token.sub = userId → token.iat < capturedAt / 1000
  rows : next.updated → RowsRevoke userId capturedAt reached.state
  copies : next.announced → CopiesRevoke userId reached

variable (pool : Pool (Request × Nat) World Phase)

theorem own_step (phase next : Phase) (state : World)
    (held : Revocation userId number capturedAt pool)
    (running : pool.calls (.logoutAll userId, number) = some phase)
    (permitted : Undisturbed userId number capturedAt pool (.logoutAll userId, number) phase)
    (advanced : phase.advance setup pool.state = some (next, state)) :
    OwnStep userId capturedAt next
      { state, past := pool.seen, calls := pool.put (.logoutAll userId, number) next } := by
  have position := held.position phase running
  have old := held.old phase running
  have rows := held.rows phase running
  have copies := held.copies phase running
  cases phase with
  | captureNow id =>
    have same : id = userId := position
    subst same
    cases advanced
    obtain ⟨now, earlier⟩ := permitted.capture rfl rfl
    exact ⟨⟨rfl, now⟩, fun _ => earlier, False.elim, False.elim⟩
  | updateIssuedAt id now =>
    obtain ⟨rfl, rfl⟩ := position
    simp only [Phase.advance] at advanced
    split at advanced <;> cases advanced
    · exact ⟨trivial, False.elim, False.elim, False.elim⟩
    next user found =>
      have identity : user.id = id := by simpa using List.find?_some found
      refine ⟨⟨rfl, identity, ?_⟩, fun _ => old trivial, fun _ => ⟨?_, ?_⟩, False.elim⟩
      · simp [issuedAt]
      · exact identity ▸ held.lineage.sane.users user (List.mem_of_find?_eq_some found)
      · intro row member same
        rcases mem_changeWhere.mp member with ⟨_, missed⟩ | ⟨_, _, _, rfl⟩
        · rw [beq_eq_false_iff_ne] at missed
          exact (missed same).elim
        · exact ⟨now, rfl, Nat.le_refl _⟩
  | updatedPut id copy =>
    obtain ⟨rfl, identity, issued⟩ := position
    cases advanced
    obtain ⟨works, others⟩ := permitted.announcing rfl copy rfl
    have revoke := rows trivial
    exact ⟨rfl, fun _ => old trivial, fun _ => ⟨revoke.known, revoke.rows⟩, fun _ =>
      CopiesRevoke.announce pool _ copy _ rfl identity issued works others⟩
  | scopeDrop id =>
    have same : id = userId := position
    subst same
    cases advanced
    have revoke := rows trivial
    exact ⟨rfl, fun _ => old trivial, fun _ => ⟨revoke.known, revoke.rows⟩, fun _ =>
      CopiesRevoke.step setup pool _ _ _ _ (copies trivial) revoke running rfl⟩
  | tokensDrop id =>
    have same : id = userId := position
    subst same
    have revoke := rows trivial
    have effect := Phase.advance_effect setup _ next pool.state state advanced
    have revoke' := revoke.step effect (by rintro now ⟨⟩)
    have copies' :=
      CopiesRevoke.step setup pool _ _ next state (copies trivial) revoke running advanced
    simp only [Phase.advance] at advanced
    split_ifs at advanced <;> cases advanced
    · exact ⟨trivial, False.elim, False.elim, False.elim⟩
    · exact ⟨trivial, False.elim, fun _ => revoke', fun _ => copies'⟩
  | finished result => cases advanced
  | _ => exact position.elim

theorem ofRequest_copy (request : Request) : (Phase.ofRequest request).copy = none := by
  cases request with
  | logout accessToken refreshToken => cases accessToken <;> cases refreshToken <;> rfl
  | authenticate token => cases token <;> rfl
  | _ => rfl

theorem revocation_step (reached : Pool (Request × Nat) World Phase)
    (held : Revocation userId number capturedAt pool)
    (stepped : Pool.Step (machine setup Outside) (Undisturbed userId number capturedAt)
      pool reached) : Revocation userId number capturedAt reached := by
  have lineage := lineage_step setup _ pool reached held.lineage stepped
  cases stepped with
  | start call phase unused begun =>
    have begins : phase = Phase.ofRequest call.1 := begun
    subst begins
    constructor
    case lineage => exact lineage
    case position =>
      intro own there
      rcases (put_eq_some ..).mp there with ⟨rfl, rfl⟩ | ⟨_, there⟩
      · exact rfl
      · exact held.position own there
    case old =>
      intro own there captured
      rcases (put_eq_some ..).mp there with ⟨rfl, rfl⟩ | ⟨_, there⟩
      · exact captured.elim
      · exact held.old own there captured
    case rows =>
      intro own there updated
      rcases (put_eq_some ..).mp there with ⟨rfl, rfl⟩ | ⟨_, there⟩
      · exact updated.elim
      · exact held.rows own there updated
    case copies =>
      intro own there announced
      rcases (put_eq_some ..).mp there with ⟨rfl, rfl⟩ | ⟨_, there⟩
      · exact announced.elim
      · have copies := held.copies own there announced
        refine ⟨copies.cached, ?_⟩
        intro other phase copy started carries
        rcases (put_eq_some ..).mp started with ⟨_, rfl⟩ | ⟨_, before⟩
        · rw [ofRequest_copy] at carries
          cases carries
        · exact copies.held other phase copy before carries
  | statement call phase next state running permitted advanced =>
    by_cases mine : call = (.logoutAll userId, number)
    · subst mine
      have own := own_step setup userId number capturedAt pool phase next state held running
        permitted advanced
      have now : ∀ found, pool.put (.logoutAll userId, number) next (.logoutAll userId, number) =
          some found → found = next := by
        intro found there
        rw [put_self, Option.some.injEq] at there
        exact there.symm
      constructor
      case lineage => exact lineage
      case position =>
        intro found there
        exact now found there ▸ own.position
      case old =>
        intro found there
        exact now found there ▸ own.old
      case rows =>
        intro found there
        exact now found there ▸ own.rows
      case copies =>
        intro found there
        exact now found there ▸ own.copies
    · have effect := Phase.advance_effect setup phase next pool.state state advanced
      have before : ∀ found, pool.put call next (.logoutAll userId, number) = some found →
          pool.calls (.logoutAll userId, number) = some found := by
        intro found there
        rcases (put_eq_some ..).mp there with ⟨same, _⟩ | ⟨_, there⟩
        · exact (mine same.symm).elim
        · exact there
      constructor
      case lineage => exact lineage
      case position =>
        intro own there
        exact held.position own (before own there)
      case old =>
        intro own there captured token member same
        rcases effect.signed token member with signed | signs
        · exact held.old own (before own there) captured token signed same
        · rw [same] at signs
          exact (permitted.signing signs own (before own there) captured).elim
      case rows =>
        intro own there updated
        exact (held.rows own (before own there) updated).step effect
          fun now updates => permitted.updating now updates own (before own there) updated
      case copies =>
        intro own there announced
        exact CopiesRevoke.step setup pool call phase next state
          (held.copies own (before own there) announced)
          (held.rows own (before own there) (announced_updated own announced)) running advanced
  | outside state moved =>
    constructor
    case lineage => exact lineage
    case position => exact held.position
    case old =>
      intro own there captured token member
      rw [moved.signed] at member
      exact held.old own there captured token member
    case rows =>
      intro own there updated
      have revoke := held.rows own there updated
      refine ⟨Nat.lt_of_lt_of_le revoke.known moved.nextId, ?_⟩
      rw [moved.users]
      exact revoke.rows
    case copies =>
      intro own there announced
      have copies := held.copies own there announced
      refine ⟨?_, copies.held⟩
      intro copy cached
      exact copies.cached copy (moved.userCache userId copy cached)

def Phase.refusing (accessToken : Claims) (capturedAt : Nat) : Phase → Prop
  | verify token => token = accessToken
  | blacklistGet token _ => token = accessToken
  | blacklistRead token _ => token = accessToken
  | blacklistFill token => token = accessToken
  | userGet (.authenticate token) userId => token = accessToken ∧ userId = accessToken.sub
  | userRead (.authenticate token) userId => token = accessToken ∧ userId = accessToken.sub
  | userPut (.authenticate token) user => token = accessToken ∧
      ∃ time, user.tokenIssuedAt = some (.date time) ∧ capturedAt / 1000 ≤ time / 1000
  | finished (.error _) => True
  | _ => False

variable (accessToken : Claims)

theorem admitted_error (user : AuthUser) (date : JsDate) (issued : user.tokenIssuedAt = some date)
    (revokes : ∀ time, date = .date time → accessToken.iat < time / 1000) :
    ∃ failure, Phase.admitted accessToken user = .error failure := by
  cases date with
  | isoText time => exact ⟨_, by simp [Phase.admitted, checkIssuedAt, issued]; rfl⟩
  | date time =>
    have earlier := revokes time rfl
    exact ⟨revokedToken, by
      simp [Phase.admitted, checkIssuedAt, issued, Program.require, earlier]; rfl⟩

theorem refusing_step (capturedAt : Nat) (phase next : Phase) (world reached : World)
    (sane : WellFormed world) (revoke : RowsRevoke accessToken.sub capturedAt world)
    (cached : ∀ copy, world.userCache accessToken.sub = some copy → copy.tokenIssuedAt ≠ none)
    (earlier : accessToken.iat < capturedAt / 1000) (before : phase.refusing accessToken capturedAt)
    (stepped : phase.advance setup world = some (next, reached)) :
    next.refusing accessToken capturedAt := by
  -- A revoked token is refused, whether the user comes from the cache, where text has no
  -- `getTime`, or from the row.
  cases phase with
  | verify token =>
    simp only [Phase.advance] at stepped
    split_ifs at stepped <;> cases stepped
    · exact before
    · trivial
    · trivial
  | blacklistGet token verifiedAt =>
    simp only [Phase.advance] at stepped
    split_ifs at stepped <;> cases stepped
    · trivial
    · exact before
  | blacklistRead token verifiedAt =>
    have same : token = accessToken := before
    subst same
    simp only [Phase.advance] at stepped
    split_ifs at stepped <;> cases stepped
    · rfl
    · exact ⟨rfl, rfl⟩
  | blacklistFill token =>
    cases stepped
    trivial
  | userGet purpose userId =>
    cases purpose with
    | rotate => exact before.elim
    | authenticate token =>
      obtain ⟨rfl, rfl⟩ := before
      simp only [Phase.advance] at stepped
      split at stepped <;> cases stepped
      next user found =>
        have there : world.userCache token.sub = some user := by
          unfold cachedUser at found
          split_ifs at found
          exact found
        obtain ⟨date, issued⟩ := Option.ne_none_iff_exists'.mp (cached user there)
        obtain ⟨time, rfl⟩ := (sane.cached token.sub user there).2 date issued
        obtain ⟨failure, refused⟩ := admitted_error token user _ issued (by rintro time ⟨⟩)
        rw [Phase.found, refused]
        trivial
      next => exact ⟨rfl, rfl⟩
  | userRead purpose userId =>
    cases purpose with
    | rotate => exact before.elim
    | authenticate token =>
      obtain ⟨rfl, rfl⟩ := before
      simp only [Phase.advance] at stepped
      split at stepped <;> cases stepped
      next user found =>
        obtain ⟨row, member, same, rfl⟩ := Phase.live_findUser world token.sub user found
        obtain ⟨time, stores, later⟩ := revoke.rows row member same
        exact ⟨rfl, time, by simp [stores], later⟩
      next => trivial
  | userPut purpose user =>
    cases purpose with
    | rotate => exact before.elim
    | authenticate token =>
      obtain ⟨rfl, time, issued, later⟩ := before
      cases stepped
      obtain ⟨failure, refused⟩ := admitted_error token user _ issued (by
        rintro time' ⟨⟩
        omega)
      rw [Phase.found, refused]
      trivial
  | finished result => cases stepped
  | _ => exact before.elim

theorem spent_cases (phase : Phase) (spent : phase.spent) :
    (∃ outcome, phase = .finished (.ok outcome)) ∨
      ∃ userId, phase.actsFor = some userId ∧ phase.issuesFor = some userId := by
  cases phase with
  | finished result =>
    cases result with
    | ok outcome => exact .inl ⟨outcome, rfl⟩
    | error => exact spent.elim
  | scopeGet | scopeRead | scopePut | sign | date | create => exact .inr ⟨_, rfl, rfl⟩
  | _ => exact spent.elim

/-- What holds from the moment `ended` on, in which the call completed. -/
structure Revoked (userId number capturedAt : Nat) (ended pool : Pool (Request × Nat) World Phase) :
    Prop where
  revocation : Revocation userId number capturedAt pool
  completed : pool.calls (.logoutAll userId, number) = some (.finished (.ok .done))
  earlier : ∀ token ∈ ended.state.signed, token.sub = userId → token.iat < capturedAt / 1000
  refused : ∀ token ∈ ended.state.signed, token.sub = userId → ∀ other phase,
    ended.calls (.authenticate (some token), other) = none →
    pool.calls (.authenticate (some token), other) = some phase → phase.refusing token capturedAt
  gone : ∀ refreshToken, OwnedBy ended.seen refreshToken userId →
    refreshToken < pool.state.db.nextId ∧ ¬ stored pool.state.db refreshToken
  exchanged : ∀ refreshToken, OwnedBy ended.seen refreshToken userId → ∀ other phase,
    pool.calls (.refresh refreshToken, other) = some phase → phase.spent →
    (∃ outcome, phase = .finished (.ok outcome)) ∧
      ended.calls (.refresh refreshToken, other) = some phase

theorem ended_revoked (before ended : Pool (Request × Nat) World Phase)
    (held : Revocation userId number capturedAt before)
    (last : before.calls (.logoutAll userId, number) = some (.tokensDrop userId))
    (stepped : Pool.Step (machine setup Outside) (Undisturbed userId number capturedAt)
      before ended)
    (completed : ended.calls (.logoutAll userId, number) = some (.finished (.ok .done))) :
    Revoked userId number capturedAt ended ended := by
  have revocation := revocation_step setup userId number capturedAt before ended held stepped
  cases stepped with
  | start call phase unused begun =>
    rcases (put_eq_some ..).mp completed with ⟨rfl, _⟩ | ⟨_, there⟩
    · rw [unused] at last
      cases last
    · rw [there] at last
      cases last
  | outside state moved =>
    rw [completed] at last
    cases last
  | statement call phase next state running permitted advanced =>
    by_cases mine : call = (.logoutAll userId, number)
    · subst mine
      rw [running, Option.some.injEq] at last
      subst last
      have done : state = before.state.withDb (dropUserRefreshTokens userId) := by
        simp only [put_self, Option.some.injEq] at completed
        subst completed
        have dropped : (Phase.tokensDrop userId).advance setup before.state =
          some (.finished (.ok .done), state) := advanced
        simp only [Phase.advance] at dropped
        split_ifs at dropped <;> cases dropped
        rfl
      subst done
      have owner := revocation.lineage.owner
      constructor
      case revocation => exact revocation
      case completed => exact completed
      case earlier => exact held.old _ running trivial
      case refused =>
        intro token member same other phase unused there
        rw [there] at unused
        cases unused
      case gone =>
        intro refreshToken owned
        refine ⟨revocation.lineage.generated refreshToken userId owned, ?_⟩
        rintro ⟨row, member, rfl⟩
        have same := owner row.token row.userId userId (ownedBy_now _ row member) owned
        simp [World.withDb, dropUserRefreshTokens, same] at member
      case exchanged =>
        intro refreshToken owned other process there spent
        refine ⟨?_, there⟩
        rcases spent_cases process spent with done | ⟨id, acts, issues⟩
        · exact done
        · have owned' := revocation.lineage.acts refreshToken other process id there acts
          have same := owner refreshToken id userId owned' owned
          have put : before.put (.logoutAll userId, number) next (.refresh refreshToken, other) =
            some process := there
          rcases (put_eq_some ..).mp put with ⟨clash, _⟩ | ⟨_, running'⟩
          · cases clash
          · exact (permitted.deleting rfl rfl refreshToken other process running'
              (same ▸ issues)).elim
    · rcases (put_eq_some ..).mp completed with ⟨same, _⟩ | ⟨_, there⟩
      · exact (mine same.symm).elim
      · rw [there] at last
        cases last

theorem revoked_step (ended pool reached : Pool (Request × Nat) World Phase)
    (held : Revoked userId number capturedAt ended pool)
    (stepped : Pool.Step (machine setup Outside) (Undisturbed userId number capturedAt)
      pool reached) : Revoked userId number capturedAt ended reached := by
  have revocation := revocation_step setup userId number capturedAt pool reached held.revocation
    stepped
  cases stepped with
  | start call phase unused begun =>
    have begins : phase = Phase.ofRequest call.1 := begun
    subst begins
    constructor
    case revocation => exact revocation
    case completed =>
      refine (put_eq_some ..).mpr (.inr ⟨?_, held.completed⟩)
      rintro rfl
      rw [held.completed] at unused
      cases unused
    case earlier => exact held.earlier
    case refused =>
      intro token member same other phase unused' there
      rcases (put_eq_some ..).mp there with ⟨rfl, rfl⟩ | ⟨_, there⟩
      · exact rfl
      · exact held.refused token member same other phase unused' there
    case gone => exact held.gone
    case exchanged =>
      intro refreshToken owned other process there spent
      rcases (put_eq_some ..).mp there with ⟨rfl, rfl⟩ | ⟨_, there⟩
      · exact spent.elim
      · exact held.exchanged refreshToken owned other process there spent
  | statement call phase next state running permitted advanced =>
    have effect := Phase.advance_effect setup phase next pool.state state advanced
    obtain ⟨grows, tokens⟩ := effect.tokens
    have rows := held.revocation.rows _ held.completed trivial
    have copies := held.revocation.copies _ held.completed trivial
    constructor
    case revocation => exact revocation
    case completed =>
      refine (put_eq_some ..).mpr (.inr ⟨?_, held.completed⟩)
      rintro rfl
      rw [held.completed, Option.some.injEq] at running
      subst running
      cases advanced
    case earlier => exact held.earlier
    case refused =>
      intro token member same other found unused there
      rcases (put_eq_some ..).mp there with ⟨rfl, rfl⟩ | ⟨_, there⟩
      · subst same
        exact refusing_step setup token capturedAt phase found pool.state state
          held.revocation.lineage.sane rows copies.cached (held.earlier token member rfl)
          (held.refused token member rfl other phase unused running) advanced
      · exact held.refused token member same other found unused there
    case gone =>
      intro refreshToken owned
      obtain ⟨generated, gone⟩ := held.gone refreshToken owned
      exact ⟨Nat.lt_of_lt_of_le generated grows, stays_gone _ _ _ generated gone
        fun row member => (tokens row member).imp id fun new => new.1⟩
    case exchanged =>
      intro refreshToken owned other process there spent
      rcases (put_eq_some ..).mp there with ⟨rfl, rfl⟩ | ⟨_, there⟩
      · rcases held.revocation.lineage.rotations.position refreshToken other phase running with
          unspent | spentBefore
        · rcases Phase.unspent_step setup _ _ _ _ _ unspent advanced with still | ⟨_, present, _⟩
          · exact (Phase.unspent_not_spent refreshToken process still spent).elim
          · exact ((held.gone refreshToken owned).2 present).elim
        · obtain ⟨⟨outcome, rfl⟩, _⟩ :=
            held.exchanged refreshToken owned other phase running spentBefore
          cases advanced
      · exact held.exchanged refreshToken owned other process there spent
  | outside state moved =>
    constructor
    case revocation => exact revocation
    case completed => exact held.completed
    case earlier => exact held.earlier
    case refused => exact held.refused
    case gone =>
      intro refreshToken owned
      obtain ⟨generated, gone⟩ := held.gone refreshToken owned
      exact ⟨Nat.lt_of_lt_of_le generated moved.nextId, stays_gone _ _ _ generated gone
        fun row member => .inl (moved.refreshTokens ▸ member)⟩
    case exchanged => exact held.exchanged

/-- If nothing slips in between its statements, `logoutAllDevices` revokes every session
that is older than its completion: the access tokens signed until then are refused, and
no refresh token that descends from one stored until then is exchanged any more. -/
theorem logoutAll_revokes (setup : AuthSetup) (userId number capturedAt : Nat) (start : World)
    (sane : WellFormed start) (before ended final : Pool (Request × Nat) World Phase)
    (run : Pool.Run (machine setup Outside) (Undisturbed userId number capturedAt)
      (Pool.idle start) before)
    (last : before.calls (.logoutAll userId, number) = some (.tokensDrop userId))
    (completes : Pool.Step (machine setup Outside) (Undisturbed userId number capturedAt)
      before ended)
    (completed : ended.calls (.logoutAll userId, number) = some (.finished (.ok .done)))
    (later : Pool.Run (machine setup Outside) (Undisturbed userId number capturedAt)
      ended final) :
    (∀ token ∈ ended.state.signed, token.sub = userId → ∀ other outcome,
      ended.calls (.authenticate (some token), other) = none →
      final.calls (.authenticate (some token), other) ≠ some (.finished (.ok outcome))) ∧
    (∀ root refreshToken, OwnedBy ended.seen root userId →
      Descends (final.map (Phase.program setup)) root refreshToken → ∀ other outcome,
      final.calls (.refresh refreshToken, other) = some (.finished (.ok outcome)) →
      ended.calls (.refresh refreshToken, other) = some (.finished (.ok outcome))) := by
  have held := run.invariant (revocation_step setup userId number capturedAt)
    (idle_revocation userId number capturedAt start sane)
  have atEnd := ended_revoked setup userId number capturedAt before ended held last completes
    completed
  have revoked := later.invariant (revoked_step setup userId number capturedAt ended) atEnd
  refine ⟨?_, ?_⟩
  · intro token member same other outcome unused there
    exact revoked.refused token member same other _ unused there
  -- the descendants of the user's tokens are the user's, and were stored before the end
  · have owned : ∀ root refreshToken, OwnedBy ended.seen root userId →
        Descends (final.map (Phase.program setup)) root refreshToken →
        OwnedBy ended.seen refreshToken userId := by
      intro root refreshToken owned descends
      induction descends with
      | refl => exact owned
      | @tail middle next _ successor ih =>
        obtain ⟨other, session, there, rfl⟩ := successor
        have done := finished_of_map setup final _ _ there
        obtain ⟨_, there'⟩ := revoked.exchanged middle ih other _ done trivial
        obtain ⟨id, mine, child⟩ :=
          atEnd.revocation.lineage.issues middle other session there'
        rwa [atEnd.revocation.lineage.owner middle id userId mine ih] at child
    intro root refreshToken rooted descends other outcome there
    exact (revoked.exchanged refreshToken (owned root refreshToken rooted descends) other _ there
      trivial).2

/-- The call runs alone, given a working cache and tokens from before its capture. -/
structure Alone (userId number capturedAt : Nat) (pool : Pool (Request × Nat) World Phase)
    (phase : Phase) : Prop where
  running : pool.calls (.logoutAll userId, number) = some phase
  only : ∀ call process, pool.calls call = some process →
    call = (.logoutAll userId, number) ∧ process = phase
  position : phase.revokes userId capturedAt
  works : pool.state.failing .cache = false
  now : pool.state.now = capturedAt
  old : ∀ token ∈ pool.state.signed, token.sub = userId → token.iat < capturedAt / 1000

theorem Alone.undisturbed {userId number capturedAt : Nat} {pool : Pool (Request × Nat) World Phase}
    (alone : Alone userId number capturedAt pool phase) :
    Undisturbed userId number capturedAt pool (.logoutAll userId, number) phase where
  capture := fun _ _ => ⟨alone.now, alone.old⟩
  signing := by
    intro signs
    have position := alone.position
    cases phase with
    | registerSign | sign => exact position.elim
    | _ => cases signs
  announcing := by
    rintro _ copy rfl
    refine ⟨fun cached _ failing => ?_, ?_⟩
    · rw [alone.works] at failing
      cases failing
    intro other process held there carries _
    obtain ⟨_, rfl⟩ := alone.only other process there
    cases carries
    exact alone.position.2.2
  deleting := by
    intro _ _ refreshToken other process there
    cases (alone.only _ process there).1
  updating := by
    rintro now rfl own there updated
    obtain ⟨_, rfl⟩ := alone.only _ own there
    exact updated.elim

theorem Alone.step {userId number capturedAt : Nat} {pool : Pool (Request × Nat) World Phase}
    (alone : Alone userId number capturedAt pool phase) (setup : AuthSetup) (next : Phase)
    (state : World) (advanced : phase.advance setup pool.state = some (next, state))
    (position : next.revokes userId capturedAt) (failing : state.failing = pool.state.failing)
    (now : state.now = pool.state.now) (signed : state.signed = pool.state.signed) :
    ∃ reached, Pool.Step (machine setup Outside) (Undisturbed userId number capturedAt)
      pool reached ∧ reached.state = state ∧ Alone userId number capturedAt reached next := by
  refine ⟨_, .statement pool _ phase next state alone.running alone.undisturbed advanced, rfl, ?_⟩
  refine ⟨put_self .., ?_, position, ?_, ?_, ?_⟩
  · intro call process there
    rcases (put_eq_some ..).mp there with ⟨rfl, rfl⟩ | ⟨other, there⟩
    · exact ⟨rfl, rfl⟩
    · exact (other (alone.only call process there).1).elim
  · rw [failing]
    exact alone.works
  · rw [now]
    exact alone.now
  · rw [signed]
    exact alone.old

variable (world : World)

theorem alone_begins (works : world.failing .cache = false)
    (old : ∀ token ∈ world.signed, token.sub = userId → token.iat < world.now / 1000) :
    ∃ reached, Pool.Step (machine setup Outside) (Undisturbed userId number world.now)
      (Pool.idle world) reached ∧ reached.state = world ∧
      Alone userId number world.now reached (.captureNow userId) := by
  have begins : (machine setup Outside).begins [world] (.logoutAll userId, number)
      (.captureNow userId) := rfl
  refine ⟨_, .start _ _ _ rfl begins, rfl, put_self .., ?_, rfl, works, rfl, old⟩
  intro call process there
  rcases (put_eq_some ..).mp there with ⟨rfl, rfl⟩ | ⟨_, there⟩
  · exact ⟨rfl, rfl⟩
  · cases there

def loggedOutAll (userId : Nat) (user : User) (world : World) : World :=
  let stored := world.withDb (changeUser userId (issuedAt world.now) world.now)
  let copy := userSelectPublic { issuedAt world.now user with updatedAt := world.now }
  ((stored.putUser (userToJson (stripPassword copy))).dropAccessScope userId).withDb
    (dropUserRefreshTokens userId)

theorem alone_completes (user : User) (known : world.db.findUser userId = some user)
    (works : world.failing .cache = false) (accepts : world.failing .refreshToken = false)
    (old : ∀ token ∈ world.signed, token.sub = userId → token.iat < world.now / 1000) :
    ∃ before ended,
      Pool.Run (machine setup Outside) (Undisturbed userId number world.now)
        (Pool.idle world) before ∧
      before.calls (.logoutAll userId, number) = some (.tokensDrop userId) ∧
      Pool.Step (machine setup Outside) (Undisturbed userId number world.now) before ended ∧
      Alone userId number world.now ended (.finished (.ok .done)) ∧
      ended.state = loggedOutAll userId user world := by
  have identity : user.id = userId := by simpa using List.find?_some known
  obtain ⟨first, begins, begun, alone⟩ := alone_begins setup userId number world works old
  obtain ⟨second, captures, captured, alone⟩ := alone.step setup
    (.updateIssuedAt userId world.now) world (by simp only [Phase.advance, begun]) ⟨rfl, rfl⟩
    (by rw [begun]) (by rw [begun]) (by rw [begun])
  obtain ⟨third, updates, updated, alone⟩ := alone.step setup
    (.updatedPut userId
      (userSelectPublic { issuedAt world.now user with updatedAt := world.now }))
    (world.withDb (changeUser userId (issuedAt world.now) world.now))
    (by simp only [Phase.advance, captured, known])
    ⟨rfl, identity, by simp [issuedAt]⟩ (by rw [captured]; rfl) (by rw [captured]; rfl)
    (by rw [captured]; rfl)
  obtain ⟨fourth, announces, announced, alone⟩ := alone.step setup _ _ rfl rfl rfl rfl rfl
  obtain ⟨fifth, drops, dropped, alone⟩ := alone.step setup _ _ rfl rfl rfl rfl rfl
  have failing : fifth.state.failing = world.failing := by
    rw [dropped, announced, updated]
    rfl
  obtain ⟨sixth, deletes, deleted, done⟩ := alone.step setup (.finished (.ok .done))
    (fifth.state.withDb (dropUserRefreshTokens userId))
    (by simp [Phase.advance, failing, accepts]) trivial rfl rfl rfl
  refine ⟨fifth, sixth, ?_, alone.running, deletes, done, ?_⟩
  · exact ((((Pool.Run.step begins).tail captures).tail updates).tail announces).tail drops
  · rw [deleted, dropped, announced, updated]
    rfl

def sessionUser : User := { id := 1, email := "ada@example.com", password := "secret" }

def sessionWorld : World :=
  { db :=
      { users := [sessionUser]
        refreshTokens := [{ token := 5, userId := 1, expiresAt := 604800000 }]
        nextId := 10 }
    now := 5000
    signed := [{ sub := 1, jti := 3, iat := 0, exp := 900 }] }

def sessionToken : Claims := { sub := 1, jti := 3, iat := 0, exp := 900 }

theorem authenticate_step (token : Option Claims) (other : Nat) (phase next : Phase) (state : World)
    (running : pool.calls (.authenticate token, other) = some phase) (signs : phase.signsFor = none)
    (updates : ∀ id now, phase ≠ .updateIssuedAt id now)
    (advanced : phase.advance setup pool.state = some (next, state)) :
    ∃ reached, Pool.Step (machine setup Outside) (Undisturbed userId number capturedAt)
      pool reached ∧ reached.state = state ∧
      reached.calls (.authenticate token, other) = some next := by
  have undisturbed : Undisturbed userId number capturedAt pool (.authenticate token, other) phase :=
    { capture := by rintro ⟨⟩
      signing := by
        intro signing
        rw [signs] at signing
        cases signing
      announcing := by rintro ⟨⟩
      deleting := by rintro ⟨⟩
      updating := fun now same => (updates userId now same).elim }
  exact ⟨_, .statement pool _ phase next state running undisturbed advanced, rfl,
    put_self ..⟩

theorem old_session_revoked :
    ∃ ended final : Pool (Request × Nat) World Phase,
      ended.calls (.logoutAll 1, 0) = some (.finished (.ok .done)) ∧
      final.calls (.authenticate (some sessionToken), 0) =
        some (.userGet (.authenticate sessionToken) 1) ∧
      ∀ outcome, final.calls (.authenticate (some sessionToken), 0) ≠
        some (.finished (.ok outcome)) := by
  have sane : WellFormed sessionWorld := by
    constructor <;> simp [sessionWorld, sessionUser, Issued]
  obtain ⟨before, ended, run, last, completes, alone, state⟩ :=
    alone_completes plainSetup 1 0 sessionWorld sessionUser rfl rfl rfl (by simp [sessionWorld])
  have unused : ended.calls (.authenticate (some sessionToken), 0) = none := by
    cases there : ended.calls (.authenticate (some sessionToken), 0) with
    | none => rfl
    | some process => cases (alone.only _ process there).1
  let first : Pool (Request × Nat) World Phase :=
    { ended with calls := ended.put (.authenticate (some sessionToken), 0) (.verify sessionToken) }
  have begins : Pool.Step (machine plainSetup Outside) (Undisturbed 1 0 5000) ended first :=
    .start ended _ _ unused rfl
  have running : first.calls (.authenticate (some sessionToken), 0) =
    some (.verify sessionToken) := by simp [first]
  have state₁ : first.state = loggedOutAll 1 sessionUser sessionWorld := state
  obtain ⟨second, verifies, state₂, running⟩ := authenticate_step plainSetup 1 0 5000 first _ 0
    (.verify sessionToken) (.blacklistGet sessionToken 5000)
    (loggedOutAll 1 sessionUser sessionWorld) running rfl (by simp) (by rw [state₁]; rfl)
  obtain ⟨third, asks, state₃, running⟩ := authenticate_step plainSetup 1 0 5000 second _ 0
    (.blacklistGet sessionToken 5000) (.blacklistRead sessionToken 5000)
    (loggedOutAll 1 sessionUser sessionWorld) running rfl (by simp) (by rw [state₂]; rfl)
  obtain ⟨fourth, looks, _, running⟩ := authenticate_step plainSetup 1 0 5000 third _ 0
    (.blacklistRead sessionToken 5000) (.userGet (.authenticate sessionToken) 1)
    (loggedOutAll 1 sessionUser sessionWorld) running rfl (by simp) (by rw [state₃]; rfl)
  have later : Pool.Run (machine plainSetup Outside) (Undisturbed 1 0 5000) ended fourth :=
    (((Pool.Run.step begins).tail verifies).tail asks).tail looks
  refine ⟨ended, fourth, alone.running, running, fun outcome => ?_⟩
  exact (logoutAll_revokes plainSetup 1 0 5000 sessionWorld sane before ended fourth run last
    completes alone.running later).1 sessionToken
    (by rw [state]; exact List.mem_singleton_self _) rfl 0 outcome unused

/-- A login and a `logoutAllDevices` 1.2 seconds after the epoch. -/
def sameSecond : Pool (Request × Nat) World Phase :=
  Pool.play (Phase.advance plainSetup) (fun call => Phase.ofRequest call.1)
    (List.replicate 9 (.turn (.login "ada@example.com" "secret", 0)) ++
      List.replicate 6 (.turn (.logoutAll 1, 0)))
    (Pool.idle
      { db :=
          { users := [{ id := 1, email := "ada@example.com", password := "secret" }]
            nextId := 10 }
        now := 1200 })

def survivingToken : Claims := { sub := 1, jti := 10, iat := 1, exp := 901 }

def expireUser (world : World) : World := { world with userCache := fun _ => none }

def sameSecondLater : Pool (Request × Nat) World Phase :=
  Pool.play (Phase.advance plainSetup) (fun call => Phase.ofRequest call.1)
    (.outside expireUser ::
      List.replicate 7 (.turn (.authenticate (some survivingToken), 0)))
    sameSecond

/-- Whole seconds hide the order of a login and a `logoutAllDevices` within one second. -/
theorem session_survives_logoutAll :
    ∃ start, WellFormed start ∧
      Pool.Run (machine plainSetup Outside) Pool.anyStatement (Pool.idle start) sameSecond ∧
      sameSecond.calls (.logoutAll 1, 0) = some (.finished (.ok .done)) ∧
      survivingToken ∈ sameSecond.state.signed ∧ survivingToken.sub = 1 ∧
      sameSecond.calls (.authenticate (some survivingToken), 0) = none ∧
      Pool.Run (machine plainSetup Outside) Pool.anyStatement sameSecond sameSecondLater ∧
      ∃ outcome, sameSecondLater.calls (.authenticate (some survivingToken), 0) =
        some (.finished (.ok outcome)) := by
  refine ⟨_, ?_, play_run (fun _ _ => rfl) _ ?_ _ (Pool.permits_any ..), rfl,
    List.mem_singleton_self _, rfl, rfl,
    play_run (fun _ _ => rfl) _ ?_ _ (Pool.permits_any ..), _, rfl⟩
  · constructor <;> simp [Issued]
  · intro change member
    simp at member
  · intro change member state
    simp only [List.mem_cons, Pool.Move.outside.injEq, List.mem_replicate, reduceCtorEq, and_false,
      or_false] at member
    subst member
    exact ⟨rfl, rfl, rfl, Nat.le_refl _, by simp [expireUser], fun _ kept => kept, rfl, rfl⟩

end HelpForge.Auth
