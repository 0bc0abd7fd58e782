import HelpForge.Auth.LogoutAll

set_option autoImplicit false

namespace HelpForge.Auth

open Lib
open Pool (play_run put_eq_some)

/-- Tokens have their own `jti`s, and a blacklist row expires with its token. -/
structure WellSigned (world : World) : Prop where
  generated : ∀ token ∈ world.signed, token.jti < world.db.nextId
  distinct : ∀ token ∈ world.signed, ∀ token' ∈ world.signed,
    token.jti = token'.jti → token = token'
  rows : ∀ row ∈ world.db.tokenBlacklist, ∃ token ∈ world.signed,
    token.jti = row.jti ∧ row.expiresAt = token.exp * 1000

def Covered (token : Claims) (world : World) : Prop :=
  -- The token's row is stored, unless a cleanup has run past the token's expiry.
  (∃ row ∈ world.db.tokenBlacklist, row.jti = token.jti) ∨ token.exp * 1000 < world.cleaned

/-- The logout gets its row into the blacklist, and no cleanup past the token's expiry
comes between the verification of the token and its lookup in the blacklist: a
condition on the state in which a call takes its next statement. -/
structure Recorded (token : Claims) (refreshToken : Option Nat) (number : Nat)
    (pool : Pool (Request × Nat) World Phase) (call : Request × Nat) (phase : Phase) : Prop where
  -- The token verifies when the logout verifies it.
  verifying : call = (.logout (some token) refreshToken, number) →
    phase = .logoutVerify token refreshToken →
    jwtVerifies pool.state token = true ∧ token.type = "access"
  -- The insert does not fail, or the row is there.
  inserting : call = (.logout (some token) refreshToken, number) → ∀ jti expiresAt next,
    phase = .blacklistInsert jti expiresAt next →
    pool.state.failing .tokenBlacklist = false ∨
      ∃ row ∈ pool.state.db.tokenBlacklist, row.jti = jti
  -- A cleanup that has run past the token's expiry had done so by the time at which the token was
  -- verified.
  reading : ∀ verifiedAt, phase = .blacklistRead token verifiedAt →
    token.exp * 1000 < pool.state.cleaned → pool.state.cleaned ≤ verifiedAt

variable (setup : AuthSetup) {phase : Phase} {reached : World} {world : World}

namespace Phase

def recorded : Phase → Prop
  | blacklistPut _ _ => True
  | logoutDrop _ => True
  | finished _ => True
  | _ => False

theorem Effect.tokenBlacklist {setup : AuthSetup} (effect : Effect setup phase world reached) :
    (∀ row ∈ reached.db.tokenBlacklist, row ∈ world.db.tokenBlacklist ∨
      ∃ next, phase = .blacklistInsert row.jti row.expiresAt next) ∧
    (∀ row ∈ world.db.tokenBlacklist, row ∈ reached.db.tokenBlacklist ∨
      row.expiresAt < reached.cleaned) ∧
    world.cleaned ≤ reached.cleaned := by
  cases effect with
  | insertBlacklisted jti expiresAt next _ absent =>
    refine ⟨?_, fun row member => .inl (List.mem_append_left _ member), Nat.le_refl _⟩
    intro row member
    rcases List.mem_append.mp member with before | added
    · exact .inl before
    · rw [List.mem_singleton] at added
      subst added
      exact .inr ⟨next, rfl⟩
  | clean before =>
    refine ⟨fun row member => .inl (List.mem_of_mem_filter member), ?_, Nat.le_max_left _ _⟩
    intro row member
    by_cases expired : row.expiresAt < before
    · exact .inr (Nat.lt_of_lt_of_le expired (Nat.le_max_right _ _))
    · exact .inl (List.mem_filter.mpr ⟨member, by simp [expired]⟩)
  | _ => exact ⟨fun row member => .inl member, fun row member => .inl member, Nat.le_refl _⟩

theorem Effect.newlySigned {setup : AuthSetup} (effect : Effect setup phase world reached) :
    reached.signed = world.signed ∨
      ∃ token, reached.signed = token :: world.signed ∧ token.jti = world.db.nextId ∧
        reached.db.nextId = world.db.nextId + 1 := by
  cases effect with
  | sign _ _ userId scope signs => exact .inr ⟨_, rfl, rfl, rfl⟩
  | _ => exact .inl rfl

theorem loggedOut_recorded (refreshToken : Option Nat) : (loggedOut refreshToken).recorded := by
  cases refreshToken <;> trivial

theorem recorded_step (phase next : Phase) (world reached : World) (before : phase.recorded)
    (stepped : phase.advance setup world = some (next, reached)) : next.recorded := by
  cases phase with
  | blacklistPut jti refreshToken =>
    cases stepped
    exact loggedOut_recorded refreshToken
  | logoutDrop refreshToken =>
    simp only [advance] at stepped
    split at stepped
    · split_ifs at stepped <;> cases stepped <;> trivial
    next following middle _ deleted =>
      cases stepped
      rcases deleting_cases _ _ _ _ _ deleted with ⟨failure, rfl, rfl⟩ | ⟨rfl, _, rfl⟩ <;> trivial
  | finished result => cases stepped
  | _ => exact before.elim

theorem insert_source (phase : Phase) (jti expiresAt : Nat) (refreshToken : Option Nat)
    (world reached : World)
    (stepped : phase.advance setup world =
      some (.blacklistInsert jti expiresAt refreshToken, reached)) :
    ∃ token ∈ world.signed, token.jti = jti ∧ expiresAt = token.exp * 1000 := by
  -- Only a token that verifies gets as far as the insertion.
  have loggedOut_other : ∀ refreshToken', loggedOut refreshToken' ≠
      .blacklistInsert jti expiresAt refreshToken := by
    rintro (_ | refreshToken') ⟨⟩
  cases phase with
  | logoutVerify token next =>
    simp only [advance, Option.some.injEq, Prod.mk.injEq] at stepped
    obtain ⟨same, rfl⟩ := stepped
    split_ifs at same with verified
    · cases same
      simp only [jwtVerifies, Bool.and_eq_true, List.contains_iff_mem] at verified
      exact ⟨token, verified.1.1, rfl, rfl⟩
    · exact (loggedOut_other next same).elim
  | blacklistInsert jti' expiresAt' next =>
    simp only [advance] at stepped
    split_ifs at stepped
    · exact (loggedOut_other next (Prod.mk.inj (Option.some.inj stepped)).1).elim
    · exact (loggedOut_other next (Prod.mk.inj (Option.some.inj stepped)).1).elim
    · cases stepped
  | blacklistPut jti' next =>
    exact (loggedOut_other next (Prod.mk.inj (Option.some.inj stepped)).1).elim
  | logoutDrop token =>
    cases (recorded_step setup (.logoutDrop token) _ world reached trivial stepped)
  | loginCache user password =>
    simp only [advance] at stepped
    split_ifs at stepped <;> cases stepped
  | refreshDate token row =>
    simp only [advance] at stepped
    split_ifs at stepped <;> cases stepped
  | dropExpired token =>
    simp only [advance, Option.some.injEq] at stepped
    rcases deleting_cases _ _ _ _ _ stepped with ⟨failure, same, _⟩ | ⟨same, _⟩ <;> cases same
  | dropOrphan token =>
    simp only [advance, Option.some.injEq] at stepped
    rcases deleting_cases _ _ _ _ _ stepped with ⟨failure, same, _⟩ | ⟨same, _⟩ <;> cases same
  | dropRotated token user =>
    simp only [advance, Option.some.injEq] at stepped
    rcases deleting_cases _ _ _ _ _ stepped with ⟨failure, same, _⟩ | ⟨same, _⟩ <;> cases same
  | userGet purpose userId =>
    simp only [advance] at stepped
    split at stepped
    · cases purpose <;> cases stepped
    · cases stepped
  | userRead purpose userId =>
    simp only [advance] at stepped
    split at stepped
    · cases stepped
    · cases purpose <;> cases stepped
  | userPut purpose user => cases purpose <;> cases stepped
  | _ =>
    simp only [advance] at stepped
    repeat' split at stepped
    all_goals
      cases stepped

end Phase

theorem Covered.step {token : Claims} {setup : AuthSetup} (covered : Covered token world)
    (sane : WellSigned world) (member : token ∈ world.signed)
    (effect : Phase.Effect setup phase world reached) : Covered token reached := by
  obtain ⟨_, keeps, later⟩ := effect.tokenBlacklist
  rcases covered with ⟨row, present, same⟩ | cleaned
  · rcases keeps row present with still | expired
    · exact .inl ⟨row, still, same⟩
    · obtain ⟨token', member', jti, expires⟩ := sane.rows row present
      have unique := sane.distinct token' member' token member (by omega)
      subst unique
      exact .inr (by omega)
  · exact .inr (by omega)

structure Logout (token : Claims) (refreshToken : Option Nat) (number : Nat)
    (pool : Pool (Request × Nat) World Phase) : Prop where
  sane : WellSigned pool.state
  inserting : ∀ call jti expiresAt next,
    pool.calls call = some (.blacklistInsert jti expiresAt next) →
    ∃ token ∈ pool.state.signed, token.jti = jti ∧ expiresAt = token.exp * 1000
  position : ∀ own, pool.calls (.logout (some token) refreshToken, number) = some own →
    own = .logoutVerify token refreshToken ∨
      (token ∈ pool.state.signed ∧
        (own = .blacklistInsert token.jti (token.exp * 1000) refreshToken ∨
          (own.recorded ∧ Covered token pool.state)))

theorem WellSigned.step {setup : AuthSetup} (sane : WellSigned world)
    (effect : Phase.Effect setup phase world reached)
    (inserting : ∀ jti expiresAt next, phase = .blacklistInsert jti expiresAt next →
      ∃ token ∈ world.signed, token.jti = jti ∧ expiresAt = token.exp * 1000) :
    WellSigned reached ∧ ∀ token ∈ world.signed, token ∈ reached.signed := by
  have grows := effect.tokens.1
  have kept : ∀ token ∈ world.signed, token ∈ reached.signed := by
    intro token member
    rcases effect.newlySigned with same | ⟨added, same, _⟩
    · rwa [same]
    · rw [same]
      exact List.mem_cons_of_mem _ member
  refine ⟨⟨?_, ?_, ?_⟩, kept⟩
  · intro token member
    rcases effect.newlySigned with same | ⟨added, same, fresh, next⟩
    · rw [same] at member
      exact Nat.lt_of_lt_of_le (sane.generated token member) grows
    · rw [same] at member
      rcases List.mem_cons.mp member with rfl | before
      · omega
      · exact Nat.lt_of_lt_of_le (sane.generated token before) grows
  · intro token member token' member' jti
    rcases effect.newlySigned with same | ⟨added, same, fresh, next⟩
    · rw [same] at member member'
      exact sane.distinct token member token' member' jti
    · rw [same] at member member'
      rcases List.mem_cons.mp member with rfl | before <;>
        rcases List.mem_cons.mp member' with rfl | before'
      · rfl
      · have generated := sane.generated token' before'
        omega
      · have generated := sane.generated token before
        omega
      · exact sane.distinct token before token' before' jti
  · intro row member
    rcases effect.tokenBlacklist.1 row member with before | ⟨next, inserts⟩
    · obtain ⟨token, signed, rest⟩ := sane.rows row before
      exact ⟨token, kept token signed, rest⟩
    · obtain ⟨token, signed, rest⟩ := inserting _ _ next inserts
      exact ⟨token, kept token signed, rest⟩

variable (token : Claims) (refreshToken : Option Nat) (number : Nat)

theorem idle_logout (world : World) (sane : WellSigned world) :
    Logout token refreshToken number (Pool.idle world) where
  sane := sane
  inserting := by rintro call jti expiresAt next ⟨⟩
  position := by rintro own ⟨⟩

variable (pool : Pool (Request × Nat) World Phase)

theorem own_logout_step (phase next : Phase) (state : World)
    (held : Logout token refreshToken number pool)
    (running : pool.calls (.logout (some token) refreshToken, number) = some phase)
    (permitted : Recorded token refreshToken number pool
      (.logout (some token) refreshToken, number) phase)
    (advanced : phase.advance setup pool.state = some (next, state))
    (kept : ∀ token ∈ pool.state.signed, token ∈ state.signed) :
    token ∈ state.signed ∧
      (next = .blacklistInsert token.jti (token.exp * 1000) refreshToken ∨
        (next.recorded ∧ Covered token state)) := by
  have effect := Phase.advance_effect setup phase next pool.state state advanced
  rcases held.position phase running with rfl | ⟨member, rfl | ⟨recorded, covered⟩⟩
  · obtain ⟨verifies, typed⟩ := permitted.verifying rfl rfl
    have member : token ∈ pool.state.signed := by
      simp only [jwtVerifies, Bool.and_eq_true, List.contains_iff_mem] at verifies
      exact verifies.1
    simp only [Phase.advance, verifies, typed, BEq.rfl, Bool.and_self, if_true,
      Option.some.injEq, Prod.mk.injEq] at advanced
    obtain ⟨rfl, rfl⟩ := advanced
    exact ⟨member, .inl rfl⟩
  · refine ⟨kept token member, .inr ?_⟩
    have present : (∃ row ∈ pool.state.db.tokenBlacklist, row.jti = token.jti) →
        Covered token state := by
      intro there
      exact Covered.step (.inl there) held.sane member effect
    simp only [Phase.advance] at advanced
    split_ifs at advanced with failing taken
    · cases advanced
      rcases permitted.inserting rfl _ _ _ rfl with works | there
      · rw [works] at failing
        cases failing
      · exact ⟨Phase.loggedOut_recorded refreshToken, present there⟩
    · cases advanced
      have there : ∃ row ∈ pool.state.db.tokenBlacklist, row.jti = token.jti := by
        simpa using taken
      exact ⟨Phase.loggedOut_recorded refreshToken, present there⟩
    · cases advanced
      exact ⟨trivial, .inl ⟨{ jti := token.jti, expiresAt := token.exp * 1000 },
        List.mem_append_right _ (List.mem_singleton_self _), rfl⟩⟩
  · exact ⟨kept token member, .inr ⟨Phase.recorded_step setup phase next _ _ recorded advanced,
      covered.step held.sane member effect⟩⟩

theorem ofRequest_inserts (request : Request) (jti expiresAt : Nat) (next : Option Nat) :
    Phase.ofRequest request ≠ .blacklistInsert jti expiresAt next := by
  cases request with
  | logout accessToken refreshToken =>
    cases accessToken <;> cases refreshToken <;> rintro ⟨⟩
  | authenticate token => cases token <;> rintro ⟨⟩
  | _ => rintro ⟨⟩

theorem logout_step (setup : AuthSetup) (token : Claims) (refreshToken : Option Nat) (number : Nat)
    (pool reached : Pool (Request × Nat) World Phase)
    (held : Logout token refreshToken number pool)
    (stepped : Pool.Step (machine setup Outside) (Recorded token refreshToken number)
      pool reached) :
    Logout token refreshToken number reached := by
  cases stepped with
  | start call phase unused begun =>
    have begins : phase = Phase.ofRequest call.1 := begun
    subst begins
    constructor
    case sane => exact held.sane
    case inserting =>
      intro other jti expiresAt next there
      rcases (put_eq_some ..).mp there with ⟨_, same⟩ | ⟨_, before⟩
      · exact (ofRequest_inserts call.1 jti expiresAt next same.symm).elim
      · exact held.inserting other jti expiresAt next before
    case position =>
      intro own there
      rcases (put_eq_some ..).mp there with ⟨rfl, rfl⟩ | ⟨_, before⟩
      · exact .inl rfl
      · exact held.position own before
  | statement call phase next state running permitted advanced =>
    have effect := Phase.advance_effect setup phase next pool.state state advanced
    obtain ⟨sane, kept⟩ := held.sane.step effect
      fun jti expiresAt following inserts =>
        held.inserting call jti expiresAt following (inserts ▸ running)
    constructor
    case sane => exact sane
    case inserting =>
      intro other jti expiresAt following there
      rcases (put_eq_some ..).mp there with ⟨_, rfl⟩ | ⟨_, before⟩
      · obtain ⟨token', signed, rest⟩ :=
          Phase.insert_source setup phase jti expiresAt following pool.state state advanced
        exact ⟨token', kept token' signed, rest⟩
      · obtain ⟨token', signed, rest⟩ := held.inserting other jti expiresAt following before
        exact ⟨token', kept token' signed, rest⟩
    case position =>
      intro own there
      rcases (put_eq_some ..).mp there with ⟨rfl, rfl⟩ | ⟨_, before⟩
      · exact .inr (own_logout_step setup token refreshToken number pool phase own state held
          running permitted advanced kept)
      · rcases held.position own before with verifies | ⟨member, inserts | ⟨recorded, covered⟩⟩
        · exact .inl verifies
        · exact .inr ⟨kept token member, .inl inserts⟩
        · exact .inr ⟨kept token member,
            .inr ⟨recorded, covered.step held.sane member effect⟩⟩
  | outside state moved =>
    constructor
    case sane =>
      refine ⟨?_, ?_, ?_⟩
      · intro other member
        rw [moved.signed] at member
        exact Nat.lt_of_lt_of_le (held.sane.generated other member) moved.nextId
      · rw [moved.signed]
        exact held.sane.distinct
      · rw [moved.tokenBlacklist, moved.signed]
        exact held.sane.rows
    case inserting =>
      rw [moved.signed]
      exact held.inserting
    case position =>
      intro own there
      unfold Covered
      rw [moved.signed, moved.tokenBlacklist, moved.cleaned]
      exact held.position own there

def Phase.refusedBy (token : Claims) : Phase → Prop
  | verify other => other = token
  | blacklistGet other verifiedAt => other = token ∧ verifiedAt / 1000 < token.exp
  | blacklistRead other verifiedAt => other = token ∧ verifiedAt / 1000 < token.exp
  | blacklistFill other => other = token
  | finished (.error _) => True
  | _ => False

theorem refusedBy_step (phase next : Phase) (world reached : World) (covered : Covered token world)
    (reading : ∀ verifiedAt, phase = .blacklistRead token verifiedAt →
      token.exp * 1000 < world.cleaned → world.cleaned ≤ verifiedAt)
    (before : phase.refusedBy token) (stepped : phase.advance setup world = some (next, reached)) :
    next.refusedBy token := by
  cases phase with
  | verify other =>
    have same : other = token := before
    subst same
    simp only [Phase.advance] at stepped
    split_ifs at stepped with verifies typed <;> cases stepped
    · simp only [jwtVerifies, Bool.and_eq_true, decide_eq_true_eq] at verifies
      exact ⟨rfl, verifies.2⟩
    · trivial
    · trivial
  | blacklistGet other verifiedAt =>
    simp only [Phase.advance] at stepped
    split_ifs at stepped <;> cases stepped
    · trivial
    · exact before
  | blacklistRead other verifiedAt =>
    obtain ⟨rfl, unexpired⟩ := before
    simp only [Phase.advance] at stepped
    split_ifs at stepped with found <;> cases stepped
    · rfl
    · rcases covered with ⟨row, present, same⟩ | cleaned
      · exact (found (List.any_eq_true.mpr ⟨row, present, by simp [same]⟩)).elim
      · have verified := reading verifiedAt rfl cleaned
        omega
  | blacklistFill other =>
    cases stepped
    trivial
  | finished result => cases stepped
  | _ => exact before.elim

/-- What holds from the moment `ended` on, in which the logout has resolved. -/
structure LoggedOut (token : Claims) (refreshToken : Option Nat) (number : Nat)
    (ended pool : Pool (Request × Nat) World Phase) : Prop where
  logout : Logout token refreshToken number pool
  resolved : pool.calls (.logout (some token) refreshToken, number) = some (.finished (.ok .done))
  refused : ∀ other phase, ended.calls (.authenticate (some token), other) = none →
    pool.calls (.authenticate (some token), other) = some phase → phase.refusedBy token

theorem loggedOut_step (setup : AuthSetup) (token : Claims) (refreshToken : Option Nat)
    (number : Nat) (ended pool reached : Pool (Request × Nat) World Phase)
    (held : LoggedOut token refreshToken number ended pool)
    (stepped : Pool.Step (machine setup Outside) (Recorded token refreshToken number)
      pool reached) :
    LoggedOut token refreshToken number ended reached := by
  have logout := logout_step setup token refreshToken number pool reached held.logout stepped
  cases stepped with
  | start call phase unused begun =>
    have begins : phase = Phase.ofRequest call.1 := begun
    subst begins
    refine ⟨logout, ?_, ?_⟩
    · refine (put_eq_some ..).mpr (.inr ⟨?_, held.resolved⟩)
      rintro rfl
      rw [held.resolved] at unused
      cases unused
    · intro other phase fresh there
      rcases (put_eq_some ..).mp there with ⟨rfl, rfl⟩ | ⟨_, before⟩
      · rfl
      · exact held.refused other phase fresh before
  | statement call phase next state running permitted advanced =>
    refine ⟨logout, ?_, ?_⟩
    · refine (put_eq_some ..).mpr (.inr ⟨?_, held.resolved⟩)
      rintro rfl
      rw [held.resolved, Option.some.injEq] at running
      subst running
      cases advanced
    · intro other found fresh there
      rcases (put_eq_some ..).mp there with ⟨rfl, rfl⟩ | ⟨_, before⟩
      · have covered : Covered token pool.state := by
          rcases held.logout.position _ held.resolved with same | ⟨_, same | ⟨_, covered⟩⟩
          · cases same
          · cases same
          · exact covered
        exact refusedBy_step setup token phase found pool.state state covered permitted.reading
          (held.refused other phase fresh running) advanced
      · exact held.refused other found fresh before
  | outside state moved => exact ⟨logout, held.resolved, held.refused⟩

/-- A logout that resolves revokes its token, whatever happens to the cache, the clock
and the blacklist, if its row is stored and no cleanup past the token's expiry comes
between a verification of the token and its lookup. -/
theorem logout_revokes (setup : AuthSetup) (token : Claims) (refreshToken : Option Nat)
    (number : Nat) (start : World) (sane : WellSigned start)
    (ended final : Pool (Request × Nat) World Phase)
    (run : Pool.Run (machine setup Outside) (Recorded token refreshToken number)
      (Pool.idle start) ended)
    (resolved : ended.calls (.logout (some token) refreshToken, number) =
      some (.finished (.ok .done)))
    (later : Pool.Run (machine setup Outside) (Recorded token refreshToken number) ended final)
    (other : Nat) (unused : ended.calls (.authenticate (some token), other) = none)
    (outcome : Outcome) :
    final.calls (.authenticate (some token), other) ≠ some (.finished (.ok outcome)) := by
  have logout := run.invariant (logout_step setup token refreshToken number)
    (idle_logout token refreshToken number start sane)
  have atEnd : LoggedOut token refreshToken number ended ended := by
    refine ⟨logout, resolved, ?_⟩
    intro other phase fresh there
    rw [there] at fresh
    cases fresh
  have held := later.invariant (loggedOut_step setup token refreshToken number ended) atEnd
  intro there
  exact held.refused other _ unused there

def sessionLogout : Request × Nat := (.logout (some sessionToken) none, 0)

def sessionRequest : Request × Nat := (.authenticate (some sessionToken), 0)

def recordedLogout : Pool (Request × Nat) World Phase :=
  Pool.play (Phase.advance plainSetup) (fun call => Phase.ofRequest call.1)
    (List.replicate 4 (.turn sessionLogout)) (Pool.idle sessionWorld)

def presentedAgain : Pool (Request × Nat) World Phase :=
  Pool.play (Phase.advance plainSetup) (fun call => Phase.ofRequest call.1)
    (List.replicate 3 (.turn sessionRequest)) recordedLogout

theorem sessionWorld_wellSigned : WellSigned sessionWorld := by
  constructor <;> simp [sessionWorld]

theorem recorded_uncleaned (call : Request × Nat) (phase : Phase)
    (uncleaned : pool.state.cleaned = 0)
    (verifying : phase = .logoutVerify sessionToken none →
      jwtVerifies pool.state sessionToken = true)
    (works : pool.state.failing .tokenBlacklist = false) :
    Recorded sessionToken none 0 pool call phase where
  verifying := fun _ same => ⟨verifying same, rfl⟩
  inserting := fun _ _ _ _ _ => .inl works
  reading := by
  -- Where nothing has been cleaned, it is the logout itself that has to be careful.
    intro verifiedAt _ cleaned
    rw [uncleaned] at cleaned
    omega

theorem recordedLogout_run :
    Pool.Run (machine plainSetup Outside) (Recorded sessionToken none 0)
      (Pool.idle sessionWorld) recordedLogout := by
  refine play_run (fun _ _ => rfl) _ (by simp) _ ?_
  refine ⟨?_, ?_, ?_, ?_, trivial⟩ <;> rintro process ⟨⟩
  · exact recorded_uncleaned _ _ _ rfl (fun _ => rfl) rfl
  · exact recorded_uncleaned _ _ _ rfl (by rintro ⟨⟩) rfl
  · exact recorded_uncleaned _ _ _ rfl (by rintro ⟨⟩) rfl

theorem presentedAgain_run :
    Pool.Run (machine plainSetup Outside) (Recorded sessionToken none 0)
      recordedLogout presentedAgain := by
  refine play_run (fun _ _ => rfl) _ (by simp) _ ?_
  refine ⟨?_, ?_, ?_, trivial⟩ <;> rintro process ⟨⟩
  · exact recorded_uncleaned _ _ _ rfl (by rintro ⟨⟩) rfl
  · exact recorded_uncleaned _ _ _ rfl (by rintro ⟨⟩) rfl

theorem session_logged_out :
    recordedLogout.calls sessionLogout = some (.finished (.ok .done)) ∧
      presentedAgain.calls sessionRequest = some (.failed revokedToken) ∧
      ∀ outcome, presentedAgain.calls sessionRequest ≠ some (.finished (.ok outcome)) :=
  ⟨rfl, rfl, logout_revokes plainSetup sessionToken none 0 sessionWorld sessionWorld_wellSigned
    recordedLogout presentedAgain recordedLogout_run rfl presentedAgain_run 0 rfl⟩

def failBlacklist (world : World) : World :=
  { world with failing := fun store => store == .tokenBlacklist }

def lostLogout : Pool (Request × Nat) World Phase :=
  Pool.play (Phase.advance plainSetup) (fun call => Phase.ofRequest call.1)
    (.outside failBlacklist :: List.replicate 3 (.turn sessionLogout)) (Pool.idle sessionWorld)

def acceptedAgain : Pool (Request × Nat) World Phase :=
  Pool.play (Phase.advance plainSetup) (fun call => Phase.ofRequest call.1)
    (List.replicate 7 (.turn sessionRequest)) lostLogout

/-- The failed insert is swallowed like an invalid token. -/
theorem session_survives_logout :
    WellSigned sessionWorld ∧ jwtVerifies sessionWorld sessionToken = true ∧
      Pool.Run (machine plainSetup Outside) Pool.anyStatement (Pool.idle sessionWorld)
        lostLogout ∧
      lostLogout.calls sessionLogout = some (.finished (.ok .done)) ∧
      lostLogout.calls sessionRequest = none ∧
      Pool.Run (machine plainSetup Outside) Pool.anyStatement lostLogout acceptedAgain ∧
      ∃ outcome, acceptedAgain.calls sessionRequest = some (.finished (.ok outcome)) := by
  refine ⟨sessionWorld_wellSigned, rfl,
    play_run (fun _ _ => rfl) _ ?_ _ (Pool.permits_any ..), rfl, rfl,
    play_run (fun _ _ => rfl) _ (by simp) _ (Pool.permits_any ..), _, rfl⟩
  intro change member state
  simp only [List.mem_cons, Pool.Move.outside.injEq, List.mem_replicate, reduceCtorEq, and_false,
    or_false] at member
  subst member
  exact ⟨rfl, rfl, rfl, Nat.le_refl _, fun _ _ kept => kept, fun _ kept => kept, rfl, rfl⟩

end HelpForge.Auth
