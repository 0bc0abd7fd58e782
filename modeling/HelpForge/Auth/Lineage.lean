import HelpForge.Auth.Rotation

set_option autoImplicit false

namespace HelpForge.Auth

open Lib

def OwnedBy (seen : List World) (refreshToken userId : Nat) : Prop :=
  ∃ world ∈ seen, ∃ row ∈ world.db.refreshTokens, row.token = refreshToken ∧ row.userId = userId

theorem OwnedBy.later {seen : List World} {refreshToken userId : Nat}
    (owned : OwnedBy seen refreshToken userId) (world : World) :
    OwnedBy (world :: seen) refreshToken userId := by
  obtain ⟨state, member, rest⟩ := owned
  exact ⟨state, List.mem_cons_of_mem _ member, rest⟩

theorem ownedBy_now {κ P : Type} (pool : Pool κ World P) (row : RefreshToken)
    (member : row ∈ pool.state.db.refreshTokens) : OwnedBy pool.seen row.token row.userId :=
  ⟨pool.state, List.mem_cons_self .., row, member, rfl, rfl⟩

def isText (date : JsDate) : Prop := ∃ time, date = .isoText time

/-- Identifiers are generated before they are used, tokens are unique, and a cached
user lies under its own key, with its dates as text. -/
structure WellFormed (world : World) : Prop where
  issued : Issued world.db
  distinct : ∀ row ∈ world.db.refreshTokens, ∀ row' ∈ world.db.refreshTokens,
    row.token = row'.token → row = row'
  users : ∀ user ∈ world.db.users, user.id < world.db.nextId
  cached : ∀ userId copy, world.userCache userId = some copy →
    copy.id = userId ∧ ∀ date, copy.tokenIssuedAt = some date → isText date

theorem userToJson_text (user : AuthUser) (date : JsDate)
    (issued : (userToJson user).tokenIssuedAt = some date) : isText date := by
  obtain ⟨original, _, rfl⟩ := Option.map_eq_some_iff.mp issued
  cases original with
  | date time => exact ⟨time, rfl⟩
  | isoText time => exact ⟨time, rfl⟩

variable {setup : AuthSetup} {phase : Phase} (world : World) {reached : World}

namespace Phase

theorem Effect.one_token {world : World} (effect : Effect setup phase world reached) :
    ∀ row ∈ reached.db.refreshTokens, ∀ row' ∈ reached.db.refreshTokens,
      row ∉ world.db.refreshTokens → row' ∉ world.db.refreshTokens → row = row' := by
  intro row member row' member' new new'
  cases effect with
  | register userData expiresAt _ available =>
    rcases List.mem_append.mp member with before | added
    · exact (new before).elim
    rcases List.mem_append.mp member' with before | added'
    · exact (new' before).elim
    exact (List.mem_singleton.mp added).trans (List.mem_singleton.mp added').symm
  | create user accessToken expiresAt _ =>
    rcases List.mem_append.mp member with before | added
    · exact (new before).elim
    rcases List.mem_append.mp member' with before | added'
    · exact (new' before).elim
    exact (List.mem_singleton.mp added).trans (List.mem_singleton.mp added').symm
  | drop _ _ refreshToken drops present => exact (new (List.mem_of_mem_filter member)).elim
  | dropAll userId => exact (new (List.mem_of_mem_filter member)).elim
  | _ => exact (new member).elim

theorem Effect.users {world : World} (effect : Effect setup phase world reached) :
    ∀ user ∈ reached.db.users, user ∈ world.db.users ∨
      (user.id = world.db.nextId ∧ world.db.nextId < reached.db.nextId) ∨
      ∃ now, ∃ before ∈ world.db.users, phase = .updateIssuedAt user.id now ∧
        before.id = user.id ∧ user.tokenIssuedAt = some now := by
  intro user member
  cases effect with
  | register userData expiresAt _ available =>
    rcases List.mem_append.mp member with before | added
    · exact .inl before
    · rw [List.mem_singleton] at added
      subst added
      refine .inr (.inl ⟨rfl, ?_⟩)
      simp only [World.withDb, insertRefreshToken]
      omega
  | updateIssuedAt userId now _ =>
    rcases mem_changeWhere.mp member with ⟨before, _⟩ | ⟨before, present, hit, rfl⟩
    · exact .inl before
    · refine .inr (.inr ⟨now, before, present, ?_, rfl, rfl⟩)
      rw [beq_iff_eq] at hit
      rw [← hit]
      rfl
  | _ => exact .inl member

theorem Effect.userCache {world : World} (effect : Effect setup phase world reached) :
    ∀ userId copy, reached.userCache userId = some copy →
      world.userCache userId = some copy ∨
        ∃ user, phase.copy = some user ∧ user.id = userId ∧
          copy = userToJson (stripPassword user) := by
  intro userId copy there
  cases effect with
  | userPut _ _ user held =>
    rcases World.putUser_userCache _ _ _ _ there with before | ⟨same, rfl⟩
    · exact .inl before
    · exact .inr ⟨user, held, same, rfl⟩
  | _ => exact .inl there

theorem Effect.wellFormed {world : World} (effect : Effect setup phase world reached)
    (sane : WellFormed world) : WellFormed reached := by
  obtain ⟨grows, tokens⟩ := effect.tokens
  constructor
  case issued =>
    intro row member
    rcases tokens row member with before | new
    · exact Nat.lt_of_lt_of_le (sane.issued row before) grows
    · exact new.2
  case distinct =>
    intro row member row' member' same
    rcases tokens row member with before | new <;> rcases tokens row' member' with before' | new'
    · exact sane.distinct row before row' before' same
    · have issued := sane.issued row before
      omega
    · have issued := sane.issued row' before'
      omega
    · refine effect.one_token row member row' member' ?_ ?_
      · intro before
        have issued := sane.issued row before
        omega
      · intro before
        have issued := sane.issued row' before
        omega
  case users =>
    intro user member
    rcases effect.users user member with before | ⟨fresh, grown⟩ | ⟨now, before, present, _, same, _⟩
    · exact Nat.lt_of_lt_of_le (sane.users user before) grows
    · omega
    · have known := sane.users before present
      omega
  case cached =>
    intro userId copy there
    rcases effect.userCache userId copy there with before | ⟨user, _, rfl, rfl⟩
    · exact sane.cached userId copy before
    · exact ⟨rfl, userToJson_text _⟩

theorem live_findUser (userId : Nat) (user : AuthUser)
    (found : live ((world.db.findUser userId).map userSelectPublic) = some user) :
    ∃ row ∈ world.db.users, row.id = userId ∧ user = userSelectPublic row := by
  obtain ⟨known, _⟩ := Option.filter_eq_some_iff.mp found
  obtain ⟨row, there, rfl⟩ := Option.map_eq_some_iff.mp known
  exact ⟨row, List.mem_of_find?_eq_some there, by simpa using List.find?_some there, rfl⟩

def actsFor : Phase → Option Nat
  | refreshDate _ row => some row.userId
  | userGet (.rotate _) userId => some userId
  | userRead (.rotate _) userId => some userId
  | userPut (.rotate _) user => some user.id
  | dropRotated _ user => some user.id
  | scopeGet user => some user.id
  | scopeRead user => some user.id
  | scopePut user _ => some user.id
  | sign user _ => some user.id
  | date user _ => some user.id
  | create user _ _ => some user.id
  | _ => none

theorem actsFor_step (setup : AuthSetup) (refreshToken userId : Nat) (phase next : Phase)
    (world reached : World) (sane : WellFormed world)
    (position : phase.unspent refreshToken ∨ phase.spent)
    (stepped : phase.advance setup world = some (next, reached))
    (acts : next.actsFor = some userId) :
    phase.actsFor = some userId ∨ OwnedBy [world] refreshToken userId := by
  -- A rotation finds the owner of its token and acts for that user from then on.
  cases phase with
  | refreshFind token =>
    have same : token = refreshToken := position.elim id False.elim
    subst same
    simp only [advance] at stepped
    split at stepped <;> cases stepped
    next => cases acts
    next row found =>
      refine .inr ⟨world, List.mem_singleton_self _, row, ?_, ?_, ?_⟩
      · exact List.mem_of_find?_eq_some found
      · simpa using List.find?_some found
      · simpa [actsFor] using acts
  | refreshDate token row =>
    simp only [advance] at stepped
    split_ifs at stepped <;> cases stepped
    · cases acts
    · exact .inl acts
  | dropExpired token =>
    simp only [advance, Option.some.injEq] at stepped
    rcases deleting_cases _ _ _ _ _ stepped with ⟨failure, rfl, rfl⟩ | ⟨rfl, _, rfl⟩ <;> cases acts
  | dropOrphan token =>
    simp only [advance, Option.some.injEq] at stepped
    rcases deleting_cases _ _ _ _ _ stepped with ⟨failure, rfl, rfl⟩ | ⟨rfl, _, rfl⟩ <;> cases acts
  | dropRotated token user =>
    simp only [advance, Option.some.injEq] at stepped
    rcases deleting_cases _ _ _ _ _ stepped with ⟨failure, rfl, rfl⟩ | ⟨rfl, _, rfl⟩
    · cases acts
    · exact .inl acts
  | userGet purpose wanted =>
    cases purpose with
    | authenticate => exact (position.elim id id : False).elim
    | rotate token =>
      simp only [advance] at stepped
      split at stepped <;> cases stepped
      next user found =>
        have there : world.userCache wanted = some user := by
          unfold cachedUser at found
          split_ifs at found
          exact found
        have same := (sane.cached wanted user there).1
        exact .inl (by simpa [actsFor, Phase.found, same] using acts)
      next => exact .inl acts
  | userRead purpose wanted =>
    cases purpose with
    | authenticate => exact (position.elim id id : False).elim
    | rotate token =>
      simp only [advance] at stepped
      split at stepped <;> cases stepped
      next user found =>
        obtain ⟨row, _, same, rfl⟩ := live_findUser world wanted user found
        exact .inl (by simpa [actsFor, same] using acts)
      next => cases acts
  | userPut purpose user =>
    cases purpose with
    | authenticate => exact (position.elim id id : False).elim
    | rotate token =>
      cases stepped
      exact .inl acts
  | scopeGet user =>
    simp only [advance] at stepped
    split at stepped <;> cases stepped <;> exact .inl acts
  | scopeRead | scopePut | sign | date =>
    cases stepped
    exact .inl acts
  | create user accessToken expiresAt =>
    simp only [advance] at stepped
    split_ifs at stepped <;> cases stepped <;> cases acts
  | finished result => cases stepped
  | _ => exact (position.elim id id : False).elim

theorem finished_step (setup : AuthSetup) (refreshToken : Nat) (phase : Phase) (session : Session)
    (world reached : World) (position : phase.unspent refreshToken ∨ phase.spent)
    (stepped : phase.advance setup world = some (.finished (.ok (.session session)), reached)) :
    ∃ userId, phase.actsFor = some userId ∧ OwnedBy [reached] session.refreshToken userId := by
  -- The last statement of a rotation stores its new token for the user it acts for.
  rcases position with unspent | spent
  · rcases unspent_step setup refreshToken phase _ world reached unspent stepped with
      still | ⟨⟨user, same⟩, _⟩
    · exact still.elim
    · cases same
  · cases phase with
    | create user accessToken expiresAt =>
      simp only [advance] at stepped
      split_ifs at stepped
      · cases stepped
      · cases stepped
      simp only [Option.some.injEq, Prod.mk.injEq, finished.injEq, Except.ok.injEq,
        Outcome.session.injEq] at stepped
      obtain ⟨rfl, rfl⟩ := stepped
      refine ⟨user.id, rfl, _, List.mem_singleton_self _, newRefreshToken world user.id expiresAt,
        ?_, rfl, rfl⟩
      exact List.mem_append_right _ (List.mem_singleton_self _)
    | scopeGet user =>
      simp only [advance] at stepped
      split at stepped <;> cases stepped
    | finished result => cases stepped
    | scopeRead | scopePut | sign | date => cases stepped
    | _ => exact spent.elim

end Phase

structure Lineage (pool : Pool (Request × Nat) World Phase) : Prop where
  rotations : Rotations pool
  sane : WellFormed pool.state
  owner : ∀ refreshToken userId userId', OwnedBy pool.seen refreshToken userId →
    OwnedBy pool.seen refreshToken userId' → userId = userId'
  generated : ∀ refreshToken userId, OwnedBy pool.seen refreshToken userId →
    refreshToken < pool.state.db.nextId
  acts : ∀ refreshToken number phase userId,
    pool.calls (.refresh refreshToken, number) = some phase → phase.actsFor = some userId →
    OwnedBy pool.seen refreshToken userId
  issues : ∀ refreshToken number session,
    pool.calls (.refresh refreshToken, number) = some (.finished (.ok (.session session))) →
    ∃ userId, OwnedBy pool.seen refreshToken userId ∧
      OwnedBy pool.seen session.refreshToken userId

theorem ownedBy_cons (seen : List World) (refreshToken userId : Nat) :
    OwnedBy (world :: seen) refreshToken userId ↔
      OwnedBy [world] refreshToken userId ∨ OwnedBy seen refreshToken userId := by
  simp [OwnedBy]

theorem idle_lineage (sane : WellFormed world) : Lineage (Pool.idle world) where
  rotations := idle_rotations world sane.issued
  sane := sane
  owner := by
    rintro refreshToken userId userId' ⟨state, member, row, stored, rfl, rfl⟩
      ⟨state', member', row', stored', same, rfl⟩
    rw [Pool.idle, Pool.seen, List.mem_singleton] at member member'
    subst member member'
    rw [sane.distinct row stored row' stored' same.symm]
  generated := by
    rintro refreshToken userId ⟨state, member, row, stored, rfl, rfl⟩
    rw [Pool.idle, Pool.seen, List.mem_singleton] at member
    subst member
    exact sane.issued row stored
  acts := by rintro refreshToken number phase userId ⟨⟩
  issues := by rintro refreshToken number session ⟨⟩

theorem owner_later (pool : Pool (Request × Nat) World Phase) (held : Lineage pool) (state : World)
    (sane : WellFormed state) (grows : pool.state.db.nextId ≤ state.db.nextId)
    (only : ∀ row ∈ state.db.refreshTokens,
      row ∈ pool.state.db.refreshTokens ∨ pool.state.db.nextId ≤ row.token) :
    (∀ refreshToken userId userId', OwnedBy (state :: pool.seen) refreshToken userId →
      OwnedBy (state :: pool.seen) refreshToken userId' → userId = userId') ∧
    ∀ refreshToken userId, OwnedBy (state :: pool.seen) refreshToken userId →
      refreshToken < state.db.nextId := by
  have generated : ∀ refreshToken userId, OwnedBy (state :: pool.seen) refreshToken userId →
      refreshToken < state.db.nextId := by
    intro refreshToken userId owned
    rcases (ownedBy_cons ..).mp owned with ⟨_, member, row, present, rfl, rfl⟩ | before
    · rw [List.mem_singleton] at member
      subst member
      exact sane.issued row present
    · have known := held.generated refreshToken userId before
      omega
  -- a token that the history knows has the owner it had
  have known : ∀ refreshToken userId userId', OwnedBy [state] refreshToken userId →
      OwnedBy pool.seen refreshToken userId' → userId = userId' := by
    rintro refreshToken userId userId' ⟨_, member, row, present, rfl, rfl⟩ before
    rw [List.mem_singleton] at member
    subst member
    rcases only row present with old | new
    · exact held.owner row.token row.userId userId'
        ⟨pool.state, List.mem_cons_self .., row, old, rfl, rfl⟩ before
    · have earlier := held.generated row.token userId' before
      omega
  refine ⟨?_, generated⟩
  intro refreshToken userId userId' owned owned'
  rcases (ownedBy_cons ..).mp owned with now | before <;>
    rcases (ownedBy_cons ..).mp owned' with now' | before'
  · obtain ⟨_, member, row, present, rfl, rfl⟩ := now
    obtain ⟨_, member', row', present', same, rfl⟩ := now'
    rw [List.mem_singleton] at member member'
    subst member member'
    rw [sane.distinct row present row' present' same.symm]
  · exact known refreshToken userId userId' now before'
  · exact (known refreshToken userId' userId now' before).symm
  · exact held.owner refreshToken userId userId' before before'

theorem lineage_step (setup : AuthSetup) (allowed : Pool (Request × Nat) World Phase →
      Request × Nat → Phase → Prop)
    (pool reached : Pool (Request × Nat) World Phase) (held : Lineage pool)
    (stepped : Pool.Step (machine setup Outside) allowed pool reached) : Lineage reached := by
  have rotations := rotations_step setup allowed pool reached held.rotations stepped
  cases stepped with
  | start call phase unused begun =>
    have begins : phase = Phase.ofRequest call.1 := begun
    subst begins
    constructor
    case rotations => exact rotations
    case sane => exact held.sane
    case owner => exact held.owner
    case generated => exact held.generated
    case acts =>
      intro refreshToken number found userId there acts
      rcases (Pool.put_eq_some ..).mp there with ⟨rfl, rfl⟩ | ⟨_, there⟩
      · cases acts
      · exact held.acts refreshToken number found userId there acts
    case issues =>
      intro refreshToken number session there
      rcases (Pool.put_eq_some ..).mp there with ⟨rfl, same⟩ | ⟨_, there⟩
      · cases same
      · exact held.issues refreshToken number session there
  | statement call phase next state running permitted advanced =>
    have effect := Phase.advance_effect setup phase next pool.state state advanced
    obtain ⟨grows, tokens⟩ := effect.tokens
    have sane := effect.wellFormed held.sane
    obtain ⟨owner, generated⟩ := owner_later pool held state sane grows
      fun row member => (tokens row member).imp id fun new => new.1
    have before : ∀ refreshToken userId, OwnedBy [pool.state] refreshToken userId →
        OwnedBy pool.seen refreshToken userId := by
      intro refreshToken userId owned
      exact (ownedBy_cons ..).mpr (.inl owned)
    constructor
    case rotations => exact rotations
    case sane => exact sane
    case owner => exact owner
    case generated => exact generated
    case acts =>
      intro refreshToken number found userId there acts
      rcases (Pool.put_eq_some ..).mp there with ⟨rfl, rfl⟩ | ⟨_, there⟩
      · have position := held.rotations.position refreshToken number phase running
        rcases Phase.actsFor_step setup refreshToken userId phase found pool.state state held.sane
          position advanced acts with acted | owned
        · exact (held.acts refreshToken number phase userId running acted).later state
        · exact (before refreshToken userId owned).later state
      · exact (held.acts refreshToken number found userId there acts).later state
    case issues =>
      intro refreshToken number session there
      rcases (Pool.put_eq_some ..).mp there with ⟨rfl, rfl⟩ | ⟨_, there⟩
      · have position := held.rotations.position refreshToken number phase running
        obtain ⟨userId, acted, owned⟩ := Phase.finished_step setup refreshToken phase session
          pool.state state position advanced
        exact ⟨userId, (held.acts refreshToken number phase userId running acted).later state,
          (ownedBy_cons ..).mpr (.inl owned)⟩
      · obtain ⟨userId, owned, owned'⟩ := held.issues refreshToken number session there
        exact ⟨userId, owned.later state, owned'.later state⟩
  | outside state moved =>
    have sane : WellFormed state := by
      constructor
      case issued =>
        intro row member
        rw [moved.refreshTokens] at member
        exact Nat.lt_of_lt_of_le (held.sane.issued row member) moved.nextId
      case distinct =>
        rw [moved.refreshTokens]
        exact held.sane.distinct
      case users =>
        intro user member
        rw [moved.users] at member
        exact Nat.lt_of_lt_of_le (held.sane.users user member) moved.nextId
      case cached =>
        intro userId copy there
        exact held.sane.cached userId copy (moved.userCache userId copy there)
    obtain ⟨owner, generated⟩ := owner_later pool held state sane moved.nextId
      fun row member => .inl (moved.refreshTokens ▸ member)
    constructor
    case rotations => exact rotations
    case sane => exact sane
    case owner => exact owner
    case generated => exact generated
    case acts =>
      intro refreshToken number found userId there acts
      exact (held.acts refreshToken number found userId there acts).later state
    case issues =>
      intro refreshToken number session there
      obtain ⟨userId, owned, owned'⟩ := held.issues refreshToken number session there
      exact ⟨userId, owned.later state, owned'.later state⟩

/-- However calls interleave, a refresh token is of one user throughout the run, and so is every
token that rotations have made of it. -/
theorem descends_keep_owner (setup : AuthSetup) (start : World) (sane : WellFormed start)
    (final : Pool (Request × Nat) World (Call Outcome))
    (run : Pool.Run (services setup Outside) Pool.anyStatement (Pool.idle start) final)
    (root userId : Nat) (owned : OwnedBy final.seen root userId) :
    ∀ refreshToken, Descends final root refreshToken →
      OwnedBy final.seen refreshToken userId ∧
        ∀ other, OwnedBy final.seen refreshToken other → other = userId := by
  obtain ⟨reached, rfl, ran⟩ := services_described setup Outside (Pool.idle start) final run
  have held := ran.invariant (lineage_step setup _) (idle_lineage start sane)
  rw [Pool.map_seen] at owned ⊢
  have kept : ∀ refreshToken, Descends (reached.map (Phase.program setup)) root refreshToken →
      OwnedBy reached.seen refreshToken userId := by
    intro refreshToken descends
    induction descends with
    | refl => exact owned
    | tail below successor ih =>
      obtain ⟨number, session, answered, rfl⟩ := successor
      have finished := finished_of_map setup reached _ _ answered
      obtain ⟨owner, before, after⟩ := held.issues _ number session finished
      have same := held.owner _ owner userId before ih
      exact same ▸ after
  intro refreshToken descends
  have own := kept refreshToken descends
  exact ⟨own, fun other theirs => held.owner refreshToken other userId theirs own⟩

theorem rotated_token_kept : ∃ refreshToken, Successor raced 5 refreshToken ∧
    ∀ other, OwnedBy raced.seen refreshToken other → other = 1 := by
  have sane : WellFormed racedWorld := by
    constructor <;> simp [racedWorld, Issued]
  have owned : OwnedBy raced.seen 5 1 :=
    ⟨racedWorld, List.mem_of_getLast? rfl, _, List.mem_singleton_self _, rfl, rfl⟩
  have rotated : ∃ refreshToken, Successor raced 5 refreshToken := ⟨_, 0, _, rfl, rfl⟩
  obtain ⟨refreshToken, successor⟩ := rotated
  exact ⟨refreshToken, successor, (descends_keep_owner plainSetup racedWorld sane raced raced_run 5 1
    owned refreshToken (.single successor)).2⟩

end HelpForge.Auth
