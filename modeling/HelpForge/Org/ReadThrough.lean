import HelpForge.Lib.ReadThrough
import HelpForge.Org.Repo

set_option autoImplicit false

namespace HelpForge.Org

open Lib
open Auth (invalidateUserPermissionSnapshot)

/-- The ticket module has the lookup of the organisation module once more. -/
def getTicketOrganizationMembership (organizationId userId : Nat) :
    Call (Option OrganizationMembership) := do
  let cachedMembership ← getCachedOrganizationMembership organizationId userId
  match cachedMembership with
  | some cachedMembership => pure (some cachedMembership)
  | none =>
    let membership ← Program.reads fun world =>
      (world.db.findMembership organizationId userId).bind world.db.withRole
    match membership with
    | some membership =>
      setCachedOrganizationMembership membership
      pure (some membership)
    | none => pure none

def changeAvailability (organizationId userId : Nat) (isAvailable : Bool) : Call Membership :=
  Program.attempt fun world =>
    match world.db.findMembership organizationId userId with
    | none => .error .recordNotFound
    | some membership =>
      .ok ({ membership with isAvailable }, world.withDb fun db =>
        { db with
          memberships := changeWhere
            (fun row => row.userId == userId && row.organizationId == organizationId)
            (fun row => { row with isAvailable }) db.memberships })

def updateAgentAvailability (organizationId userId : Nat) (isAvailable : Bool) :
    Call Membership := do
  let membership ← changeAvailability organizationId userId isAvailable
  invalidateOrganizationMembershipCache organizationId userId
  pure membership

/-- The pages of a `SCAN`: which users' keys a page returns if they are there. A key that is
there from the first page to the last is on some page. -/
structure Scan where
  pages : Nat
  returns : Nat → Nat → Bool
  page : Nat → Nat
  within : ∀ userId, page userId < pages
  returned : ∀ userId, returns (page userId) userId = true

def scanPage (scan : Scan) (orgId page : Nat) : Call (Nat → Bool) :=
  Program.reads fun world userId =>
    scan.returns page userId && (world.membershipCache orgId userId).isSome

/-- `DEL` is not sent without keys, where it would change nothing. -/
def deleteKeys (orgId : Nat) (keys : Nat → Bool) : Call Unit :=
  Program.modify fun world =>
    { world with
      membershipCache := fun org user =>
        if org = orgId ∧ keys user = true then none else world.membershipCache org user }

def deletePages (scan : Scan) (orgId : Nat) : Nat → Nat → Call Unit
  | _, 0 => pure ()
  | page, left + 1 => do
    let keys ← scanPage scan orgId page
    deleteKeys orgId keys
    deletePages scan orgId (page + 1) left

def deleteByPattern (scan : Scan) (orgId : Nat) : Call Unit := deletePages scan orgId 0 scan.pages

def withoutPages (scan : Scan) (orgId page left : Nat) (world : World) : World :=
  { world with
    membershipCache := fun org user =>
      if org = orgId ∧ ∃ other < left, scan.returns (page + other) user = true then none
      else world.membershipCache org user }

theorem run_deletePages (scan : Scan) (orgId page left : Nat) (world : World) :
    (deletePages scan orgId page left).run world =
      (.ok (), withoutPages scan orgId page left world) := by
  induction left generalizing page world with
  | zero => simp [deletePages, withoutPages]
  | succ left ih =>
    simp only [deletePages, Program.run_bind, scanPage, Program.run_reads, deleteKeys,
      Program.run_modify, ih, withoutPages, Prod.mk.injEq, true_and]
    congr 1
    funext org user
    have pages : (∃ other < left + 1, scan.returns (page + other) user = true) ↔
        scan.returns page user = true ∨
          ∃ other < left, scan.returns (page + 1 + other) user = true := by
      rw [Nat.exists_lt_succ_left]
      simp only [Nat.add_zero, Nat.add_assoc, Nat.add_comm 1]
    simp only [pages]
    by_cases own : org = orgId
    · subst own
      by_cases later : ∃ other < left, scan.returns (page + 1 + other) user = true
      · simp [later]
      · by_cases here : scan.returns page user = true
        · simp only [later, here, true_and, and_false, if_false, or_false, and_true, if_true,
            Bool.true_and]
          cases world.membershipCache org user <;> simp
        · simp [later, here]
    · simp [own]

theorem run_deleteByPattern (scan : Scan) (orgId : Nat) (world : World) :
    (deleteByPattern scan orgId).run world =
      (invalidateOrganizationMembershipCacheByOrg orgId).run world := by
  rw [deleteByPattern, run_deletePages, invalidateOrganizationMembershipCacheByOrg,
    Program.run_modify]
  have all : ∀ user, ∃ other < scan.pages, scan.returns other user = true :=
    fun user => ⟨scan.page user, scan.within user, scan.returned user⟩
  simp [withoutPages, World.dropOrganizationMemberships, all]

namespace Scanning

variable (scan : Scan)

def updateOrgRole (roleId : Nat) (updates : RoleUpdates) : Call OrgRole := do
  let (role, userIds) ← Program.transaction do
    let role ← changeOrgRole roleId updates
    let userIds ← getOrganizationMemberUserIds role.organizationId
    pure (role, userIds)
  deleteByPattern scan role.organizationId
  invalidateUserPermissionSnapshots userIds
  pure role

def deleteRows (orgId : Nat) : Call (Organization × List Nat) := do
  let userIds ← getOrganizationMemberUserIds orgId
  deleteMembershipsOf orgId
  deleteOrgRolesOf orgId
  let deletedOrganization ← deleteOrganizationRow orgId
  pure (deletedOrganization, userIds)

def deleteOrganization (orgId : Nat) : Call Organization := do
  let (deletedOrganization, userIds) ←
    (Program.transaction (deleteRows orgId)).ensuring (deleteByPattern scan orgId)
  invalidateUserPermissionSnapshots userIds
  pure deletedOrganization

theorem run_updateOrgRole (roleId : Nat) (updates : RoleUpdates) (world : World) :
    (updateOrgRole scan roleId updates).run world = (Org.updateOrgRole roleId updates).run world := by
  simp only [updateOrgRole, Org.updateOrgRole, Program.run_bind, run_deleteByPattern]

theorem run_deleteOrganization (orgId : Nat) (world : World) :
    (deleteOrganization scan orgId).run world = (Org.deleteOrganization orgId).run world := by
  simp only [deleteOrganization, Org.deleteOrganization, deleteRows, Program.ensuring,
    Program.run_bind, Program.run_recover, run_deleteByPattern]

end Scanning

structure MembershipView where
  roleId : Nat
  roleName : String
  level : Int
  permissions : List Permission
  isAvailable : Bool
  deriving DecidableEq, Repr

def viewOf (copy : OrganizationMembership) : MembershipView where
  roleId := copy.roleId
  roleName := copy.role.name
  level := copy.role.level
  permissions := copy.role.permissions
  isAvailable := copy.isAvailable

def storedView (db : Database) (orgId userId : Nat) : Option MembershipView :=
  ((db.findMembership orgId userId).bind db.withRole).map viewOf

/-- A copy in the cache, if there is one, says what the database row says. -/
def cachedMembership (orgId userId : Nat) :
    Cached World Database (Option OrganizationMembership) where
  base := World.db
  entry world := world.membershipCache orgId userId
  Agrees db entry := ∀ copy, entry = some copy → storedView db orgId userId = some (viewOf copy)

@[simp] theorem cachedMembership_base (orgId userId : Nat) :
    (cachedMembership orgId userId).base = World.db := rfl

inductive MembershipReader where
  | getOrganizationMembershipByUserId
  | getUserMembershipInOrganization
  | getTicketOrganizationMembership
  deriving DecidableEq, Repr

def MembershipReader.lookup (orgId userId : Nat) :
    MembershipReader → Call (Option OrganizationMembership)
  | getOrganizationMembershipByUserId => Org.getOrganizationMembershipByUserId orgId userId
  | getUserMembershipInOrganization => Org.getUserMembershipInOrganization orgId userId
  | getTicketOrganizationMembership => Org.getTicketOrganizationMembership orgId userId

inductive MembershipWriter where
  | inviteMemberInOrganization (orgId userId roleId : Nat)
  | updateMembershipRole (orgId userId roleId : Nat)
  | updateOrgRole (roleId : Nat) (updates : RoleUpdates)
  | deleteOrganization (orgId : Nat)
  | updateAgentAvailability (orgId userId : Nat) (isAvailable : Bool)
  deriving DecidableEq, Repr

def MembershipWriter.change (scan : Scan) : MembershipWriter → Call Unit
  | inviteMemberInOrganization orgId userId roleId => do
    let _ ← Org.inviteMemberInOrganization orgId userId roleId
    pure ()
  | updateMembershipRole orgId userId roleId => do
    let _ ← Org.updateMembershipRole orgId userId roleId
    pure ()
  | updateOrgRole roleId updates => do
    let _ ← Scanning.updateOrgRole scan roleId updates
    pure ()
  | deleteOrganization orgId => do
    let _ ← Scanning.deleteOrganization scan orgId
    pure ()
  | updateAgentAvailability orgId userId isAvailable => do
    let _ ← Org.updateAgentAvailability orgId userId isAvailable
    pure ()

def twoCalls (scan : Scan) (reader : MembershipReader) (orgId userId : Nat)
    (writer : MembershipWriter) : Party → Call Unit
  | .reader => do
    let _ ← reader.lookup orgId userId
    pure ()
  | .writer => writer.change scan

/-- The turn of the writer from which on it does not mend the copy any more: its statement on
the database is the first turn, the page `n` of a `SCAN` is read in turn `2 * n + 2`. -/
def MembershipWriter.lastMending (scan : Scan) (db : Database) (orgId userId : Nat) :
    MembershipWriter → Nat
  | inviteMemberInOrganization _ _ _ => 0
  | updateMembershipRole org user _ | updateAgentAvailability org user _ =>
    if org = orgId ∧ user = userId then 2 else 0
  | updateOrgRole roleId _ =>
    if (db.findOrgRole roleId).map OrgRole.organizationId = some orgId then
      2 * scan.page userId + 2
    else 0
  | deleteOrganization org => if org = orgId then 2 * scan.page userId + 2 else 0

theorem findMembership_key (db : Database) (orgId userId : Nat) (membership : Membership)
    (found : db.findMembership orgId userId = some membership) :
    membership.organizationId = orgId ∧ membership.userId = userId :=
  (Database.findMembership_mem db orgId userId membership found).2.symm

section Reader

variable {orgId userId : Nat}

theorem holding_put (db : Database) (org user : Nat) (copy : OrganizationMembership)
    (rest : Unit → Call Unit) (finishes : ∃ result, rest () = .done result)
    (key : copy.organizationId = org ∧ copy.userId = user)
    (read : storedView db org user = some (viewOf copy)) :
    ∃ value, (cachedMembership orgId userId).Agrees db value ∧
      (cachedMembership orgId userId).Holding value
        (setCachedOrganizationMembership copy >>= rest) := by
  by_cases own : orgId = org ∧ userId = user
  · obtain ⟨rfl, rfl⟩ := own
    refine ⟨some copy, ?_, fun world => ⟨rfl, .inl ?_, finishes⟩⟩
    · rintro _ ⟨⟩
      exact read
    · simp [cachedMembership, World.putMembership, key.1, key.2]
  · refine ⟨none, nofun, fun world => ⟨rfl, .inr ?_, finishes⟩⟩
    simp [cachedMembership, World.putMembership, key.1, key.2, own]

theorem looking_lookup (org user : Nat) (read : Database → Option OrganizationMembership)
    (reads : ∀ db copy, read db = some copy →
      (copy.organizationId = org ∧ copy.userId = user) ∧
        storedView db org user = some (viewOf copy)) :
    (cachedMembership orgId userId).Looking
      ((do
        let membership ← Program.reads fun world => read world.db
        match membership with
        | some membership =>
          setCachedOrganizationMembership membership
          pure (some membership)
        | none => pure none : Call (Option OrganizationMembership)) >>= fun _ => pure ()) := by
  intro world
  refine ⟨rfl, ?_⟩
  cases found : read world.db with
  | none =>
    refine .inl ⟨.ok (), ?_⟩
    simp only [found]
    rfl
  | some copy =>
    obtain ⟨key, shown⟩ := reads world.db copy found
    obtain ⟨value, agrees, holding⟩ :=
      @holding_put orgId userId world.db org user copy (fun _ => pure ()) ⟨_, rfl⟩ key shown
    refine .inr ⟨value, agrees, ?_⟩
    simp only [found]
    exact holding

theorem reads_withRole (org user : Nat) (db : Database) (copy : OrganizationMembership)
    (read : (db.findMembership org user).bind db.withRole = some copy) :
    (copy.organizationId = org ∧ copy.userId = user) ∧
      storedView db org user = some (viewOf copy) := by
  refine ⟨?_, by rw [storedView, read]; rfl⟩
  obtain ⟨membership, found, joined⟩ := Option.bind_eq_some_iff.mp read
  obtain ⟨role, -, rfl⟩ := Option.map_eq_some_iff.mp joined
  exact findMembership_key db org user membership found

theorem reads_withRoleAndOrganization (org user : Nat) (db : Database)
    (copy : OrganizationMembership)
    (read : (db.findMembership org user).bind db.withRoleAndOrganization = some copy) :
    (copy.organizationId = org ∧ copy.userId = user) ∧
      storedView db org user = some (viewOf copy) := by
  obtain ⟨membership, found, joined⟩ := Option.bind_eq_some_iff.mp read
  obtain ⟨plain, withRole, joined⟩ := Option.bind_eq_some_iff.mp joined
  obtain ⟨organization, -, rfl⟩ := Option.map_eq_some_iff.mp joined
  have same : (db.findMembership org user).bind db.withRole = some plain := by
    rw [found]
    exact withRole
  exact reads_withRole org user db plain same

theorem getting_lookup (scan : Scan) (reader : MembershipReader) (org user : Nat)
    (writer : MembershipWriter) :
    (cachedMembership orgId userId).Getting (twoCalls scan reader org user writer .reader) := by
  cases reader with
  | getOrganizationMembershipByUserId =>
    intro world
    refine ⟨rfl, ?_⟩
    cases cached : world.membershipCache org user with
    | some copy =>
      simp only [cached]
      trivial
    | none =>
      simp only [cached]
      exact looking_lookup org user _ (reads_withRole org user)
  | getTicketOrganizationMembership =>
    intro world
    refine ⟨rfl, ?_⟩
    cases cached : world.membershipCache org user with
    | some copy =>
      simp only [cached]
      trivial
    | none =>
      simp only [cached]
      exact looking_lookup org user _ (reads_withRole org user)
  | getUserMembershipInOrganization =>
    intro world
    refine ⟨rfl, ?_⟩
    have got (rest : Option OrganizationMembership → Call (Option OrganizationMembership)) :
        Program.bind (pure (world.membershipCache org user)) rest =
          rest (world.membershipCache org user) := rfl
    simp only [got]
    cases cached : (world.membershipCache org user).filter (·.organization.isSome) with
    | some copy => trivial
    | none =>
      exact looking_lookup org user _ (reads_withRoleAndOrganization org user)

theorem gentle_lookup (org user : Nat) (read : Database → Option OrganizationMembership)
    (other : ¬(orgId = org ∧ userId = user))
    (key : ∀ db copy, read db = some copy → copy.organizationId = org ∧ copy.userId = user) :
    (cachedMembership orgId userId).Gentle (fun _ => True)
      ((do
        let membership ← Program.reads fun world => read world.db
        match membership with
        | some membership =>
          setCachedOrganizationMembership membership
          pure (some membership)
        | none => pure none : Call (Option OrganizationMembership)) >>= fun _ => pure ()) := by
  intro world _
  refine ⟨.refl world, ?_⟩
  cases found : read world.db with
  | none =>
    simp only [found]
    trivial
  | some copy =>
    obtain ⟨organization, member⟩ := key world.db copy found
    simp only [found]
    intro later _
    refine ⟨⟨rfl, .inl ?_⟩, trivial⟩
    simp [cachedMembership, World.putMembership, organization, member, other]

theorem gentle_other (scan : Scan) (reader : MembershipReader) (org user : Nat)
    (writer : MembershipWriter) (other : ¬(orgId = org ∧ userId = user)) :
    (cachedMembership orgId userId).Gentle (fun _ => True)
      (twoCalls scan reader org user writer .reader) := by
  have plain := gentle_lookup org user (fun db => (db.findMembership org user).bind db.withRole)
    other fun db copy read => (reads_withRole org user db copy read).1
  have joined := gentle_lookup org user
    (fun db => (db.findMembership org user).bind db.withRoleAndOrganization)
    other fun db copy read => (reads_withRoleAndOrganization org user db copy read).1
  cases reader with
  | getOrganizationMembershipByUserId =>
    intro world _
    refine ⟨.refl world, ?_⟩
    cases cached : world.membershipCache org user with
    | some copy =>
      simp only [cached]
      trivial
    | none =>
      simp only [cached]
      exact plain
  | getTicketOrganizationMembership =>
    intro world _
    refine ⟨.refl world, ?_⟩
    cases cached : world.membershipCache org user with
    | some copy =>
      simp only [cached]
      trivial
    | none =>
      simp only [cached]
      exact plain
  | getUserMembershipInOrganization =>
    intro world _
    refine ⟨.refl world, ?_⟩
    have got (rest : Option OrganizationMembership → Call (Option OrganizationMembership)) :
        Program.bind (pure (world.membershipCache org user)) rest =
          rest (world.membershipCache org user) := rfl
    simp only [got]
    cases cached : (world.membershipCache org user).filter (·.organization.isSome) with
    | some copy => trivial
    | none => exact joined

end Reader

section Cache

variable {orgId userId : Nat} {stored : Database} {α : Type}

theorem agrees_of_kept {db : Database}
    (kept : ∀ view, storedView stored orgId userId = some view →
      storedView db orgId userId = some view) (value : Option OrganizationMembership)
    (agrees : (cachedMembership orgId userId).Agrees stored value) :
    (cachedMembership orgId userId).Agrees db value :=
  fun copy held => kept _ (agrees copy held)

theorem since_dropped {world later : World} (db : later.db = world.db)
    (entry : later.membershipCache orgId userId = none ∨
      later.membershipCache orgId userId = world.membershipCache orgId userId) :
    (cachedMembership orgId userId).Since world later := by
  refine ⟨db, ?_⟩
  rcases entry with gone | same
  · refine .inr fun copy there => ?_
    exact nomatch gone.symm.trans there
  · exact .inl same

theorem gentle_put (copy : OrganizationMembership)
    (shown : copy.organizationId = orgId → copy.userId = userId →
      storedView stored orgId userId = some (viewOf copy)) :
    (cachedMembership orgId userId).Gentle (· = stored) (setCachedOrganizationMembership copy) := by
  refine .modify ?_
  rintro world rfl
  by_cases own : orgId = copy.organizationId ∧ userId = copy.userId
  · refine ⟨rfl, .inr ?_⟩
    intro other there
    simp only [cachedMembership, World.putMembership, own, and_self, if_true,
      Option.some.injEq] at there
    subst there
    exact shown own.1.symm own.2.symm
  · refine ⟨rfl, .inl ?_⟩
    simp [cachedMembership, World.putMembership, own]

theorem gentle_invalidate (org user : Nat) :
    (cachedMembership orgId userId).Gentle (· = stored)
      (invalidateOrganizationMembershipCache org user) := by
  refine .modify fun world _ => since_dropped rfl ?_
  simp only [World.dropMembership]
  split
  · exact .inl rfl
  · exact .inr rfl

theorem gentle_snapshot (user : Nat) :
    (cachedMembership orgId userId).Gentle (· = stored) (invalidateUserPermissionSnapshot user) :=
  .modify fun _ _ => since_dropped rfl (.inr rfl)

theorem gentle_snapshots (users : List Nat) :
    (cachedMembership orgId userId).Gentle (· = stored) (invalidateUserPermissionSnapshots users) :=
  Cached.Gentle.bind (.mapM fun user _ => gentle_snapshot user) fun _ => .pure ()

theorem since_deleteKeys (org : Nat) (keys : Nat → Bool) (world : World) :
    (cachedMembership orgId userId).Since world
      { world with
        membershipCache := fun org' user =>
          if org' = org ∧ keys user = true then none else world.membershipCache org' user } := by
  refine since_dropped rfl ?_
  dsimp only
  split
  · exact .inl rfl
  · exact .inr rfl

theorem gentle_deletePages (scan : Scan) (org page left : Nat) :
    (cachedMembership orgId userId).Gentle (· = stored) (deletePages scan org page left) := by
  induction left generalizing page with
  | zero => exact .pure ()
  | succ left ih =>
    refine Cached.Gentle.bind (.reads _) fun keys => ?_
    refine Cached.Gentle.bind (.modify fun world _ => since_deleteKeys org keys world) fun _ => ?_
    exact ih (page + 1)

theorem heals_deletePages (scan : Scan) (page left : Nat) (before : page ≤ scan.page userId)
    (after : scan.page userId < page + left) (rest : Unit → Call α)
    (gentle : (cachedMembership orgId userId).Gentle (· = stored) (rest ())) :
    (cachedMembership orgId userId).HealsAll stored
      (deletePages scan orgId page left >>= rest) := by
  -- The page that returns the key is still to come: the copy is gone in the end, or came after
  -- that and agrees.
  induction left generalizing page with
  | zero => omega
  | succ left ih =>
    intro world base scanned since
    refine ⟨.refl scanned, fun latest since' => ?_⟩
    have base' : latest.db = stored := since'.1.trans (since.1.trans base)
    refine ⟨since_deleteKeys orgId _ latest, ?_⟩
    by_cases here : scan.page userId = page
    · refine Cached.Gentle.heals
        (Cached.Gentle.bind (gentle_deletePages scan orgId (page + 1) left) fun _ => gentle) base' ?_
      have returned := scan.returned userId
      rw [here] at returned
      intro copy there
      simp only [cachedMembership, returned, Bool.true_and, true_and] at there
      split_ifs at there with found
      rcases since'.2 with same | fresh
      · have same : latest.membershipCache orgId userId = scanned.membershipCache orgId userId :=
          same
        rw [← same, there] at found
        exact absurd rfl found
      · exact fresh copy there
    · exact ih (page + 1) (by omega) (by omega) _ base'

theorem stubborn_deletePages (scan : Scan) (page left : Nat) (before : page ≤ scan.page userId)
    (after : scan.page userId < page + left) (rest : Unit → Call α)
    (gentle : (cachedMembership orgId userId).Gentle (· = stored) (rest ())) :
    (cachedMembership orgId userId).Stubborn stored (2 * (scan.page userId - page) + 1)
      (deletePages scan orgId page left >>= rest) := by
  -- A page takes two turns, and until that of the key is read the copy may still be put.
  induction left generalizing page with
  | zero => omega
  | succ left ih =>
    have heals := heals_deletePages scan page (left + 1) before after rest gentle
    refine ⟨heals, fun scanned base => ?_⟩
    by_cases here : scan.page userId = page
    · rw [here, Nat.sub_self]
      trivial
    · have later := ih (page + 1) (by omega) (by omega)
      rw [show 2 * (scan.page userId - page) = 2 * (scan.page userId - (page + 1)) + 1 + 1 by omega]
      refine ⟨?_, fun _ _ => later⟩
      intro world base later since
      refine ⟨since_deleteKeys orgId _ later, ?_⟩
      exact heals_deletePages scan (page + 1) left (by omega) (by omega) rest gentle _
        (since.1.trans base)

end Cache

section Stores

variable {orgId userId : Nat} {stored : Database} (db : Database)

theorem storedView_eq (view : MembershipView) :
    storedView db orgId userId = some view ↔
      ∃ row role, db.findMembership orgId userId = some row ∧
        db.findOrgRole row.roleId = some role ∧
          viewOf { toMembership := row, role } = view := by
  unfold storedView Database.withRole
  simp only [Option.map_eq_some_iff, Option.bind_eq_some_iff]
  constructor
  · rintro ⟨_, ⟨row, found, role, there, rfl⟩, rfl⟩
    exact ⟨row, role, found, there, rfl⟩
  · rintro ⟨row, role, found, there, rfl⟩
    exact ⟨_, ⟨row, found, role, there, rfl⟩, rfl⟩

theorem findMembership_changed (db : Database) (org user : Nat) (change : Membership → Membership)
    (same : ∀ row, (change row).userId = row.userId ∧
      (change row).organizationId = row.organizationId) :
    Database.findMembership
        { db with
          memberships := changeWhere
            (fun row => row.userId == user && row.organizationId == org) change db.memberships }
        orgId userId =
      (db.findMembership orgId userId).map fun row =>
        if row.userId == user && row.organizationId == org then change row else row := by
  unfold Database.findMembership
  exact find?_changeWhere _ fun row => by rw [(same row).1, (same row).2]

theorem kept_changed (org user : Nat) (change : Membership → Membership)
    (same : ∀ row, (change row).userId = row.userId ∧
      (change row).organizationId = row.organizationId)
    (other : ¬(org = orgId ∧ user = userId)) (view : MembershipView)
    (shown : storedView stored orgId userId = some view) :
    storedView
        { stored with
          memberships := changeWhere
            (fun row => row.userId == user && row.organizationId == org) change stored.memberships }
        orgId userId = some view := by
  obtain ⟨row, role, found, there, rfl⟩ := (storedView_eq stored view).mp shown
  refine (storedView_eq _ _).mpr ⟨row, role, ?_, there, rfl⟩
  rw [findMembership_changed stored org user change same, found]
  obtain ⟨organization, member⟩ := findMembership_key stored orgId userId row found
  have miss : (row.userId == user && row.organizationId == org) = false := by
    rw [organization, member]
    simp only [Bool.and_eq_false_iff, beq_eq_false_iff_ne]
    by_contra both
    push Not at both
    exact other ⟨both.2.symm, both.1.symm⟩
  simp only [Option.map_some, miss, Bool.false_eq_true, if_false]

theorem findMembership_inserted (added : Membership) :
    (db.insertMembership added).findMembership orgId userId =
      (db.findMembership orgId userId).or
        (if added.userId == userId && added.organizationId == orgId then some added else none) := by
  unfold Database.findMembership Database.insertMembership
  rw [List.find?_append, List.find?_singleton]

theorem invite_writes (org user roleId : Nat) :
    (cachedMembership orgId userId).Writes stored 0
      (inviteMemberInOrganization org user roleId >>= fun _ => pure ()) := by
  -- An invitation finds no row, so that nobody can hold an outdated copy.
  unfold inviteMemberInOrganization
  rw [Program.bind_assoc]
  refine .attempt ?_
  rintro world copy reached rfl outcome
  split_ifs at outcome with taken missing
  cases found : world.db.findOrgRole roleId with
  | none => simp [found] at outcome
  | some role =>
    rw [found] at outcome
    cases outcome
    refine ⟨rfl, .inl ⟨agrees_of_kept ?_, ?_⟩⟩
    · intro view shown
      obtain ⟨row, role', present, there, rfl⟩ := (storedView_eq _ view).mp shown
      refine (storedView_eq _ _).mpr ⟨row, role', ?_, there, rfl⟩
      rw [cachedMembership_base] at present
      exact (findMembership_inserted _ _).trans (by rw [present]; rfl)
    · refine Cached.Gentle.bind (.bind (gentle_put _ ?_) fun _ => ?_) fun _ => .pure ()
      · rintro rfl rfl
        refine (storedView_eq _ _).mpr ⟨newMembership world org user roleId, role, ?_, found, rfl⟩
        refine (findMembership_inserted _ _).trans ?_
        have absent : world.db.findMembership org user = none := by simpa using taken
        simp [newMembership, absent]
      · exact .bind (gentle_snapshot user) fun _ => .pure _

theorem updateMembershipRole_writes (org user roleId : Nat) :
    (cachedMembership orgId userId).Writes stored
      (if org = orgId ∧ user = userId then 2 else 0)
      (updateMembershipRole org user roleId >>= fun _ => pure ()) := by
  unfold updateMembershipRole
  rw [Program.bind_assoc]
  refine .attempt ?_
  rintro world copy reached rfl outcome
  cases member : world.db.findMembership org user with
  | none => simp [member] at outcome
  | some membership =>
    cases found : world.db.findOrgRole roleId with
    | none => simp [member, found] at outcome
    | some role =>
      simp only [member, found, Except.ok.injEq, Prod.mk.injEq] at outcome
      obtain ⟨rfl, rfl⟩ := outcome
      obtain ⟨organization, owner⟩ := findMembership_key world.db org user membership member
      have gentle (db : Database) : (cachedMembership orgId userId).Gentle (· = db)
          ((invalidateUserPermissionSnapshot user >>= fun _ =>
            pure ({ toMembership := { membership with roleId }, role } :
              OrganizationMembership)) >>= fun _ => pure ()) :=
        .bind (.bind (gentle_snapshot user) fun _ => .pure _) fun _ => .pure ()
      refine ⟨rfl, ?_⟩
      by_cases own : org = orgId ∧ user = userId
      · obtain ⟨rfl, rfl⟩ := own
        simp only [and_self, if_true]
        refine .inr ⟨le_rfl, .one ?_⟩
        rw [Program.bind_assoc]
        refine Cached.HealsAll.modify ?_ (gentle _)
        intro later base
        refine ⟨base, fun copy there => ?_⟩
        simp only [cachedMembership, World.putMembership, organization, owner, and_self,
          if_true, Option.some.injEq] at there
        subst there
        rw [cachedMembership_base] at base ⊢
        rw [World.putMembership_db, base]
        refine (storedView_eq _ _).mpr ⟨{ membership with roleId }, role, ?_, found, rfl⟩
        have changed := @findMembership_changed org user world.db org user
          (fun row => { row with roleId }) fun _ => ⟨rfl, rfl⟩
        rw [member] at changed
        refine changed.trans ?_
        simp [organization, owner]
      · simp only [own, if_false]
        refine .inl ⟨agrees_of_kept
          (kept_changed org user (fun row => { row with roleId }) (fun _ => ⟨rfl, rfl⟩) own), ?_⟩
        refine Cached.Gentle.bind (.bind (gentle_put _ ?_) fun _ => ?_) fun _ => .pure ()
        · intro org' user'
          exact absurd ⟨organization.symm.trans org', owner.symm.trans user'⟩ own
        · exact .bind (gentle_snapshot user) fun _ => .pure _

theorem updateAgentAvailability_writes (org user : Nat) (isAvailable : Bool) :
    (cachedMembership orgId userId).Writes stored
      (if org = orgId ∧ user = userId then 2 else 0)
      (updateAgentAvailability org user isAvailable >>= fun _ => pure ()) := by
  unfold updateAgentAvailability
  rw [Program.bind_assoc]
  refine .attempt ?_
  rintro world membership reached rfl outcome
  cases member : world.db.findMembership org user with
  | none => simp [member] at outcome
  | some row =>
    simp only [member, Except.ok.injEq, Prod.mk.injEq] at outcome
    obtain ⟨rfl, rfl⟩ := outcome
    refine ⟨rfl, ?_⟩
    by_cases own : org = orgId ∧ user = userId
    · obtain ⟨rfl, rfl⟩ := own
      simp only [and_self, if_true]
      refine .inr ⟨le_rfl, .one ?_⟩
      rw [Program.bind_assoc]
      refine Cached.HealsAll.modify ?_ (.bind (.pure _) fun _ => .pure ())
      intro later base
      refine ⟨base, fun copy there => ?_⟩
      simp [cachedMembership, World.dropMembership] at there
    · simp only [own, if_false]
      refine .inl ⟨agrees_of_kept
        (kept_changed org user (fun row => { row with isAvailable }) (fun _ => ⟨rfl, rfl⟩) own), ?_⟩
      exact .bind (.bind (gentle_invalidate org user) fun _ => .pure _) fun _ => .pure ()

def RolesHeld (db : Database) : Prop :=
  -- A role of an organisation is the role of its own memberships.
  ∀ membership ∈ db.memberships, ∀ role, db.findOrgRole membership.roleId = some role →
    role.organizationId = membership.organizationId

theorem kept_roles {db : Database} (memberships : db.memberships = stored.memberships)
    (roles : ∀ row role, stored.findMembership orgId userId = some row →
      stored.findOrgRole row.roleId = some role → db.findOrgRole row.roleId = some role)
    (view : MembershipView) (shown : storedView stored orgId userId = some view) :
    storedView db orgId userId = some view := by
  obtain ⟨row, role, found, there, rfl⟩ := (storedView_eq stored view).mp shown
  refine (storedView_eq _ _).mpr ⟨row, role, ?_, roles row role found there, rfl⟩
  unfold Database.findMembership at found ⊢
  rw [memberships, found]

theorem findOrgRole_updated (roleId id : Nat) (change : OrgRole → OrgRole)
    (same : ∀ role, (change role).id = role.id) (other : id ≠ roleId) :
    Database.findOrgRole
        { db with orgRoles := changeWhere (·.id == roleId) change db.orgRoles } id =
      db.findOrgRole id := by
  unfold Database.findOrgRole
  rw [find?_changeWhere _ fun role => by rw [same role]]
  cases found : db.orgRoles.find? (·.id == id) with
  | none => rfl
  | some role =>
    have identified : role.id = id := by simpa using List.find?_some found
    simp [identified, other]

variable (scan : Scan)

theorem updateOrgRole_writes (roleId : Nat) (updates : RoleUpdates) (held : RolesHeld stored) :
    (cachedMembership orgId userId).Writes stored
      (if (stored.findOrgRole roleId).map OrgRole.organizationId = some orgId then
        2 * scan.page userId + 2
      else 0)
      (Scanning.updateOrgRole scan roleId updates >>= fun _ => pure ()) := by
  unfold Scanning.updateOrgRole
  rw [Program.bind_assoc]
  refine .transaction ?_
  rintro world rfl
  rw [Program.wp_bind]
  refine changeOrgRole_wp _ _ _ _ ?_ fun _ => nofun
  intro role found
  unfold getOrganizationMemberUserIds
  dsimp only
  rw [Program.wp_reads_bind, Program.wp_pure]
  rintro _ ⟨⟩
  refine ⟨rfl, ?_⟩
  have gentle (db : Database) (users : List Nat) :
      (cachedMembership orgId userId).Gentle (· = db)
        ((invalidateUserPermissionSnapshots users >>= fun _ =>
          pure (applyUpdates updates world.now role)) >>= fun _ => pure ()) :=
    .bind (.bind (gentle_snapshots users) fun _ => .pure _) fun _ => .pure ()
  rw [cachedMembership_base, found]
  by_cases own : role.organizationId = orgId
  · subst own
    simp only [Option.map_some, if_true]
    refine .inr ⟨by omega, ?_⟩
    rw [Program.bind_assoc]
    have within : scan.page userId < 0 + scan.pages := by
      rw [Nat.zero_add]
      exact scan.within userId
    exact @stubborn_deletePages role.organizationId userId _ _ scan 0 scan.pages
      (Nat.zero_le _) within _ (gentle _ _)
  · simp only [Option.map_some, Option.some.injEq, own, if_false]
    refine .inl ⟨agrees_of_kept (kept_roles rfl ?_), ?_⟩
    · intro row other member there
      have place := held row (Database.findMembership_mem _ _ _ _ member).1 other there
      obtain ⟨here, -⟩ := findMembership_key _ _ _ row member
      refine (findOrgRole_updated world.db roleId row.roleId (applyUpdates updates world.now)
        (fun _ => rfl) ?_).trans there
      intro same
      rw [same] at there
      obtain rfl := Option.some.inj (there.symm.trans found)
      exact own (place.trans here)
    · rw [Program.bind_assoc]
      exact (gentle_deletePages scan _ _ _).bind fun _ => gentle _ _

theorem deleteOrganization_writes (org : Nat) (held : RolesHeld stored) :
    (cachedMembership orgId userId).Writes stored
      (if org = orgId then 2 * scan.page userId + 2 else 0)
      (Scanning.deleteOrganization scan org >>= fun _ => pure ()) := by
  unfold Scanning.deleteOrganization
  rw [Program.bind_assoc]
  refine .ensuring ?_ (gentle_deletePages scan org _ _)
  rintro world rfl
  unfold Scanning.deleteRows getOrganizationMemberUserIds deleteMembershipsOf
  rw [Program.wp_reads_bind, Program.wp_modify_bind, Program.wp_bind]
  refine deleteOrgRolesOf_wp _ _ _ ?_ fun _ => nofun
  dsimp only
  rw [Program.wp_bind]
  refine deleteOrganizationRow_wp _ _ _ ?_ fun _ => nofun
  rintro organization - - _ ⟨⟩
  refine ⟨rfl, ?_⟩
  have gentle (db : Database) (users : List Nat) :
      (cachedMembership orgId userId).Gentle (· = db)
        ((invalidateUserPermissionSnapshots users >>= fun _ => pure organization) >>= fun _ =>
          pure ()) :=
    .bind (.bind (gentle_snapshots users) fun _ => .pure _) fun _ => .pure ()
  by_cases own : org = orgId
  · subst own
    simp only [if_true]
    refine .inr ⟨by omega, ?_⟩
    have within : scan.page userId < 0 + scan.pages := by
      rw [Nat.zero_add]
      exact scan.within userId
    exact @stubborn_deletePages org userId _ _ scan 0 scan.pages (Nat.zero_le _) within _
      (gentle _ _)
  · simp only [own, if_false]
    refine .inl ⟨agrees_of_kept ?_, (gentle_deletePages scan _ _ _).bind fun _ => gentle _ _⟩
    intro view shown
    obtain ⟨row, role, found, there, rfl⟩ := (storedView_eq _ view).mp shown
    obtain ⟨here, -⟩ := findMembership_key _ _ _ row found
    have place : role.organizationId = orgId :=
      (held row (Database.findMembership_mem _ _ _ _ found).1 role there).trans here
    have row_kept : (row.organizationId != org) = true := by
      simpa [here] using Ne.symm own
    have role_kept : (role.organizationId != org) = true := by
      simpa [place] using Ne.symm own
    refine (storedView_eq _ _).mpr ⟨row, role, ?_, ?_, rfl⟩
    · exact find?_filter_of_kept _ _ _ row found row_kept
    · apply find?_filter_of_kept _ _ _ role ?_ role_kept
      exact find?_filter_of_kept _ _ _ role there role_kept

theorem change_writes (writer : MembershipWriter) (held : RolesHeld stored) :
    (cachedMembership orgId userId).Writes stored
      (writer.lastMending scan stored orgId userId) (writer.change scan) := by
  cases writer with
  | inviteMemberInOrganization org user roleId => exact invite_writes org user roleId
  | updateMembershipRole org user roleId => exact updateMembershipRole_writes org user roleId
  | updateOrgRole roleId updates => exact updateOrgRole_writes scan roleId updates held
  | deleteOrganization org => exact deleteOrganization_writes scan org held
  | updateAgentAvailability org user isAvailable =>
    exact updateAgentAvailability_writes org user isAvailable

end Stores

def CopiesAgree (world : World) : Prop :=
  ∀ orgId userId, (cachedMembership orgId userId).Fresh world

/-- A lookup and a writer leave no outdated copy, whatever copy one has: the lookup reads the
row after the writer has stored, or puts its copy before the writer mends it. -/
theorem copies_agree_when_timely (scan : Scan) (reader : MembershipReader) (orgId userId : Nat)
    (writer : MembershipWriter) (world : World) (schedule : List Party)
    (agree : CopiesAgree world) (held : RolesHeld world.db)
    (timely : Cached.Timely (writer.lastMending scan world.db orgId userId) schedule)
    (completed : ∀ party, ∃ result,
      (takeTurns (twoCalls scan reader orgId userId writer) schedule world).calls party =
        some (.done result)) :
    CopiesAgree (takeTurns (twoCalls scan reader orgId userId writer) schedule world).state := by
  intro org user
  refine Cached.fresh_takeTurns _ schedule world (writer.lastMending scan world.db org user)
    ?_ (change_writes scan writer held) (agree org user) completed
  by_cases own : org = orgId ∧ user = userId
  · obtain ⟨rfl, rfl⟩ := own
    exact .inl ⟨getting_lookup scan reader org user writer, timely⟩
  · exact .inr (gentle_other scan reader orgId userId writer own)

def deskWorld : World :=
  { db :=
      { users := [{ id := 1, email := "ada@example.com", password := "secret" }]
        organizations := [{ id := 4, name := "Acme" }]
        orgRoles :=
          [{ id := 7, name := "ADMIN", organizationId := 4, permissions := [.orgUpdate], level := 75 },
            { id := 8, name := "MEMBER", organizationId := 4, permissions := [], level := 10 }]
        memberships := [{ id := 9, userId := 1, organizationId := 4, roleId := 7 }]
        nextId := 10 } }

theorem deskWorld_agrees : CopiesAgree deskWorld := fun _ _ => nofun

theorem deskWorld_held : RolesHeld deskWorld.db := by
  intro membership member role found
  simp only [deskWorld, List.mem_singleton] at member
  subst member
  cases found
  rfl

def onePage : Scan where
  pages := 1
  returns _ _ := true
  page _ := 0
  within _ := Nat.zero_lt_one
  returned _ := rfl

/-- The copy is put between the statement of the writer and its `DEL`. -/
theorem absent_agent_not_cached_available :
    CopiesAgree (takeTurns
      (twoCalls onePage .getTicketOrganizationMembership 4 1 (.updateAgentAvailability 4 1 false))
      [.reader, .reader, .writer, .reader, .writer] deskWorld).state := by
  refine copies_agree_when_timely onePage .getTicketOrganizationMembership 4 1
    (.updateAgentAvailability 4 1 false) deskWorld _ deskWorld_agrees deskWorld_held ?_ ?_
  · exact .inr (.inr (by decide))
  · rintro (_ | _)
    · exact ⟨_, rfl⟩
    · exact ⟨_, rfl⟩

/-- The row is read before the writer stores, and the copy is put after the writer has put its
own: an administrator is demoted, and the cache says otherwise. -/
theorem demoted_admin_cached :
    ¬ ∀ (scan : Scan) (reader : MembershipReader) (orgId userId : Nat) (writer : MembershipWriter)
      (world : World) (schedule : List Party), CopiesAgree world → RolesHeld world.db →
      (∀ party, ∃ result,
        (takeTurns (twoCalls scan reader orgId userId writer) schedule world).calls party =
          some (.done result)) →
      (cachedMembership orgId userId).Fresh
        (takeTurns (twoCalls scan reader orgId userId writer) schedule world).state := by
  intro coherent
  have fresh := coherent onePage .getOrganizationMembershipByUserId 4 1
    (.updateMembershipRole 4 1 8) deskWorld
    [.reader, .reader, .writer, .writer, .writer, .reader] deskWorld_agrees deskWorld_held
    (by rintro (_ | _) <;> exact ⟨_, rfl⟩)
  have stale := fresh
    { id := 9, userId := 1, organizationId := 4, roleId := 7
      role :=
        { id := 7, name := "ADMIN", organizationId := 4, permissions := [.orgUpdate],
          level := 75 } } rfl
  revert stale
  decide

end HelpForge.Org
