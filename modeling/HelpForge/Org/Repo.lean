import HelpForge.Auth.Repo
import HelpForge.Org.Roles

set_option autoImplicit false

namespace HelpForge.Org

open Lib
open Program (wp_attempt)
open Auth (invalidateUserPermissionSnapshot)

structure HydratedOrganization extends Organization where
  memberships : List OrganizationMembership
  roles : List OrgRole
  deriving DecidableEq, Repr

structure OrganizationMember extends OrganizationMembership where
  user : User
  deriving DecidableEq, Repr

def getCachedOrganizationMembership (orgId userId : Nat) :
    Call (Option OrganizationMembership) :=
  Program.reads fun world => world.membershipCache orgId userId

def setCachedOrganizationMembership (membership : OrganizationMembership) : Call Unit :=
  Program.modify fun world => world.putMembership membership

def invalidateOrganizationMembershipCache (orgId userId : Nat) : Call Unit :=
  Program.modify fun world => world.dropMembership orgId userId

def invalidateOrganizationMembershipCacheByOrg (orgId : Nat) : Call Unit :=
  Program.modify fun world => world.dropOrganizationMemberships orgId

def invalidateUserPermissionSnapshots (userIds : List Nat) : Call Unit := do
  let _ ← userIds.eraseDups.mapM invalidateUserPermissionSnapshot
  pure ()

theorem invalidateUserPermissionSnapshots_db (userIds : List Nat) (db : Database) :
    Program.Keeps (fun world => world.db = db) (invalidateUserPermissionSnapshots userIds) := by
  refine Program.Keeps.bind (Program.Keeps.mapM fun userId _ => ?_) fun _ => Program.Keeps.pure _
  intro world same
  exact same

def getOrganizationMemberUserIds (organizationId : Nat) : Call (List Nat) :=
  Program.reads fun world =>
    ((world.db.memberships.filter fun membership =>
      membership.organizationId == organizationId).map (·.userId)).eraseDups

def insertOrganization (name : String) : Call Organization :=
  Program.attempt fun world =>
    if world.db.organizations.any (·.name == name) then .error .uniqueConstraint
    else
      let organization : Organization :=
        { id := world.db.nextId, name, createdAt := world.now }
      .ok (organization, world.withDb (·.insertOrganization organization))

theorem insertOrganization_wp (name : String) (world : World)
    (goal : Except ServiceError Organization → World → Prop)
    (created : goal (.ok { id := world.db.nextId, name, createdAt := world.now })
      (world.withDb (·.insertOrganization { id := world.db.nextId, name, createdAt := world.now })))
    (refused : ∀ failure, goal (.error failure) world) :
    (insertOrganization name).wp goal world := by
  unfold insertOrganization
  rw [wp_attempt]
  split
  · exact ⟨by simp, fun failure _ => refused failure⟩
  · refine ⟨?_, by simp⟩
    rintro value reached ⟨⟩
    exact created

def repeats (permissions : List Permission) : Bool := !decide permissions.Nodup

def newOrgRole (world : World) (orgId : Nat) (template : RoleTemplate) : OrgRole :=
  { id := world.db.nextId
    name := template.name
    organizationId := orgId
    permissions := template.permissions
    level := template.level
    isSystem := template.isSystem
    createdAt := world.now
    updatedAt := world.now }

def insertOrgRole (orgId : Nat) (template : RoleTemplate) : Call OrgRole :=
  Program.attempt fun world =>
    if world.db.orgRoles.any fun role => role.organizationId == orgId && role.name == template.name
    then .error .uniqueConstraint
    else if repeats template.permissions then .error .uniqueConstraint
    else if (world.db.findOrganization orgId).isNone then .error .foreignKeyConstraint
    else
      .ok (newOrgRole world orgId template,
        world.withDb (·.insertOrgRoles [newOrgRole world orgId template]))

variable (orgId : Nat)

theorem insertOrgRole_wp (template : RoleTemplate) (world : World)
    (goal : Except ServiceError OrgRole → World → Prop)
    (created : goal (.ok (newOrgRole world orgId template))
      (world.withDb (·.insertOrgRoles [newOrgRole world orgId template])))
    (refused : ∀ failure, goal (.error failure) world) :
    (insertOrgRole orgId template).wp goal world := by
  unfold insertOrgRole
  rw [wp_attempt]
  split_ifs
  · exact ⟨by simp, fun failure _ => refused failure⟩
  · exact ⟨by simp, fun failure _ => refused failure⟩
  · exact ⟨by simp, fun failure _ => refused failure⟩
  · refine ⟨?_, by simp⟩
    rintro value reached ⟨⟩
    exact created

def newMembership (world : World) (orgId userId roleId : Nat) :
    Membership :=
  { id := world.db.nextId
    userId
    organizationId := orgId
    roleId
    createdAt := world.now }

def insertMembership (orgId userId roleId : Nat) :
    Call OrganizationMembership :=
  Program.attempt fun world =>
    if (world.db.findMembership orgId userId).isSome then .error .uniqueConstraint
    else if (world.db.findUser userId).isNone || (world.db.findOrganization orgId).isNone then
      .error .foreignKeyConstraint
    else
      match world.db.findOrgRole roleId with
      | none => .error .foreignKeyConstraint
      | some role =>
        let membership := newMembership world orgId userId roleId
        .ok ({ toMembership := membership, role }, world.withDb (·.insertMembership membership))

theorem insertMembership_wp (userId roleId : Nat) (world : World)
    (goal : Except ServiceError OrganizationMembership → World → Prop)
    (created : ∀ role, world.db.findMembership orgId userId = none →
      (world.db.findOrganization orgId).isSome → world.db.findOrgRole roleId = some role →
      goal (.ok { toMembership := newMembership world orgId userId roleId, role })
        (world.withDb (·.insertMembership (newMembership world orgId userId roleId))))
    (refused : ∀ failure, goal (.error failure) world) :
    (insertMembership orgId userId roleId).wp goal world := by
  unfold insertMembership
  rw [wp_attempt]
  split_ifs with taken missing
  · exact ⟨by simp, fun failure _ => refused failure⟩
  · exact ⟨by simp, fun failure _ => refused failure⟩
  · cases found : world.db.findOrgRole roleId with
    | none => exact ⟨by simp, fun failure _ => refused failure⟩
    | some role =>
      refine ⟨?_, by simp⟩
      rintro value reached ⟨⟩
      refine created role (by simpa using taken) ?_ found
      cases present : world.db.findOrganization orgId with
      | none => simp [present] at missing
      | some organization => rfl

def findOrganizationByOwner (userId : Nat) : Call (Option Organization) :=
  Program.reads fun world =>
    (world.db.memberships.find? fun membership =>
      membership.userId == userId &&
        (world.db.findOrgRole membership.roleId).any fun role =>
          role.name == "OWNER" && role.isSystem).bind fun membership =>
      world.db.findOrganization membership.organizationId

def hydrate (db : Database) (organization : Organization) : HydratedOrganization :=
  { organization with
    memberships :=
      (db.memberships.filter (·.organizationId == organization.id)).filterMap db.withRole
    roles := db.orgRoles.filter (·.organizationId == organization.id) }

def hydrateOrganization (orgId : Nat) : Call (Option HydratedOrganization) :=
  Program.reads fun world => (world.db.findOrganization orgId).map (hydrate world.db)

def getOrgRoleByNameIn (orgId : Nat) (name : String) : Call (Option OrgRole) :=
  Program.reads fun world =>
    world.db.orgRoles.find? fun role => role.organizationId == orgId && role.name == name

def cacheMembershipOf (organization : Option HydratedOrganization) (userId : Nat) : Call Unit :=
  match organization.bind fun organization =>
    organization.memberships.find? fun entry => entry.userId == userId with
  | some membership => setCachedOrganizationMembership membership
  | none => pure ()

def createOrganizationWithRolesAndOwner (name : String) (userId : Nat)
    (roles : List RoleTemplate) (ownerRoleName : String := "OWNER") :
    Call (Option HydratedOrganization) :=
  Program.transaction do
    let organization ← insertOrganization name
    let _ ← roles.mapM (insertOrgRole organization.id)
    let ownerRole ← getOrgRoleByNameIn organization.id ownerRoleName
    match ownerRole with
    | none => pure none
    | some ownerRole =>
      let membership ← insertMembership organization.id userId ownerRole.id
      let hydratedOrganization ← hydrateOrganization organization.id
      cacheMembershipOf hydratedOrganization membership.userId
      invalidateUserPermissionSnapshot userId
      pure hydratedOrganization

def deleteMembershipsOf (orgId : Nat) : Call Unit :=
  Program.modify fun world => world.withDb fun db =>
    { db with memberships := db.memberships.filter (·.organizationId != orgId) }

def deleteOrgRolesOf (orgId : Nat) : Call Unit :=
  -- Fails while a membership still refers to one of the roles.
  Program.attempt fun world =>
    if world.db.orgRoles.any fun role =>
        role.organizationId == orgId && world.db.memberships.any (·.roleId == role.id)
    then .error .foreignKeyConstraint
    else .ok ((), world.withDb fun db =>
      { db with orgRoles := db.orgRoles.filter (·.organizationId != orgId) })

variable (world : World)

theorem deleteOrgRolesOf_wp (goal : Except ServiceError Unit → World → Prop)
    (deleted : goal (.ok ()) (world.withDb fun db =>
      { db with orgRoles := db.orgRoles.filter (·.organizationId != orgId) }))
    (refused : ∀ failure, goal (.error failure) world) :
    (deleteOrgRolesOf orgId).wp goal world := by
  unfold deleteOrgRolesOf
  rw [wp_attempt]
  split_ifs
  · exact ⟨by simp, fun failure _ => refused failure⟩
  · refine ⟨?_, by simp⟩
    rintro value reached ⟨⟩
    exact deleted

/-- Whether a row refers to the organisation through a key without `onDelete: Cascade`. -/
def restrictsOrganization (db : Database) (orgId : Nat) : Bool :=
  db.memberships.any (·.organizationId == orgId) ||
    db.tickets.any (·.organizationId == orgId) ||
    db.tags.any (·.organizationId == orgId) ||
    db.agentWorkloads.any (·.organizationId == orgId) ||
    db.aiUsages.any (·.organizationId == orgId) ||
    db.aiConfigs.any (·.organizationId == orgId) ||
    db.ticketSubmissionConfigs.any (·.organizationId == orgId)

def deleteOrganizationRow (orgId : Nat) : Call Organization :=
  Program.attempt fun world =>
    match world.db.findOrganization orgId with
    | none => .error .recordNotFound
    | some organization =>
      if restrictsOrganization world.db orgId then .error .foreignKeyConstraint
      else .ok (organization, world.withDb fun db =>
        { db with
          organizations := db.organizations.filter (·.id != orgId)
          orgRoles := db.orgRoles.filter (·.organizationId != orgId)
          notifications := db.notifications.filter (·.organizationId != orgId)
          scrapedPages := db.scrapedPages.filter (·.orgId != orgId) })

theorem deleteOrganizationRow_wp (goal : Except ServiceError Organization → World → Prop)
    (deleted : ∀ organization, world.db.findOrganization orgId = some organization →
      restrictsOrganization world.db orgId = false →
      goal (.ok organization) (world.withDb fun db =>
        { db with
          organizations := db.organizations.filter (·.id != orgId)
          orgRoles := db.orgRoles.filter (·.organizationId != orgId)
          notifications := db.notifications.filter (·.organizationId != orgId)
          scrapedPages := db.scrapedPages.filter (·.orgId != orgId) }))
    (refused : ∀ failure, goal (.error failure) world) :
    (deleteOrganizationRow orgId).wp goal world := by
  unfold deleteOrganizationRow
  rw [wp_attempt]
  cases found : world.db.findOrganization orgId with
  | none => exact ⟨by simp, fun failure _ => refused failure⟩
  | some organization =>
    dsimp only
    split_ifs with restricted
    · exact ⟨by simp, fun failure _ => refused failure⟩
    · refine ⟨?_, by simp⟩
      rintro value reached ⟨⟩
      exact deleted organization found (by simpa using restricted)

def deleteOrganization (orgId : Nat) : Call Organization := do
  let (deletedOrganization, userIds) ←
    (Program.transaction do
      let userIds ← getOrganizationMemberUserIds orgId
      deleteMembershipsOf orgId
      deleteOrgRolesOf orgId
      let deletedOrganization ← deleteOrganizationRow orgId
      pure (deletedOrganization, userIds)).ensuring
        (invalidateOrganizationMembershipCacheByOrg orgId)
  invalidateUserPermissionSnapshots userIds
  pure deletedOrganization

def getOrganizationMembersById (orgId : Nat) : Call (List OrganizationMember) :=
  Program.reads fun world =>
    (world.db.memberships.filter (·.organizationId == orgId)).filterMap fun membership =>
      (world.db.withRole membership).bind fun joined =>
        (world.db.findUser membership.userId).map fun user => { joined with user }

def getOrganizationMembershipByUserId (orgId userId : Nat) :
    Call (Option OrganizationMembership) := do
  let cachedMembership ← getCachedOrganizationMembership orgId userId
  match cachedMembership with
  | some cachedMembership => pure (some cachedMembership)
  | none =>
    let membership ← Program.reads fun world =>
      (world.db.findMembership orgId userId).bind world.db.withRole
    match membership with
    | some membership =>
      setCachedOrganizationMembership membership
      pure (some membership)
    | none => pure none

theorem getOrganizationMembershipByUserId_db (userId : Nat) (db : Database) :
    Program.Keeps (fun world => world.db = db)
      (getOrganizationMembershipByUserId orgId userId) := by
  unfold getOrganizationMembershipByUserId
  refine (Program.Keeps.reads _).bind fun cached => ?_
  cases cached with
  | some copy => exact Program.Keeps.pure _
  | none =>
    refine (Program.Keeps.reads _).bind fun membership => ?_
    cases membership with
    | none => exact Program.Keeps.pure _
    | some copy =>
      refine Program.Keeps.bind ?_ fun _ => Program.Keeps.pure _
      intro world same
      exact same

def getUserMembershipInOrganization (orgId userId : Nat) :
    Call (Option OrganizationMembership) := do
  let cachedMembership ← getCachedOrganizationMembership orgId userId
  match cachedMembership.filter (·.organization.isSome) with
  | some cachedMembership => pure (some cachedMembership)
  | none =>
    let membership ← Program.reads fun world =>
      (world.db.findMembership orgId userId).bind world.db.withRoleAndOrganization
    match membership with
    | some membership =>
      setCachedOrganizationMembership membership
      pure (some membership)
    | none => pure none

def inviteMemberInOrganization (orgId userId roleId : Nat) :
    Call OrganizationMembership := do
  let membership ← insertMembership orgId userId roleId
  setCachedOrganizationMembership membership
  invalidateUserPermissionSnapshot userId
  pure membership

def changeMembershipRole (orgId userId roleId : Nat) :
    Call OrganizationMembership :=
  Program.attempt fun world =>
    match world.db.findMembership orgId userId, world.db.findOrgRole roleId with
    | none, _ => .error .recordNotFound
    | some _, none => .error .foreignKeyConstraint
    | some membership, some role =>
      .ok ({ toMembership := { membership with roleId }, role }, world.withDb fun db =>
        { db with
          memberships := changeWhere
            (fun row => row.userId == userId && row.organizationId == orgId)
            (fun row => { row with roleId }) db.memberships })

theorem changeMembershipRole_wp (userId roleId : Nat) (world : World)
    (goal : Except ServiceError OrganizationMembership → World → Prop)
    (changed : ∀ membership role, world.db.findMembership orgId userId = some membership →
      world.db.findOrgRole roleId = some role →
      goal (.ok { toMembership := { membership with roleId }, role })
        (world.withDb fun db =>
          { db with
            memberships := changeWhere
              (fun row => row.userId == userId && row.organizationId == orgId)
              (fun row => { row with roleId }) db.memberships }))
    (refused : ∀ failure, goal (.error failure) world) :
    (changeMembershipRole orgId userId roleId).wp goal world := by
  unfold changeMembershipRole
  rw [wp_attempt]
  cases member : world.db.findMembership orgId userId with
  | none => exact ⟨by simp, fun failure _ => refused failure⟩
  | some membership =>
    cases found : world.db.findOrgRole roleId with
    | none => exact ⟨by simp, fun failure _ => refused failure⟩
    | some role =>
      refine ⟨?_, by simp⟩
      rintro value reached ⟨⟩
      exact changed membership role member found

def updateMembershipRole (orgId userId roleId : Nat) :
    Call OrganizationMembership := do
  let membership ← changeMembershipRole orgId userId roleId
  setCachedOrganizationMembership membership
  invalidateUserPermissionSnapshot userId
  pure membership

structure RoleBody where
  name : String
  permissions : List Permission
  level : Int
  deriving DecidableEq, Repr

structure RoleUpdates where
  name : Option String := none
  permissions : Option (List Permission) := none
  level : Option Int := none
  deriving DecidableEq, Repr

def getOrgRoleById (roleId : Nat) : Call (Option OrgRole) :=
  Program.reads fun world => world.db.findOrgRole roleId

def createOrgRole (orgId : Nat) (body : RoleBody) : Call OrgRole := do
  let role ← Program.transaction
    (insertOrgRole orgId
      { name := body.name, level := body.level, permissions := body.permissions })
  let userIds ← getOrganizationMemberUserIds orgId
  invalidateUserPermissionSnapshots userIds
  pure role

def applyUpdates (updates : RoleUpdates) (now : Nat) (role : OrgRole) : OrgRole :=
  { role with
    name := updates.name.getD role.name
    permissions := updates.permissions.getD role.permissions
    level := updates.level.getD role.level
    updatedAt := now }

def changeOrgRole (roleId : Nat) (updates : RoleUpdates) : Call OrgRole :=
  Program.attempt fun world =>
    match world.db.findOrgRole roleId with
    | none => .error .recordNotFound
    | some role =>
      let updated := applyUpdates updates world.now role
      if world.db.orgRoles.any fun other =>
          other.id != roleId && other.organizationId == role.organizationId &&
            other.name == updated.name
      then .error .uniqueConstraint
      else if repeats updated.permissions then .error .uniqueConstraint
      else .ok (updated, world.withDb fun db =>
        { db with
          orgRoles := changeWhere (·.id == roleId) (applyUpdates updates world.now) db.orgRoles })

theorem changeOrgRole_wp (roleId : Nat) (updates : RoleUpdates) (world : World)
    (goal : Except ServiceError OrgRole → World → Prop)
    (changed : ∀ role, world.db.findOrgRole roleId = some role →
      goal (.ok (applyUpdates updates world.now role))
        (world.withDb fun db =>
          { db with
            orgRoles :=
              changeWhere (·.id == roleId) (applyUpdates updates world.now) db.orgRoles }))
    (refused : ∀ failure, goal (.error failure) world) :
    (changeOrgRole roleId updates).wp goal world := by
  unfold changeOrgRole
  rw [wp_attempt]
  cases found : world.db.findOrgRole roleId with
  | none => exact ⟨by simp, fun failure _ => refused failure⟩
  | some role =>
    dsimp only
    split_ifs
    · exact ⟨by simp, fun failure _ => refused failure⟩
    · exact ⟨by simp, fun failure _ => refused failure⟩
    · refine ⟨?_, by simp⟩
      rintro value reached ⟨⟩
      exact changed role found

def updateOrgRole (roleId : Nat) (updates : RoleUpdates) : Call OrgRole := do
  let (role, userIds) ← Program.transaction do
    let role ← changeOrgRole roleId updates
    let userIds ← getOrganizationMemberUserIds role.organizationId
    pure (role, userIds)
  invalidateOrganizationMembershipCacheByOrg role.organizationId
  invalidateUserPermissionSnapshots userIds
  pure role

def deleteOrgRoleRow (roleId : Nat) : Call OrgRole :=
  Program.attempt fun world =>
    match world.db.findOrgRole roleId with
    | none => .error .recordNotFound
    | some role =>
      if world.db.memberships.any (·.roleId == roleId) then .error .foreignKeyConstraint
      else .ok (role, world.withDb fun db =>
        { db with orgRoles := db.orgRoles.filter (·.id != roleId) })

theorem deleteOrgRoleRow_wp (roleId : Nat) (world : World)
    (goal : Except ServiceError OrgRole → World → Prop)
    (deleted : ∀ role, world.db.findOrgRole roleId = some role →
      (∀ membership ∈ world.db.memberships, membership.roleId ≠ roleId) →
      goal (.ok role) (world.withDb fun db =>
        { db with orgRoles := db.orgRoles.filter (·.id != roleId) }))
    (refused : ∀ failure, goal (.error failure) world) :
    (deleteOrgRoleRow roleId).wp goal world := by
  unfold deleteOrgRoleRow
  rw [wp_attempt]
  cases found : world.db.findOrgRole roleId with
  | none => exact ⟨by simp, fun failure _ => refused failure⟩
  | some role =>
    dsimp only
    split_ifs with used
    · exact ⟨by simp, fun failure _ => refused failure⟩
    · refine ⟨?_, by simp⟩
      rintro value reached ⟨⟩
      exact deleted role found (by simpa using used)

def deleteOrgRole (roleId : Nat) : Call OrgRole := do
  let role ← deleteOrgRoleRow roleId
  let userIds ← getOrganizationMemberUserIds role.organizationId
  invalidateOrganizationMembershipCacheByOrg role.organizationId
  invalidateUserPermissionSnapshots userIds
  pure role

end HelpForge.Org
