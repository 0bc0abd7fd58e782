import HelpForge.Shared.Database
import Mathlib.Logic.Function.Basic

set_option autoImplicit false

namespace HelpForge

/-- A membership with its role, and with its organisation where the query included it. -/
structure OrganizationMembership extends Membership where
  role : OrgRole
  organization : Option Organization := none
  deriving DecidableEq, Repr

/-- A date as a program holds it: a `Date`, or the ISO text that `JSON.stringify`
makes of one and `JSON.parse` leaves as text. -/
inductive JsDate where
  | date (time : Nat)
  | isoText (time : Nat)
  deriving DecidableEq, Repr

/-- A user as the auth module selects it; `password` is absent from a public copy. -/
structure AuthUser where
  id : Nat
  email : String
  password : Option String
  name : Option String
  createdAt : JsDate
  updatedAt : JsDate
  tokenIssuedAt : Option JsDate
  isDeleted : Bool
  deriving DecidableEq, Repr

structure OrganizationScope where
  organizationId : Nat
  roleId : Nat
  roleName : String
  level : Int
  permissions : List Permission
  deriving DecidableEq, Repr

/-- The claims of a signed access token; `iat` and `exp` count seconds. -/
structure Claims where
  sub : Nat
  type : String := "access"
  jti : Nat
  iat : Nat
  exp : Nat
  orgPermissions : List OrganizationScope := []
  deriving DecidableEq, Repr

inductive TicketEventName where
  | created
  | assigned
  | statusChanged
  | commentAdded
  | commentDeleted
  | tagAdded
  | tagRemoved
  | attachmentAdded
  | attachmentDeleted
  deriving DecidableEq, Repr

structure TicketEvent where
  name : TicketEventName
  ticketId : Nat
  organizationId : Nat
  actorId : Nat
  metadata : EventMetadata
  deriving DecidableEq, Repr

structure NotificationJob where
  type : Option NotificationType
  ticketId : Option Nat
  organizationId : Option Nat
  actorId : Option Nat
  recipientIds : List Nat
  deriving DecidableEq, Repr

inductive ScraperJob where
  | scrape (orgId : Nat) (url priority : String)
  | deleteDocuments (orgId : Nat) (documentIds : List String)
  deriving DecidableEq, Repr

inductive AuthStore where
  | tokenBlacklist
  | refreshToken
  | cache
  deriving DecidableEq, Repr

structure World where
  db : Database := {}
  now : Nat := 0
  userCache : Nat → Option AuthUser := fun _ => none
  accessScopeCache : Nat → Option (List OrganizationScope) := fun _ => none
  blacklistCache : Nat → Bool := fun _ => false
  membershipCache : Nat → Nat → Option OrganizationMembership := fun _ _ => none
  scraperCache : Nat → String → Bool := fun _ _ => false
  -- Events emitted and not handled yet, oldest first.
  events : List TicketEvent := []
  notificationJobs : List NotificationJob := []
  scraperJobs : List ScraperJob := []
  -- Access tokens signed with the secret so far.
  signed : List Claims := []
  -- The latest instant whose expired blacklist rows a cleanup has deleted.
  cleaned : Nat := 0
  -- Stores whose writes by the auth module fail at the moment. A cache that fails is not read
  -- either.
  failing : AuthStore → Bool := fun _ => false

abbrev Call (α : Type) := Lib.Program World ServiceError α

variable (world : World) (change : Database → Database) (userId : Nat) (orgId : Nat)

namespace World

def withDb (world : World) (change : Database → Database) : World :=
  { world with db := change world.db }

@[simp] theorem withDb_db :
    (world.withDb change).db = change world.db := rfl

@[simp] theorem withDb_now :
    (world.withDb change).now = world.now := rfl

@[simp] theorem withDb_membershipCache :
    (world.withDb change).membershipCache = world.membershipCache := rfl

@[simp] theorem withDb_userCache :
    (world.withDb change).userCache = world.userCache := rfl

@[simp] theorem withDb_events :
    (world.withDb change).events = world.events := rfl

def putMembership (world : World) (membership : OrganizationMembership) : World :=
  { world with
    membershipCache := fun orgId userId =>
      if orgId = membership.organizationId ∧ userId = membership.userId then some membership
      else world.membershipCache orgId userId }

def dropMembership (world : World) (orgId userId : Nat) : World :=
  { world with
    membershipCache := fun org user =>
      if org = orgId ∧ user = userId then none else world.membershipCache org user }

def dropOrganizationMemberships (world : World) (orgId : Nat) : World :=
  { world with
    membershipCache := fun org user => if org = orgId then none else world.membershipCache org user }

/-! Requests of the auth module to the cache: one that fails is logged and changes nothing. -/

def putUser (world : World) (user : AuthUser) : World :=
  { world with
    userCache :=
      if world.failing .cache then world.userCache
      else Function.update world.userCache user.id (some user) }

theorem putUser_userCache (user copy : AuthUser) (userId : Nat)
    (there : (world.putUser user).userCache userId = some copy) :
    world.userCache userId = some copy ∨ (user.id = userId ∧ copy = user) := by
  simp only [putUser] at there
  split_ifs at there
  · exact .inl there
  · by_cases same : userId = user.id
    · subst same
      rw [Function.update_self, Option.some.injEq] at there
      exact .inr ⟨rfl, there.symm⟩
    · rw [Function.update_of_ne same] at there
      exact .inl there

theorem putUser_self (user : AuthUser) (works : world.failing .cache = false) :
    (world.putUser user).userCache user.id = some user := by
  simp [putUser, works]

def dropUser (world : World) (userId : Nat) : World :=
  { world with
    userCache :=
      if world.failing .cache then world.userCache
      else Function.update world.userCache userId none }

def putAccessScope (world : World) (userId : Nat) (scope : List OrganizationScope) : World :=
  { world with
    accessScopeCache :=
      if world.failing .cache then world.accessScopeCache
      else Function.update world.accessScopeCache userId (some scope) }

def dropAccessScope (world : World) (userId : Nat) : World :=
  { world with
    accessScopeCache :=
      if world.failing .cache then world.accessScopeCache
      else Function.update world.accessScopeCache userId none }

def putBlacklisted (world : World) (jti : Nat) : World :=
  { world with
    blacklistCache :=
      if world.failing .cache then world.blacklistCache
      else Function.update world.blacklistCache jti true }

@[simp] theorem putMembership_db (membership : OrganizationMembership) :
    (world.putMembership membership).db = world.db := rfl

@[simp] theorem dropMembership_db (userId : Nat) :
    (world.dropMembership orgId userId).db = world.db := rfl

@[simp] theorem dropOrganizationMemberships_db :
    (world.dropOrganizationMemberships orgId).db = world.db := rfl

@[simp] theorem dropAccessScope_db :
    (world.dropAccessScope userId).db = world.db := rfl

end World

variable (db : Database)

namespace Database

def insertOrganization (db : Database) (organization : Organization) : Database :=
  { db with
    organizations := db.organizations ++ [organization]
    nextId := db.nextId + 1 }

def insertOrgRoles (db : Database) (roles : List OrgRole) : Database :=
  { db with
    orgRoles := db.orgRoles ++ roles
    nextId := db.nextId + roles.length }

def insertMembership (db : Database) (membership : Membership) : Database :=
  { db with
    memberships := db.memberships ++ [membership]
    nextId := db.nextId + 1 }

def findUser (db : Database) (id : Nat) : Option User :=
  db.users.find? fun user => user.id == id

def findOrganization (db : Database) (id : Nat) : Option Organization :=
  db.organizations.find? fun organization => organization.id == id

def findOrgRole (db : Database) (id : Nat) : Option OrgRole :=
  db.orgRoles.find? fun role => role.id == id

def findMembership (db : Database) (orgId userId : Nat) :
    Option Membership :=
  db.memberships.find? fun membership =>
    membership.userId == userId && membership.organizationId == orgId

def findTicket (db : Database) (id : Nat) : Option Ticket :=
  db.tickets.find? fun ticket => ticket.id == id

/-- `include: { role: … }`. -/
def withRole (db : Database) (membership : Membership) : Option OrganizationMembership :=
  (db.findOrgRole membership.roleId).map fun role => { toMembership := membership, role }

/-- `include: { organization: true, role: … }`. -/
def withRoleAndOrganization (db : Database) (membership : Membership) :
    Option OrganizationMembership :=
  (db.withRole membership).bind fun joined =>
    (db.findOrganization membership.organizationId).map fun organization =>
      { joined with organization := some organization }

/-- `copy` is a membership as the database joins it with its role. -/
def Shows (db : Database) (copy : OrganizationMembership) : Prop :=
  copy.toMembership ∈ db.memberships ∧ db.findOrgRole copy.roleId = some copy.role

theorem findOrgRole_mem (db : Database) (roleId : Nat) (role : OrgRole)
    (found : db.findOrgRole roleId = some role) : role ∈ db.orgRoles ∧ role.id = roleId := by
  unfold findOrgRole at found
  exact ⟨List.mem_of_find?_eq_some found, by simpa using List.find?_some found⟩

theorem findMembership_mem (orgId userId : Nat) (membership : Membership)
    (found : db.findMembership orgId userId = some membership) :
    membership ∈ db.memberships ∧ membership.userId = userId ∧
      membership.organizationId = orgId := by
  unfold findMembership at found
  have key := List.find?_some found
  simp only [Bool.and_eq_true, beq_iff_eq] at key
  exact ⟨List.mem_of_find?_eq_some found, key⟩

theorem findOrganization_mem (orgId : Nat) (organization : Organization)
    (found : db.findOrganization orgId = some organization) :
    organization ∈ db.organizations ∧ organization.id = orgId := by
  unfold findOrganization at found
  exact ⟨List.mem_of_find?_eq_some found, by simpa using List.find?_some found⟩

theorem shows_of_withRole (membership : Membership) (joined : OrganizationMembership)
    (member : membership ∈ db.memberships) (view : db.withRole membership = some joined) :
    Shows db joined ∧ joined.toMembership = membership := by
  unfold withRole at view
  rw [Option.map_eq_some_iff] at view
  obtain ⟨role, found, rfl⟩ := view
  exact ⟨⟨member, found⟩, rfl⟩

end Database

end HelpForge
