import HelpForge.Org.Coherence

set_option autoImplicit false

namespace HelpForge.Org

open Lib Database
open Lib.Program (Answers)

inductive PermissionCall where
  | updateMembershipRole (orgId userId roleId : Nat)
  | updateOrgRole (roleId : Nat) (updates : RoleUpdates)
  | deleteOrgRole (roleId : Nat)
  | inviteMember (orgId userId roleId : Nat)
  | lookUp (orgId userId : Nat)
  | issueTokens (user : AuthUser)
  | request (orgId : Nat) (requiredPermissions : List Permission) (token : Claims)
  deriving DecidableEq

def PermissionCall.program (config : Auth.AuthConfig) : PermissionCall → Call Unit
  | updateMembershipRole orgId userId roleId => do
    let _ ← Org.updateMembershipRole orgId userId roleId
    pure ()
  | updateOrgRole roleId updates => do
    let _ ← Org.updateOrgRole roleId updates
    pure ()
  | deleteOrgRole roleId => do
    let _ ← Org.deleteOrgRole roleId
    pure ()
  | inviteMember orgId userId roleId => do
    let _ ← inviteMemberInOrganization orgId userId roleId
    pure ()
  | lookUp orgId userId => do
    let _ ← getOrganizationMembershipByUserId orgId userId
    pure ()
  | issueTokens user => do
    let _ ← Auth.issueTokens config user
    pure ()
  | request orgId requiredPermissions token => do
    let _ ← guarded orgId requiredPermissions (some token)
    pure ()

variable (config : Auth.AuthConfig) (call : PermissionCall)

structure Fresh (world : World) : Prop where
  users : ∀ userId, world.userCache userId = none
  memberships : ∀ orgId userId, world.membershipCache orgId userId = none
  scopes : ∀ userId, world.accessScopeCache userId = none
  signed : world.signed = []

variable {world : World}

theorem Fresh.provenance (fresh : Fresh world) : Provenance [world] where
  users := by
    intro userId copy there
    rw [fresh.users] at there
    cases there
  memberships := by
    intro orgId userId copy there
    rw [fresh.memberships] at there
    cases there
  scopes := by
    intro userId scope there
    rw [fresh.scopes] at there
    cases there
  tokens := by
    intro token member
    rw [fresh.signed] at member
    cases member

variable (start : World)

def PermissionCall.Admitted (db : Database) : PermissionCall → Prop
  -- The role that the call assigns is one of the organisation's, as the services check.
  | updateMembershipRole orgId _ roleId =>
    ∀ role, db.findOrgRole roleId = some role → role.organizationId = orgId
  | inviteMember orgId _ roleId =>
    ∀ role, db.findOrgRole roleId = some role → role.organizationId = orgId
  | _ => True

/-- One step of a run whose calls do not overlap: a whole call, or something that leaves
roles and memberships as they are. -/
inductive Alone (config : Auth.AuthConfig) (seen : List World) (world : World) : World → Prop where
  | call (call : PermissionCall) (admitted : call.Admitted world.db) :
      Alone config seen world ((call.program config).run world).2
  | elsewhere (reached : World) (calm : Calm world reached)
      (memberships : reached.db.memberships = world.db.memberships)
      (roles : reached.db.orgRoles = world.db.orgRoles)
      (works : reached.failing .cache = false) : Alone config seen world reached

/-- Roles belong to the organisations of their members, and the cache answers. -/
structure Orderly (world : World) : Prop extends Fresh world where
  held : ∀ membership ∈ world.db.memberships, ∀ role,
    world.db.findOrgRole membership.roleId = some role →
    role.organizationId = membership.organizationId
  works : world.failing .cache = false

theorem Orderly.coherent (orderly : Orderly world) : Coherent world where
  held := orderly.held
  works := orderly.works
  users := orderly.toFresh.provenance.users
  memberships := by
    intro orgId userId copy there
    rw [orderly.memberships] at there
    cases there
  scopes := by
    intro userId scope there
    rw [orderly.scopes] at there
    cases there

end HelpForge.Org
