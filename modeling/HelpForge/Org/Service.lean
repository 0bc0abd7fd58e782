import HelpForge.Auth.Service
import HelpForge.Org.Repo

set_option autoImplicit false

namespace HelpForge.Org

open Lib

def unresolved (name : String) {α : Type} : Call α :=
  -- A name the module uses and neither declares nor imports.
  Program.fail (.javascript "ReferenceError" (name ++ " is not defined"))

-- `org.service.js` calls `getOrgRoleByName` and leaves it out of its import list.
def getOrgRoleByName (_orgId : Nat) (_name : String) : Call (Option OrgRole) :=
  unresolved "getOrgRoleByName"

def createOrganizationService (name : String) (userId : Nat) : Call HydratedOrganization := do
  let existingOrg ← findOrganizationByOwner userId
  Program.require existingOrg.isNone
    (.api 409 "User already owns an organization" "USER_ALREADY_OWNER")
  let org ← createOrganizationWithRolesAndOwner name userId defaultRoles
  Program.orFail org (.api 500 "Failed to create organization" "ORG_CREATION_FAILED")

def deleteOrganizationService (orgId : Nat) : Call Organization :=
  deleteOrganization orgId

def viewAllMembersInOrganizationService (orgId : Nat) : Call (List OrganizationMember) :=
  getOrganizationMembersById orgId

def inviteMemberInOrganizationService (orgId userId roleId : Nat)
    (actorMembership : OrganizationMembership) : Call OrganizationMembership := do
  let targetRole ← getOrgRoleById roleId
  let targetRole ← Program.orFail (targetRole.filter fun role => role.organizationId == orgId)
    (.api 400 "Invalid role for this organization" "INVALID_ROLE")
  assertCanInviteRole actorMembership.role targetRole
  inviteMemberInOrganization orgId userId roleId

def updateMemberFromOrganizationService (orgId userId : Nat)
    (roleId : Nat) (actorMembership : OrganizationMembership) :
    Call OrganizationMembership := do
  let targetMembership ← getOrganizationMembershipByUserId orgId userId
  let targetMembership ← Program.orFail targetMembership
    (.api 404 "Member not found in organization" "MEMBER_NOT_FOUND")
  let nextRole ← getOrgRoleById roleId
  let nextRole ← Program.orFail (nextRole.filter fun role => role.organizationId == orgId)
    (.api 400 "Invalid role for this organization" "INVALID_ROLE")
  assertCanUpdateRole actorMembership targetMembership nextRole
  updateMembershipRole orgId userId roleId

def createRoleService (orgId : Nat) (body : RoleBody)
    (actorMembership : OrganizationMembership) : Call OrgRole := do
  Program.require (body.level < actorMembership.role.level)
    (.api 403 "Cannot create a role with level equal to or higher than yours"
      "ROLE_LEVEL_FORBIDDEN")
  let existing ← getOrgRoleByName orgId body.name
  Program.require existing.isNone
    (.api 409 "A role with this name already exists" "ROLE_NAME_EXISTS")
  createOrgRole orgId body

def updateRoleService (orgId roleId : Nat) (updates : RoleUpdates)
    (actorMembership : OrganizationMembership) : Call OrgRole := do
  let role ← getOrgRoleById roleId
  let role ← Program.orFail (role.filter fun role => role.organizationId == orgId)
    (.api 404 "Role not found" "ROLE_NOT_FOUND")
  Program.require (!role.isSystem)
    (.api 403 "System roles cannot be modified" "SYSTEM_ROLE_IMMUTABLE")
  Program.require (role.level < actorMembership.role.level)
    (.api 403 "Cannot modify a role with level equal to or higher than yours"
      "ROLE_LEVEL_FORBIDDEN")
  Program.require (updates.level.all fun level => level < actorMembership.role.level)
    (.api 403 "Cannot set role level equal to or higher than yours" "ROLE_LEVEL_FORBIDDEN")
  match updates.name.filter fun name => name != "" with
  | some name =>
    let existing ← getOrgRoleByName orgId name
    Program.require (existing.all fun other => other.id == roleId)
      (.api 409 "A role with this name already exists" "ROLE_NAME_EXISTS")
  | none => pure ()
  updateOrgRole roleId updates

def deleteRoleService (orgId roleId : Nat)
    (actorMembership : OrganizationMembership) : Call OrgRole := do
  let role ← getOrgRoleById roleId
  let role ← Program.orFail (role.filter fun role => role.organizationId == orgId)
    (.api 404 "Role not found" "ROLE_NOT_FOUND")
  Program.require (!role.isSystem)
    (.api 403 "System roles cannot be deleted" "SYSTEM_ROLE_IMMUTABLE")
  Program.require (role.level < actorMembership.role.level)
    (.api 403 "Cannot delete a role with level equal to or higher than yours"
      "ROLE_LEVEL_FORBIDDEN")
  deleteOrgRole roleId

def RoleBody.Admitted (body : RoleBody) : Prop :=
  1 ≤ body.name.length ∧ body.name.length ≤ 50 ∧ body.permissions ≠ [] ∧
    1 ≤ body.level ∧ body.level ≤ 99

def RoleUpdates.Admitted (updates : RoleUpdates) : Prop :=
  (∀ name, updates.name = some name → 1 ≤ name.length ∧ name.length ≤ 50) ∧
    (∀ permissions, updates.permissions = some permissions → permissions ≠ []) ∧
    ∀ level, updates.level = some level → 1 ≤ level ∧ level ≤ 99

open Auth (Authenticated)

def verifyOrganizationMembership (orgId userId : Nat) : Call OrganizationMembership := do
  let membership ← getUserMembershipInOrganization orgId userId
  Program.orFail membership (.rejected 403 "You do not have access to this organization")

/-- `auth.orgPermissions[orgId].permissions`: of two entries for one organisation, the
later has replaced the earlier. -/
def tokenPermissions (auth : Claims) (orgId : Nat) : List Permission :=
  match auth.orgPermissions.reverse.find? (·.organizationId == orgId) with
  | none => []
  | some scope => scope.permissions

def memberPermissions (auth : Claims) (orgId : Nat) (membership : OrganizationMembership) :
    List Permission :=
  if tokenPermissions auth orgId != [] then tokenPermissions auth orgId
  else membership.role.permissions

def requirePermission (requiredPermissions : List Permission) (auth : Claims) (orgId : Nat)
    (membership : OrganizationMembership) : Call Unit :=
  Program.require
    (requiredPermissions.all fun permission =>
      (memberPermissions auth orgId membership).contains permission)
    (.rejected 403 "You do not have permission to perform this action")

def guarded (orgId : Nat) (requiredPermissions : List Permission) (token : Option Claims) :
    Call (Authenticated × OrganizationMembership) := do
  let authenticated ← Auth.authenticate token
  let membership ← verifyOrganizationMembership orgId authenticated.user.id
  requirePermission requiredPermissions authenticated.auth orgId membership
  pure (authenticated, membership)

end HelpForge.Org
