import HelpForge.Shared.World

set_option autoImplicit false

namespace HelpForge.Org

open Lib

def allPermissions : List Permission :=
  [.orgUpdate, .orgDelete, .orgInviteMember, .orgManageMember, .orgViewMembers,
    .roleCreate, .roleUpdate, .roleDelete,
    .ticketViewAll, .ticketEditAll, .ticketAssign, .ticketCreateInternalComment,
    .ticketDeleteAnyComment, .ticketDeleteAnyAttachment,
    .agentUpdateAvailability, .aiManageConfig]

structure RoleTemplate where
  name : String
  level : Int
  isSystem : Bool := false
  permissions : List Permission
  deriving DecidableEq, Repr

def defaultRoles : List RoleTemplate :=
  [{ name := "OWNER", level := 100, isSystem := true, permissions := allPermissions },
    { name := "ADMIN"
      level := 75
      isSystem := true
      permissions :=
        [.orgUpdate, .orgInviteMember, .orgManageMember, .orgViewMembers,
          .roleCreate, .roleUpdate, .roleDelete,
          .ticketViewAll, .ticketEditAll, .ticketAssign, .ticketCreateInternalComment,
          .ticketDeleteAnyComment, .ticketDeleteAnyAttachment, .aiManageConfig] },
    { name := "AGENT"
      level := 50
      isSystem := true
      permissions :=
        [.orgViewMembers, .ticketViewAll, .ticketEditAll, .ticketAssign,
          .ticketCreateInternalComment, .ticketDeleteAnyComment, .ticketDeleteAnyAttachment,
          .agentUpdateAvailability] },
    { name := "MEMBER", level := 10, isSystem := true, permissions := [.orgViewMembers] }]

theorem allPermissions_complete (permission : Permission) : permission ∈ allPermissions := by
  cases permission <;> decide

def hasPermission (role : OrgRole) (permission : Permission) : Bool :=
  role.permissions.contains permission

def assertCanInviteRole (actorRole targetRole : OrgRole) : Call Unit := do
  Program.require (hasPermission actorRole .orgInviteMember)
    (.api 403 "You do not have permission to invite members" "INVITE_FORBIDDEN")
  Program.require (targetRole.level < actorRole.level)
    (.api 403 "You cannot invite a member with a role equal to or higher than yours"
      "INVITE_FORBIDDEN")

def assertCanUpdateRole (actorMembership targetMembership : OrganizationMembership)
    (nextRole : OrgRole) : Call Unit := do
  Program.require (hasPermission actorMembership.role .orgManageMember)
    (.api 403 "You do not have permission to update roles" "ROLE_UPDATE_FORBIDDEN")
  Program.require (actorMembership.userId != targetMembership.userId)
    (.api 400 "You cannot change your own role" "SELF_ROLE_CHANGE")
  Program.require (targetMembership.role.level < actorMembership.role.level)
    (.api 403 "You can only update members with a lower role than yours" "ROLE_UPDATE_FORBIDDEN")
  Program.require (nextRole.level < actorMembership.role.level)
    (.api 403 "You cannot promote a member to your role level or higher" "PROMOTION_FORBIDDEN")
  Program.require (!(nextRole.isSystem && nextRole.name == "OWNER"))
    (.api 400 "Cannot assign OWNER role to a member" "OWNER_ROLE_ASSIGN_FORBIDDEN")

theorem assertCanInviteRole_bind {α : Type} (actorRole targetRole : OrgRole)
    (rest : Unit → Call α) (goal : Except ServiceError α → World → Prop) (world : World)
    (passed : hasPermission actorRole .orgInviteMember = true → targetRole.level < actorRole.level →
      (rest ()).wp goal world)
    (refused : ∀ failure, goal (.error failure) world) :
    (assertCanInviteRole actorRole targetRole >>= rest).wp goal world := by
  simp only [assertCanInviteRole, bind_assoc, Program.wp_require_bind, decide_eq_true_eq]
  exact ⟨fun allowed => ⟨fun below => passed allowed below, fun _ => refused _⟩,
    fun _ => refused _⟩

theorem assertCanUpdateRole_bind {α : Type} (actorMembership targetMembership : OrganizationMembership)
    (nextRole : OrgRole) (rest : Unit → Call α) (goal : Except ServiceError α → World → Prop)
    (world : World)
    (passed : hasPermission actorMembership.role .orgManageMember = true →
      actorMembership.userId ≠ targetMembership.userId →
      targetMembership.role.level < actorMembership.role.level →
      nextRole.level < actorMembership.role.level → (rest ()).wp goal world)
    (refused : ∀ failure, goal (.error failure) world) :
    (assertCanUpdateRole actorMembership targetMembership nextRole >>= rest).wp goal world := by
  simp only [assertCanUpdateRole, bind_assoc, Program.wp_require_bind, decide_eq_true_eq,
    bne_iff_ne]
  refine ⟨fun allowed => ⟨fun different => ⟨fun below => ⟨fun under => ⟨fun _ => ?_, ?_⟩, ?_⟩, ?_⟩,
    ?_⟩, ?_⟩
  · exact passed allowed different below under
  all_goals exact fun _ => refused _

end HelpForge.Org
