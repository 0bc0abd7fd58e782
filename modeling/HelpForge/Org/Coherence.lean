import HelpForge.Org.Provenance

set_option autoImplicit false

namespace HelpForge.Org

open Lib.Program (wp_attempt wp_bind wp_modify_bind wp_orFail_bind wp_pure wp_reads_bind
  wp_require_bind)

open Lib Database
open Auth (permissionSnapshot)

def EntryShown (db : Database) (userId : Nat) (entry : OrganizationScope) : Prop :=
  ∃ copy, db.Shows copy ∧ copy.userId = userId ∧ copy.organizationId = entry.organizationId ∧
    copy.role.permissions = entry.permissions

structure Coherent (world : World) : Prop where
  held : ∀ membership ∈ world.db.memberships, ∀ role,
    world.db.findOrgRole membership.roleId = some role →
    role.organizationId = membership.organizationId
  works : world.failing .cache = false
  users : ∀ userId copy, world.userCache userId = some copy → copy.id = userId
  memberships : ∀ orgId userId copy, world.membershipCache orgId userId = some copy →
    copy.organizationId = orgId ∧ copy.userId = userId ∧ world.db.Shows copy
  scopes : ∀ userId scope, world.accessScopeCache userId = some scope →
    ∀ entry ∈ scope, EntryShown world.db userId entry

theorem EntryShown.holds {db : Database} {userId : Nat} {entry : OrganizationScope}
    (shown : EntryShown db userId entry) (permission : Permission)
    (has : permission ∈ entry.permissions) : Holds db userId entry.organizationId permission := by
  obtain ⟨copy, view, user, org, same⟩ := shown
  exact ⟨copy, view, user, org, same ▸ has⟩

section Coherent

variable {world reached : World}

section Coherent

variable (coherent : Coherent world)

include coherent

theorem Coherent.change (touched : OrganizationMembership → Prop)
    (held : ∀ membership ∈ reached.db.memberships, ∀ role,
      reached.db.findOrgRole membership.roleId = some role →
      role.organizationId = membership.organizationId) (works : reached.failing .cache = false)
    (users : reached.userCache = world.userCache)
    (kept : ∀ copy, world.db.Shows copy → ¬ touched copy → reached.db.Shows copy)
    (memberships : ∀ orgId userId copy, reached.membershipCache orgId userId = some copy →
      (copy.organizationId = orgId ∧ copy.userId = userId ∧ reached.db.Shows copy) ∨
        (world.membershipCache orgId userId = some copy ∧ ¬ touched copy))
    (scopes : ∀ userId scope, reached.accessScopeCache userId = some scope →
      world.accessScopeCache userId = some scope ∧
        ∀ copy, world.db.Shows copy → copy.userId = userId → ¬ touched copy) :
    Coherent reached where
  held := held
  works := works
  users := by
  -- A change that keeps every membership but the `touched` ones as it was, and leaves no touched
  -- copy in a cache.
    rw [users]
    exact coherent.users
  memberships := by
    intro orgId userId copy there
    rcases memberships orgId userId copy there with new | ⟨old, untouched⟩
    · exact new
    · obtain ⟨org, user, view⟩ := coherent.memberships orgId userId copy old
      exact ⟨org, user, kept copy view untouched⟩
  scopes := by
    intro userId scope there entry member
    obtain ⟨old, untouched⟩ := scopes userId scope there
    obtain ⟨copy, view, user, rest⟩ := coherent.scopes userId scope old entry member
    exact ⟨copy, kept copy view (untouched copy view user), user, rest⟩

theorem Coherent.calm (calm : Calm world reached)
    (memberships : reached.db.memberships = world.db.memberships)
    (roles : reached.db.orgRoles = world.db.orgRoles) (works : reached.failing .cache = false) :
    Coherent reached := by
  have found : ∀ roleId, reached.db.findOrgRole roleId = world.db.findOrgRole roleId := by
    intro roleId
    unfold findOrgRole
    rw [roles]
  have shows_ : ∀ copy, world.db.Shows copy → reached.db.Shows copy := by
    rintro copy ⟨member, view⟩
    exact ⟨memberships ▸ member, (found _).trans view⟩
  constructor
  case held =>
    intro membership member role view
    rw [memberships] at member
    rw [found] at view
    exact coherent.held membership member role view
  case works => exact works
  case users => exact fun userId copy there => coherent.users userId copy (calm.users _ _ there)
  case memberships =>
    intro orgId userId copy there
    exact (coherent.memberships orgId userId copy (calm.memberships _ _ _ there)).imp_right
      (And.imp_right (shows_ copy))
  case scopes =>
    intro userId scope there entry member
    obtain ⟨copy, view, rest⟩ :=
      coherent.scopes userId scope (calm.scopes _ _ there) entry member
    exact ⟨copy, shows_ copy view, rest⟩

theorem Coherent.putMembership (copy : OrganizationMembership) (view : world.db.Shows copy) :
    Coherent (world.putMembership copy) := by
  refine { coherent with memberships := ?_ }
  intro orgId userId other there
  simp only [World.putMembership] at there
  split_ifs at there with key
  · cases there
    exact ⟨key.1.symm, key.2.symm, view⟩
  · exact coherent.memberships orgId userId other there

theorem Coherent.putUser (user : AuthUser) : Coherent (world.putUser user) := by
  refine { coherent with users := ?_ }
  intro userId copy there
  rcases World.putUser_userCache world user copy userId there with cached | ⟨same, rfl⟩
  · exact coherent.users userId copy cached
  · exact same

end Coherent

end Coherent

variable (userIds : List Nat)

section alone

variable {world : World}

section Nat

variable (coherent : Coherent world) (orgId userId roleId : Nat)
  (own : ∀ role, world.db.findOrgRole roleId = some role → role.organizationId = orgId)

include coherent own

end Nat

section Coherent

variable (coherent : Coherent world)

include coherent

end Coherent

end alone

end HelpForge.Org
