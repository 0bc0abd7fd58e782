import HelpForge.Org.Ownership

set_option autoImplicit false

namespace HelpForge.Org

open Lib.Program (run_bind run_modify run_recover)

open Lib Database
open Auth (invalidateUserPermissionSnapshot)

variable {creators : Creators}

section Deletion

variable (db : Database) (orgId : Nat)

/-- A row of the organisation that no deletion reaches: in a table whose key to it has no
`onDelete`, and which is not emptied first. -/
def hasDependents : Bool :=
  db.tickets.any (·.organizationId == orgId) || db.tags.any (·.organizationId == orgId) ||
    db.agentWorkloads.any (·.organizationId == orgId) ||
    db.aiUsages.any (·.organizationId == orgId) || db.aiConfigs.any (·.organizationId == orgId) ||
    db.ticketSubmissionConfigs.any (·.organizationId == orgId)

structure Gone : Prop where
  organization : ∀ organization ∈ db.organizations, organization.id ≠ orgId
  memberships : ∀ row ∈ db.memberships, row.organizationId ≠ orgId
  orgRoles : ∀ row ∈ db.orgRoles, row.organizationId ≠ orgId
  tickets : ∀ row ∈ db.tickets, row.organizationId ≠ orgId
  tags : ∀ row ∈ db.tags, row.organizationId ≠ orgId
  agentWorkloads : ∀ row ∈ db.agentWorkloads, row.organizationId ≠ orgId
  notifications : ∀ row ∈ db.notifications, row.organizationId ≠ orgId
  aiUsages : ∀ row ∈ db.aiUsages, row.organizationId ≠ orgId
  aiConfigs : ∀ row ∈ db.aiConfigs, row.organizationId ≠ orgId
  ticketSubmissionConfigs : ∀ row ∈ db.ticketSubmissionConfigs, row.organizationId ≠ orgId
  scrapedPages : ∀ row ∈ db.scrapedPages, row.orgId ≠ orgId

def withoutOrganization : Database :=
  -- What the statements of the transaction leave.
  { db with
    memberships := db.memberships.filter (·.organizationId != orgId)
    orgRoles := (db.orgRoles.filter (·.organizationId != orgId)).filter (·.organizationId != orgId)
    organizations := db.organizations.filter (·.id != orgId)
    notifications := db.notifications.filter (·.organizationId != orgId)
    scrapedPages := db.scrapedPages.filter (·.orgId != orgId) }

theorem restricts_without_memberships :
    restrictsOrganization
        { db with
          memberships := db.memberships.filter (·.organizationId != orgId)
          orgRoles := db.orgRoles.filter (·.organizationId != orgId) } orgId =
      hasDependents db orgId := by
  have none : (db.memberships.filter (·.organizationId != orgId)).any
      (·.organizationId == orgId) = false := by
    simp [List.any_filter]
  simp only [restrictsOrganization, none, Bool.false_or, hasDependents]

theorem gone_without (free : hasDependents db orgId = false) :
    Gone (withoutOrganization db orgId) orgId := by
  simp only [hasDependents, Bool.or_eq_false_iff, List.any_eq_false, beq_iff_eq] at free
  obtain ⟨⟨⟨⟨⟨tickets, tags⟩, workloads⟩, usages⟩, configs⟩, submissions⟩ := free
  exact ⟨by simp [withoutOrganization], by simp [withoutOrganization],
    by simp [withoutOrganization], tickets, tags, workloads, by simp [withoutOrganization],
    usages, configs, submissions, by simp [withoutOrganization]⟩

variable {db orgId}

theorem Owned.roles_unreferenced (owned : Owned creators db) (orgId : Nat) :
    (db.orgRoles.any fun role => role.organizationId == orgId &&
      (db.memberships.filter (·.organizationId != orgId)).any (·.roleId == role.id)) = false := by
  -- No member of another organisation has one of its roles.
  simp only [List.any_eq_false, Bool.and_eq_true, beq_iff_eq, List.any_eq_true, List.mem_filter,
    bne_iff_ne, not_and, not_exists]
  intro role listed here membership member same
  obtain ⟨held, found, theirs⟩ := owned.memberRole membership member.1
  obtain ⟨present, identified⟩ := findOrgRole_mem db _ held found
  have equal : held = role :=
    List.inj_on_of_nodup_map owned.roleUnique present listed (identified.trans same)
  rw [equal] at theirs
  exact member.2 (theirs.symm.trans here)

end Deletion

section Service

variable (orgId : Nat) (world : World)

theorem deletion_transaction (owned : Owned creators world.db) (organization : Organization)
    (present : world.db.findOrganization orgId = some organization) :
    ((Program.transaction do
      let userIds ← getOrganizationMemberUserIds orgId
      deleteMembershipsOf orgId
      deleteOrgRolesOf orgId
      let deletedOrganization ← deleteOrganizationRow orgId
      pure (deletedOrganization, userIds)) : Call (Organization × List Nat)).run world =
      if hasDependents world.db orgId then (.error .foreignKeyConstraint, world)
      else (.ok (organization,
          ((world.db.memberships.filter fun membership =>
            membership.organizationId == orgId).map (·.userId)).eraseDups),
        world.withDb fun db => withoutOrganization db orgId) := by
  -- The transaction deletes the organisation, unless a dependent row keeps it.
  have roles := owned.roles_unreferenced orgId
  have restricted := restricts_without_memberships world.db orgId
  have still : Database.findOrganization
      { world.db with
        memberships := world.db.memberships.filter (·.organizationId != orgId)
        orgRoles := world.db.orgRoles.filter (·.organizationId != orgId) } orgId =
      some organization := present
  rw [Program.run_transaction]
  unfold getOrganizationMemberUserIds deleteMembershipsOf deleteOrgRolesOf deleteOrganizationRow
  simp only [run_bind, Program.run_reads, run_modify, Program.run_attempt,
    World.withDb, roles, Bool.false_eq_true, if_false, still, restricted]
  cases hasDependents world.db orgId <;> rfl

theorem invalidateUserPermissionSnapshots_run (userIds : List Nat) :
    ∃ reached, (invalidateUserPermissionSnapshots userIds).run world = (.ok (), reached) ∧
      reached.db = world.db := by
  have dropped (ids : List Nat) (world : World) : ∃ units reached,
      (ids.mapM invalidateUserPermissionSnapshot : Call (List Unit)).run world =
        (.ok units, reached) ∧ reached.db = world.db := by
    induction ids generalizing world with
    | nil => exact ⟨[], world, rfl, rfl⟩
    | cons userId ids ih =>
      obtain ⟨units, reached, ran, same⟩ := ih (world.dropAccessScope userId)
      refine ⟨() :: units, reached, ?_, same⟩
      rw [List.mapM_cons, run_bind]
      simp only [invalidateUserPermissionSnapshot, run_modify]
      rw [run_bind, ran]
      rfl
  obtain ⟨units, reached, ran, same⟩ := dropped userIds.eraseDups world
  refine ⟨reached, ?_, same⟩
  rw [invalidateUserPermissionSnapshots, run_bind, ran]
  rfl

def Deletes : Prop :=
  -- The service succeeds, and nothing is left of the organisation.
  ∃ deleted reached, (deleteOrganizationService orgId).run world = (.ok deleted, reached) ∧
    Gone reached.db orgId

theorem deletes_iff (owned : Owned creators world.db) (organization : Organization)
    (present : world.db.findOrganization orgId = some organization) :
    Deletes orgId world ↔ hasDependents world.db orgId = false := by
  have ran := deletion_transaction orgId world owned organization present
  unfold Deletes deleteOrganizationService deleteOrganization Program.ensuring
  cases dependents : hasDependents world.db orgId with
  | true =>
    rw [dependents, if_pos rfl] at ran
    simp only [run_bind, run_recover, ran,
      invalidateOrganizationMembershipCacheByOrg, run_modify, Program.run_fail]
    simp
  | false =>
    rw [dependents, if_neg Bool.false_ne_true] at ran
    simp only [run_bind, run_recover, ran,
      invalidateOrganizationMembershipCacheByOrg, run_modify, Program.run_pure]
    let left := (world.withDb fun db => withoutOrganization db orgId).dropOrganizationMemberships
      orgId
    obtain ⟨reached, done, same⟩ := invalidateUserPermissionSnapshots_run left
      (((world.db.memberships.filter fun membership =>
        membership.organizationId == orgId).map (·.userId)).eraseDups)
    refine ⟨fun _ => trivial, fun _ => ⟨organization, reached, ?_, ?_⟩⟩
    · rw [done]
    · rw [same]
      exact gone_without world.db orgId dependents

end Service

/-- The owner of an organisation deletes it, with all that refers to it, as long as only members,
roles, notifications and scraped pages do. -/
theorem organization_deleted_iff (seen : List Run) (history : History Run.Empty Step seen)
    (run : Run) (reached : run ∈ seen) (organization : Organization)
    (present : organization ∈ run.world.db.organizations) :
    Deletes organization.id run.world ↔ hasDependents run.world.db organization.id = false := by
  have owned := (history_sound seen history run reached).owned
  cases found : run.world.db.findOrganization organization.id with
  | none =>
    have absent := List.find?_eq_none.mp found organization present
    simp at absent
  | some row => exact deletes_iff organization.id run.world owned row found

def ticketed : Run :=
  -- The organisation gets a ticket.
  { founded with
    world := founded.world.withDb fun db =>
      { db with
        tickets := [{ id := db.nextId, title := "Help", organizationId := 2, createdById := 1 }]
        nextId := db.nextId + 1 } }

theorem founded_history : History Run.Empty Step [founded, registered] :=
  .next [] registered founded (.start registered ⟨rfl, rfl, rfl, fun _ _ => rfl, fun _ => rfl⟩)
    (.request (.createOrganization "Acme" 1) trivial (by simp [Request.actor]))

theorem ticketed_history : History Run.Empty Step [ticketed, founded, registered] :=
  .next [registered] founded ticketed founded_history
    (.elsewhere ticketed.world rfl rfl rfl rfl (Nat.le_succ _))

theorem founded_deleted_iff :
    Deletes 2 founded.world ↔ hasDependents founded.world.db 2 = false :=
  organization_deleted_iff [founded, registered] founded_history founded (by simp)
    { id := 2, name := "Acme" } (by decide)

theorem ticketed_kept :
    History Run.Empty Step [ticketed, founded, registered] ∧
      ((deleteOrganizationService 2).run ticketed.world).1 = .error .foreignKeyConstraint :=
  ⟨ticketed_history, by decide +kernel⟩

end HelpForge.Org
