import HelpForge.Org.Service
import HelpForge.Lib.History
import Mathlib.Data.List.Nodup

set_option autoImplicit false

namespace HelpForge.Org

open Lib.Program (wp_bind wp_orFail_bind wp_pure wp_reads_bind)

open Lib Database

inductive RoleCall where
  | create (orgId : Nat) (body : RoleBody)
  | update (orgId roleId : Nat) (updates : RoleUpdates)
  | invite (orgId userId roleId : Nat)
  | assign (orgId userId roleId : Nat)

def RoleCall.orgId : RoleCall → Nat
  | .create orgId _ => orgId
  | .update orgId _ _ => orgId
  | .invite orgId _ _ => orgId
  | .assign orgId _ _ => orgId

def RoleCall.perform (actor : OrganizationMembership) : RoleCall → Call OrgRole
  | .create orgId body => createRoleService orgId body actor
  | .update orgId roleId updates => updateRoleService orgId roleId updates actor
  | .invite orgId userId roleId => do
    let membership ← inviteMemberInOrganizationService orgId userId roleId actor
    pure membership.role
  | .assign orgId userId roleId => do
    let membership ← updateMemberFromOrganizationService orgId userId roleId actor
    pure membership.role

/-- Roles are told apart by their identifier, and a membership holds a role of its own
organisation. -/
structure RolesInPlace (db : Database) : Prop where
  unique : (db.orgRoles.map (·.id)).Nodup
  held : ∀ membership ∈ db.memberships, ∀ role, db.findOrgRole membership.roleId = some role →
    role.organizationId = membership.organizationId

/-- Whatever reaches `cap` in organisation `orgId` stood in `start` already. -/
structure Capped (start : Database) (orgId : Nat) (cap : Int) (db : Database) : Prop where
  inPlace : RolesInPlace db
  roles : ∀ role ∈ db.orgRoles, role.organizationId = orgId → cap ≤ role.level →
    role ∈ start.orgRoles
  members : ∀ membership ∈ db.memberships, membership.organizationId = orgId →
    ∀ role, db.findOrgRole membership.roleId = some role → cap ≤ role.level →
      membership ∈ start.memberships

section Capped

variable {start db : Database} {orgId : Nat} {cap : Int}

section Capped

variable (capped : Capped start orgId cap db)

include capped

theorem Capped.insertMembership (membership : Membership) (role : OrgRole)
    (found : db.findOrgRole membership.roleId = some role)
    (here : role.organizationId = membership.organizationId)
    (below : membership.organizationId = orgId → role.level < cap) :
    Capped start orgId cap (db.insertMembership membership) := by
  refine ⟨⟨capped.inPlace.unique, ?_⟩, capped.roles, ?_⟩
  · intro other member held view
    rcases List.mem_append.mp member with old | new
    · exact capped.inPlace.held other old held view
    · rw [List.mem_singleton] at new
      subst new
      have same : held = role := Option.some.inj (view.symm.trans found)
      rw [same, here]
  · intro other member there held view high
    rcases List.mem_append.mp member with old | new
    · exact capped.members other old there held view high
    · rw [List.mem_singleton] at new
      subst new
      have same : held = role := Option.some.inj (view.symm.trans found)
      have bound := below there
      rw [same] at high
      omega

theorem Capped.changeMembershipRole (where_ userId : Nat) (role : OrgRole) (roleId : Nat)
    (found : db.findOrgRole roleId = some role) (here : role.organizationId = where_)
    (below : where_ = orgId → role.level < cap) :
    Capped start orgId cap
      { db with
        memberships := changeWhere
          (fun row => row.userId == userId && row.organizationId == where_)
          (fun row => { row with roleId }) db.memberships } := by
  refine ⟨⟨capped.inPlace.unique, ?_⟩, capped.roles, ?_⟩
  · intro other member held view
    rcases mem_changeWhere.mp member with ⟨old, -⟩ | ⟨old, -, hit, rfl⟩
    · exact capped.inPlace.held other old held view
    · simp only [Bool.and_eq_true, beq_iff_eq] at hit
      have same : held = role := Option.some.inj (view.symm.trans found)
      rw [same, here, hit.2]
  · intro other member there held view high
    rcases mem_changeWhere.mp member with ⟨old, -⟩ | ⟨old, -, hit, rfl⟩
    · exact capped.members other old there held view high
    · simp only [Bool.and_eq_true, beq_iff_eq] at hit
      have same : held = role := Option.some.inj (view.symm.trans found)
      have bound := below (hit.2.symm.trans there)
      rw [same] at high
      omega

theorem Capped.changeOrgRole (roleId now : Nat) (updates : RoleUpdates) (role : OrgRole)
    (found : db.findOrgRole roleId = some role)
    (below : role.organizationId = orgId → (applyUpdates updates now role).level < cap) :
    Capped start orgId cap
      { db with
        orgRoles := changeWhere (·.id == roleId) (applyUpdates updates now) db.orgRoles } := by
  obtain ⟨listed, identified⟩ := findOrgRole_mem db roleId role found
  have onlyRole : ∀ other ∈ db.orgRoles, other.id = roleId → other = role := fun other member same =>
    List.inj_on_of_nodup_map capped.inPlace.unique member listed (by rw [same, identified])
  -- A role found after the change is the same as before, or the changed one.
  have afterwards : ∀ id held, Database.findOrgRole
      { db with
        orgRoles := changeWhere (·.id == roleId) (applyUpdates updates now) db.orgRoles } id =
        some held →
      db.findOrgRole id = some held ∨
        (db.findOrgRole id = some role ∧ held = applyUpdates updates now role) := by
    intro id held view
    unfold findOrgRole at view ⊢
    rw [find?_changeWhere _ (by intro row; rfl), Option.map_eq_some_iff] at view
    obtain ⟨before, present, changed⟩ := view
    by_cases same : before.id = roleId
    · have equal := onlyRole before (List.mem_of_find?_eq_some present) same
      subst equal
      simp only [same, beq_self_eq_true, if_true] at changed
      exact .inr ⟨present, changed.symm⟩
    · simp only [beq_iff_eq, same, if_false] at changed
      subst changed
      exact .inl present
  refine ⟨⟨?_, ?_⟩, ?_, ?_⟩
  · rw [map_changeWhere (fun role : OrgRole => role.id) (by intro row; rfl)]
    exact capped.inPlace.unique
  · intro membership member held view
    rcases afterwards membership.roleId held view with before | ⟨before, rfl⟩
    · exact capped.inPlace.held membership member held before
    · exact capped.inPlace.held membership member role before
  · intro other member there high
    rcases mem_changeWhere.mp member with ⟨old, -⟩ | ⟨old, oldMember, hit, rfl⟩
    · exact capped.roles other old there high
    · have equal := onlyRole old oldMember (by simpa using hit)
      subst equal
      have bound := below there
      omega
  · intro membership member there held view high
    rcases afterwards membership.roleId held view with before | ⟨before, rfl⟩
    · exact capped.members membership member there held before high
    · have place := capped.inPlace.held membership member role before
      have bound := below (place.trans there)
      omega

theorem Capped.shown (inPlace : RolesInPlace start) (copy : OrganizationMembership)
    (view : db.Shows copy) (here : copy.organizationId = orgId) (high : cap ≤ copy.role.level) :
    start.Shows copy := by
  obtain ⟨member, found⟩ := view
  obtain ⟨listed, identified⟩ := findOrgRole_mem db copy.roleId copy.role found
  have place := capped.inPlace.held copy.toMembership member copy.role found
  have old := capped.roles copy.role listed (place.trans here) high
  refine ⟨capped.members copy.toMembership member here copy.role found high, ?_⟩
  cases before : start.findOrgRole copy.roleId with
  | none =>
    have missing := List.find?_eq_none.mp before copy.role old
    simp [identified] at missing
  | some role =>
    obtain ⟨stood, same⟩ := findOrgRole_mem start copy.roleId role before
    rw [List.inj_on_of_nodup_map inPlace.unique stood old (same.trans identified.symm)]

end Capped

end Capped

def Bounded (call : RoleCall) (actor : OrganizationMembership) (world : World)
    (result : Except ServiceError OrgRole) (reached : World) : Prop :=
  -- What one call does: the role it answers with lies below the actor's, and nothing rises to a cap
  -- that the actor does not exceed.
  (∀ role, result = .ok role → role.level < actor.role.level) ∧
    ∀ start orgId cap, Capped start orgId cap world.db →
      (call.orgId = orgId → actor.role.level ≤ cap) → Capped start orgId cap reached.db

variable (call : RoleCall) (actor : OrganizationMembership) (world : World)

theorem refused_bounded (reached : World) (failure : ServiceError) (same : reached.db = world.db) :
    Bounded call actor world (.error failure) reached :=
  ⟨by simp, fun _ _ _ capped _ => same ▸ capped⟩

theorem invite_bounded (orgId userId roleId : Nat) (actor : OrganizationMembership) (world : World) :
    ((RoleCall.invite orgId userId roleId).perform actor).wp
      (Bounded (.invite orgId userId roleId) actor world) world := by
  have refused (failure : ServiceError) :=
    refused_bounded (.invite orgId userId roleId) actor world world failure rfl
  unfold RoleCall.perform inviteMemberInOrganizationService getOrgRoleById
  simp only [bind_assoc]
  rw [wp_reads_bind, wp_orFail_bind]
  refine ⟨?_, fun _ => refused _⟩
  intro targetRole chosen
  obtain ⟨found, here⟩ := Option.filter_eq_some_iff.mp chosen
  refine assertCanInviteRole_bind _ _ _ _ _ ?_ refused
  intro _ below
  unfold inviteMemberInOrganization
  simp only [bind_assoc]
  rw [wp_bind]
  refine insertMembership_wp _ _ _ _ _ ?_ refused
  intro role _ _ found'
  have same : role = targetRole := Option.some.inj (found'.symm.trans found)
  subst same
  refine ⟨?_, ?_⟩
  · rintro answered ⟨⟩
    exact below
  · intro start place cap capped bound
    have place' : role.organizationId = orgId := by simpa using here
    refine capped.insertMembership (newMembership world orgId userId roleId) role found place' ?_
    intro same
    have level := bound same
    omega

theorem assign_bounded (orgId userId roleId : Nat) (actor : OrganizationMembership) (world : World) :
    ((RoleCall.assign orgId userId roleId).perform actor).wp
      (Bounded (.assign orgId userId roleId) actor world) world := by
  have refused (failure : ServiceError) (reached : World) (same : reached.db = world.db) :=
    refused_bounded (.assign orgId userId roleId) actor world reached failure same
  unfold RoleCall.perform updateMemberFromOrganizationService getOrgRoleById
  simp only [bind_assoc]
  refine (getOrganizationMembershipByUserId_db orgId userId world.db world rfl).bind ?_
    fun failure reached same => refused failure reached same
  intro target reached same
  rw [wp_orFail_bind]
  refine ⟨?_, fun _ => refused _ _ same⟩
  intro targetMembership _
  rw [wp_reads_bind, wp_orFail_bind]
  refine ⟨?_, fun _ => refused _ _ same⟩
  intro nextRole chosen
  obtain ⟨found, here⟩ := Option.filter_eq_some_iff.mp chosen
  refine assertCanUpdateRole_bind _ _ _ _ _ _ ?_ fun failure => refused failure reached same
  intro _ _ _ below
  unfold updateMembershipRole
  simp only [bind_assoc]
  rw [wp_bind]
  refine changeMembershipRole_wp _ _ _ _ _ ?_ fun failure => refused failure reached same
  intro membership role _ found'
  have equal : role = nextRole := Option.some.inj (found'.symm.trans found)
  subst equal
  refine ⟨?_, ?_⟩
  · rintro answered ⟨⟩
    exact below
  · intro start place cap capped bound
    rw [← same] at capped
    refine capped.changeMembershipRole orgId userId role roleId found (by simpa using here) ?_
    intro there
    have level := bound there
    omega

theorem create_bounded (orgId : Nat) (body : RoleBody) (actor : OrganizationMembership)
    (world : World) :
    ((RoleCall.create orgId body).perform actor).wp (Bounded (.create orgId body) actor world)
      world := by
  unfold RoleCall.perform createRoleService
  rw [Program.wp_require_bind]
  exact ⟨fun _ => refused_bounded _ actor world world _ rfl,
    fun _ => refused_bounded _ actor world world _ rfl⟩

theorem update_bounded (orgId roleId : Nat) (updates : RoleUpdates) (actor : OrganizationMembership)
    (world : World) :
    ((RoleCall.update orgId roleId updates).perform actor).wp
      (Bounded (.update orgId roleId updates) actor world) world := by
  have refused (failure : ServiceError) :=
    refused_bounded (.update orgId roleId updates) actor world world failure rfl
  unfold RoleCall.perform updateRoleService getOrgRoleById
  simp only [wp_reads_bind, wp_orFail_bind, Program.wp_require_bind]
  refine ⟨?_, fun _ => refused _⟩
  intro role chosen
  obtain ⟨found, here⟩ := Option.filter_eq_some_iff.mp chosen
  refine ⟨fun _ => ⟨fun below => ⟨fun allowed => ?_, fun _ => refused _⟩, fun _ => refused _⟩,
    fun _ => refused _⟩
  have under : (applyUpdates updates world.now role).level < actor.role.level := by
    cases given : updates.level with
    | none => simpa [applyUpdates, given] using below
    | some level => simpa [applyUpdates, given] using allowed
  cases updates.name.filter fun name => name != "" with
  | some name => exact refused _
  | none =>
    change (updateOrgRole roleId updates).wp _ world
    unfold updateOrgRole
    rw [wp_bind, Program.wp_transaction, wp_bind]
    refine changeOrgRole_wp _ _ _ _ ?_ refused
    intro role' found'
    have same : role' = role := Option.some.inj (found'.symm.trans found)
    subst same
    have place : role'.organizationId = orgId := by simpa using here
    have kept : ∀ start where_ cap, Capped start where_ cap world.db →
        (orgId = where_ → actor.role.level ≤ cap) → Capped start where_ cap
          { world.db with
            orgRoles :=
              changeWhere (·.id == roleId) (applyUpdates updates world.now) world.db.orgRoles } := by
      intro start where_ cap capped bound
      refine capped.changeOrgRole roleId world.now updates role' found fun there => ?_
      have level := bound (place.symm.trans there)
      omega
    dsimp only
    unfold getOrganizationMemberUserIds invalidateOrganizationMembershipCacheByOrg
    rw [wp_reads_bind, wp_pure]
    dsimp only
    rw [Program.wp_modify_bind]
    refine (invalidateUserPermissionSnapshots_db _ _ _ rfl).bind ?_ ?_
    · intro _ reached after
      rw [wp_pure]
      have changed : reached.db = _ := after
      refine ⟨?_, fun start where_ cap capped bound => ?_⟩
      · rintro answered ⟨⟩
        exact under
      · rw [changed]
        exact kept start where_ cap capped bound
    · intro failure reached after
      have changed : reached.db = _ := after
      refine ⟨by simp, fun start where_ cap capped bound => ?_⟩
      rw [changed]
      exact kept start where_ cap capped bound

theorem perform_bounded : (call.perform actor).wp (Bounded call actor world) world := by
  cases call with
  | create orgId body => exact create_bounded orgId body actor world
  | update orgId roleId updates => exact update_bounded orgId roleId updates actor world
  | invite orgId userId roleId => exact invite_bounded orgId userId roleId actor world
  | assign orgId userId roleId => exact assign_bounded orgId userId roleId actor world

/-- A call by one of `actors`, who acts in the organisation with the membership that some
state of the run shows. -/
inductive RoleStep (actors : Nat → Prop) (seen : List World) (world : World) : World → Prop where
  | call (call : RoleCall) (actor : OrganizationMembership) (acting : actors actor.userId)
      (here : actor.organizationId = call.orgId)
      (held : ∃ earlier ∈ seen, earlier.db.Shows actor) :
      RoleStep actors seen world ((call.perform actor).run world).2

theorem roleStep_capped (actors : Nat → Prop) (start : Database) (orgId : Nat) (cap : Int)
    (inPlace : RolesInPlace start)
    (bound : ∀ copy, start.Shows copy → actors copy.userId → copy.organizationId = orgId →
      copy.role.level ≤ cap)
    (past : List World) (world reached : World)
    (capped : ∀ earlier ∈ world :: past, Capped start orgId cap earlier.db)
    (stepped : RoleStep actors (world :: past) world reached) :
    Capped start orgId cap reached.db := by
  cases stepped with
  | call call actor acting here held =>
    refine (perform_bounded call actor world).2 start orgId cap
      (capped world (List.mem_cons_self ..)) ?_
    intro there
    obtain ⟨earlier, before, view⟩ := held
    by_contra above
    have place := here.trans there
    have stood := (capped earlier before).shown inPlace actor view place (by omega)
    exact above (bound actor stood acting place)

/-- Every call gives its role a level below the actor's. So a run of calls by `actors`, none of
whom exceeds `cap` in the organisation, gives nobody a role that reaches `cap`: whoever holds
one at any time held the same role before the run. -/
theorem roles_stay_below_actors :
    (∀ (call : RoleCall) (actor : OrganizationMembership) (world reached : World) (role : OrgRole),
      (call.perform actor).run world = (.ok role, reached) → role.level < actor.role.level) ∧
    ∀ (actors : Nat → Prop) (start : World) (orgId : Nat) (cap : Int) (seen : List World),
      RolesInPlace start.db →
      (∀ copy, start.db.Shows copy → actors copy.userId → copy.organizationId = orgId →
        copy.role.level ≤ cap) →
      History (· = start) (RoleStep actors) seen →
      ∀ world ∈ seen, ∀ copy, world.db.Shows copy → copy.organizationId = orgId →
        cap ≤ copy.role.level → start.db.Shows copy := by
  constructor
  · intro call actor world reached role performed
    have bounded := perform_bounded call actor world
    unfold Program.wp at bounded
    rw [performed] at bounded
    exact bounded.1 role rfl
  · intro actors start orgId cap seen inPlace bound history world member copy view here high
    have capped : ∀ state ∈ seen, Capped start.db orgId cap state.db :=
      history.invariant
        (fun state same => by
          subst same
          exact ⟨inPlace, fun _ listed _ _ => listed, fun _ listed _ _ _ _ => listed⟩)
        (fun past state reached earlier stepped =>
          roleStep_capped actors start.db orgId cap inPlace bound past state reached earlier stepped)
    exact (capped world member).shown inPlace copy view here high

def registeredWorld : World :=
  { db :=
      { users :=
          [{ id := 1, email := "owner@acme.test", password := "hash" },
            { id := 2, email := "admin@acme.test", password := "hash" },
            { id := 3, email := "agent@acme.test", password := "hash" }]
        nextId := 4 } }

def foundedWorld : World := ((createOrganizationService "Acme" 1).run registeredWorld).2

def roleFrom (id : Nat) (template : RoleTemplate) : OrgRole :=
  { id
    name := template.name
    organizationId := 4
    permissions := template.permissions
    level := template.level
    isSystem := template.isSystem }

def ownerCopy : OrganizationMembership :=
  { id := 9, userId := 1, organizationId := 4, roleId := 5, role := roleFrom 5 defaultRoles[0] }

def adminWorld : World :=
  ((inviteMemberInOrganizationService 4 2 6 ownerCopy).run foundedWorld).2

def adminCopy : OrganizationMembership :=
  { id := 10, userId := 2, organizationId := 4, roleId := 6, role := roleFrom 6 defaultRoles[1] }

def agentWorld : World := ((inviteMemberInOrganizationService 4 3 7 adminCopy).run adminWorld).2

/-- The administrator may invite an agent, whose role holds a permission that the
administrator's does not. -/
theorem permissions_not_contained :
    ¬∀ (call : RoleCall) (actor : OrganizationMembership) (world reached : World) (role : OrgRole),
      world.db.Shows actor → (call.perform actor).run world = (.ok role, reached) →
        ∀ permission ∈ role.permissions, permission ∈ actor.role.permissions := by
  intro contained
  have held := contained (.invite 4 3 7) adminCopy adminWorld agentWorld
    (roleFrom 7 defaultRoles[2]) ⟨by decide, by decide⟩ rfl .agentUpdateAvailability (by decide)
  revert held
  decide

theorem adminWorld_inPlace : RolesInPlace adminWorld.db := by
  refine ⟨by decide, ?_⟩
  intro membership member role found
  have all : ∀ membership ∈ adminWorld.db.memberships,
      (adminWorld.db.findOrgRole membership.roleId).all
        (fun role => role.organizationId == membership.organizationId) = true := by decide
  have here := all membership member
  rw [found] at here
  simpa using here

theorem adminWorld_bound (copy : OrganizationMembership) (view : adminWorld.db.Shows copy)
    (acting : copy.userId = 2) : copy.role.level ≤ 75 := by
  have all : ∀ membership ∈ adminWorld.db.memberships, membership.userId = 2 →
      (adminWorld.db.findOrgRole membership.roleId).all (fun role => role.level ≤ 75) = true := by
    decide
  have below := all copy.toMembership view.1 acting
  rw [view.2] at below
  simpa using below

theorem agent_stays_below_admin :
    (roleFrom 7 defaultRoles[2]).level < adminCopy.role.level ∧
      ∀ copy, agentWorld.db.Shows copy → copy.organizationId = 4 → 75 ≤ copy.role.level →
        adminWorld.db.Shows copy :=
  ⟨roles_stay_below_actors.1 (.invite 4 3 7) adminCopy adminWorld agentWorld _ rfl,
    roles_stay_below_actors.2 (· = 2) adminWorld 4 75 [agentWorld, adminWorld] adminWorld_inPlace
      (fun copy view acting _ => adminWorld_bound copy view acting)
      (.next [] adminWorld agentWorld (.start adminWorld rfl)
        (.call (.invite 4 3 7) adminCopy rfl rfl ⟨adminWorld, by simp, by decide, by decide⟩))
      agentWorld (by simp)⟩

end HelpForge.Org
