import HelpForge.Org.Ownership

set_option autoImplicit false

namespace HelpForge.Org

open Lib Database
open Lib.Program (Keeps)
open Auth (invalidateUserPermissionSnapshot)

/-- Neither two roles with one identifier, nor two of one organisation with one name. -/
structure DistinctRoles (db : Database) : Prop where
  fresh : ∀ role ∈ db.orgRoles, role.id < db.nextId
  ids : (db.orgRoles.map (·.id)).Nodup
  names : (db.orgRoles.map fun role => (role.organizationId, role.name)).Nodup

section Distinct

variable {db other : Database}

theorem DistinctRoles.same (distinct : DistinctRoles db) (roles : other.orgRoles = db.orgRoles)
    (grown : db.nextId ≤ other.nextId) : DistinctRoles other := by
  refine ⟨fun role listed => ?_, by rw [roles]; exact distinct.ids, by
    rw [roles]; exact distinct.names⟩
  rw [roles] at listed
  exact (distinct.fresh role listed).trans_le grown

theorem DistinctRoles.fewer (distinct : DistinctRoles db) (keep : OrgRole → Bool)
    (roles : other.orgRoles = db.orgRoles.filter keep) (same : other.nextId = db.nextId) :
    DistinctRoles other := by
  have sublist : (db.orgRoles.filter keep).Sublist db.orgRoles := List.filter_sublist
  refine ⟨fun role listed => ?_, ?_, ?_⟩
  · rw [roles] at listed
    rw [same]
    exact distinct.fresh role (List.mem_of_mem_filter listed)
  · rw [roles]
    exact distinct.ids.sublist (sublist.map _)
  · rw [roles]
    exact distinct.names.sublist (sublist.map _)

theorem DistinctRoles.insert (distinct : DistinctRoles db) (role : OrgRole)
    (identified : role.id = db.nextId)
    (free : ∀ other ∈ db.orgRoles, other.organizationId = role.organizationId →
      other.name ≠ role.name) : DistinctRoles (db.insertOrgRoles [role]) := by
  refine ⟨fun other listed => ?_, ?_, ?_⟩
  · change other ∈ db.orgRoles ++ [role] at listed
    change other.id < db.nextId + 1
    rcases List.mem_append.mp listed with old | new
    · have before := distinct.fresh other old
      omega
    · rw [List.mem_singleton.mp new]
      omega
  · simp only [insertOrgRoles, List.map_append, List.map_singleton]
    refine List.Nodup.append distinct.ids (List.nodup_singleton _) ?_
    rw [List.disjoint_singleton, List.mem_map]
    rintro ⟨other, old, same⟩
    have before := distinct.fresh other old
    omega
  · simp only [insertOrgRoles, List.map_append, List.map_singleton]
    refine List.Nodup.append distinct.names (List.nodup_singleton _) ?_
    rw [List.disjoint_singleton, List.mem_map]
    rintro ⟨other, old, same⟩
    exact free other old (congrArg Prod.fst same) (congrArg Prod.snd same)

theorem DistinctRoles.change (distinct : DistinctRoles db) (roleId now : Nat)
    (updates : RoleUpdates) (role : OrgRole) (found : db.findOrgRole roleId = some role)
    (free : ∀ other ∈ db.orgRoles, other.id ≠ roleId →
      other.organizationId = role.organizationId →
        other.name ≠ (applyUpdates updates now role).name) :
    DistinctRoles { db with
      orgRoles := changeWhere (·.id == roleId) (applyUpdates updates now) db.orgRoles } := by
  have same (one two : OrgRole) (first : one ∈ db.orgRoles) (second : two ∈ db.orgRoles)
      (identified : one.id = two.id) : one = two :=
    List.inj_on_of_nodup_map distinct.ids first second identified
  obtain ⟨listed, identified⟩ := findOrgRole_mem db roleId role found
  refine ⟨fun other among => ?_, ?_, ?_⟩
  · rcases mem_changeWhere.mp among with ⟨old, -⟩ | ⟨before, old, -, rfl⟩
    · exact distinct.fresh other old
    · exact distinct.fresh before old
  · have kept : (changeWhere (·.id == roleId) (applyUpdates updates now) db.orgRoles).map (·.id) =
        db.orgRoles.map (·.id) := map_changeWhere _ fun _ => rfl
    exact kept ▸ distinct.ids
  · unfold changeWhere
    rw [List.map_map]
    refine List.Nodup.map_on ?_ (List.Nodup.of_map _ distinct.ids)
    -- Two roles: both are changed, one is, or neither.
    intro one first two second named
    simp only [Function.comp_apply] at named
    by_cases hit : one.id = roleId <;> by_cases other : two.id = roleId
    · exact same one two first second (hit.trans other.symm)
    · obtain rfl := same one role first listed (hit.trans identified.symm)
      simp only [hit, other, beq_self_eq_true, if_true, beq_iff_eq, if_false] at named
      exact absurd (congrArg Prod.snd named).symm (free two second other (congrArg Prod.fst named).symm)
    · obtain rfl := same two role second listed (other.trans identified.symm)
      simp only [hit, other, beq_self_eq_true, if_true, beq_iff_eq, if_false] at named
      exact absurd (congrArg Prod.snd named) (free one first hit (congrArg Prod.fst named))
    · simp only [hit, other, beq_iff_eq, if_false] at named
      exact List.inj_on_of_nodup_map distinct.names first second named

end Distinct

section Services

variable {α : Type}

abbrev KeepsNames (call : Call α) : Prop := Keeps (fun world => DistinctRoles world.db) call

theorem modify_keepsNames (change : World → World)
    (roles : ∀ world, (change world).db.orgRoles = world.db.orgRoles)
    (grown : ∀ world, world.db.nextId ≤ (change world).db.nextId) :
    KeepsNames (Program.modify change) :=
  Keeps.modify fun world distinct => distinct.same (roles world) (grown world)

theorem attempt_keepsNames {body : World → Except ServiceError (α × World)}
    (kept : ∀ world value reached, body world = .ok (value, reached) →
      reached.db.orgRoles = world.db.orgRoles ∧ world.db.nextId ≤ reached.db.nextId) :
    KeepsNames (Program.attempt body) :=
  Keeps.attempt fun world value reached distinct done =>
    distinct.same (kept world value reached done).1 (kept world value reached done).2

theorem invalidateUserPermissionSnapshot_keepsNames (userId : Nat) :
    KeepsNames (invalidateUserPermissionSnapshot userId) :=
  modify_keepsNames _ (fun _ => rfl) fun _ => le_rfl

theorem invalidateUserPermissionSnapshots_keepsNames (userIds : List Nat) :
    KeepsNames (invalidateUserPermissionSnapshots userIds) :=
  (Keeps.mapM fun userId _ => invalidateUserPermissionSnapshot_keepsNames userId).bind fun _ =>
    Keeps.pure _

theorem setCachedOrganizationMembership_keepsNames (membership : OrganizationMembership) :
    KeepsNames (setCachedOrganizationMembership membership) :=
  modify_keepsNames _ (fun _ => rfl) fun _ => le_rfl

variable (orgId : Nat)

theorem invalidateOrganizationMembershipCacheByOrg_keepsNames :
    KeepsNames (invalidateOrganizationMembershipCacheByOrg orgId) :=
  modify_keepsNames _ (fun _ => rfl) fun _ => le_rfl

theorem insertOrgRole_keepsNames (template : RoleTemplate) :
    KeepsNames (insertOrgRole orgId template) := by
  refine Keeps.attempt fun world value reached distinct done => ?_
  split_ifs at done with taken
  cases done
  refine distinct.insert _ rfl fun other listed here named => taken ?_
  rw [List.any_eq_true]
  exact ⟨other, listed, by simpa using ⟨here, named⟩⟩

variable (userId : Nat)

theorem insertMembership_keepsNames (roleId : Nat) :
    KeepsNames (insertMembership orgId userId roleId) := by
  refine attempt_keepsNames fun world value reached done => ?_
  split_ifs at done
  cases found : world.db.findOrgRole roleId with
  | none => simp [found] at done
  | some role =>
    simp only [found] at done
    cases done
    exact ⟨rfl, Nat.le_succ _⟩

theorem createOrganizationService_keepsNames (name : String) (userId : Nat) :
    KeepsNames (createOrganizationService name userId) := by
  refine Keeps.bind (Keeps.reads _) fun existingOrg => ?_
  refine Keeps.bind (Keeps.require _ _) fun _ => ?_
  refine Keeps.bind (Keeps.transaction ?_) fun _ => Keeps.orFail _ _
  have inserted : KeepsNames (insertOrganization name) := by
    refine attempt_keepsNames fun world value reached done => ?_
    split_ifs at done
    cases done
    exact ⟨rfl, Nat.le_succ _⟩
  refine inserted.bind fun organization => ?_
  refine Keeps.bind (Keeps.mapM fun template _ => insertOrgRole_keepsNames _ template) fun _ => ?_
  refine Keeps.bind (Keeps.reads _) fun ownerRole => ?_
  cases ownerRole with
  | none => exact Keeps.pure _
  | some ownerRole =>
    refine (insertMembership_keepsNames _ _ _).bind fun membership => ?_
    refine Keeps.bind (Keeps.reads _) fun hydrated => ?_
    refine Keeps.bind ?_ fun _ =>
      (invalidateUserPermissionSnapshot_keepsNames _).bind fun _ => Keeps.pure _
    unfold cacheMembershipOf
    split
    · exact setCachedOrganizationMembership_keepsNames _
    · exact Keeps.pure _

theorem inviteMember_keepsNames (roleId : Nat) (actor : OrganizationMembership) :
    KeepsNames (inviteMemberInOrganizationService orgId userId roleId actor) := by
  refine Keeps.bind (Keeps.reads _) fun found => Keeps.bind (Keeps.orFail _ _) fun targetRole => ?_
  refine Keeps.bind (Keeps.bind (Keeps.require _ _) fun _ => Keeps.require _ _) fun _ => ?_
  refine (insertMembership_keepsNames _ _ _).bind fun membership => ?_
  exact (setCachedOrganizationMembership_keepsNames _).bind fun _ =>
    (invalidateUserPermissionSnapshot_keepsNames _).bind fun _ => Keeps.pure _

theorem getOrganizationMembershipByUserId_keepsNames :
    KeepsNames (getOrganizationMembershipByUserId orgId userId) := by
  refine Keeps.bind (Keeps.reads _) fun cached => ?_
  cases cached with
  | some copy => exact Keeps.pure _
  | none =>
    refine Keeps.bind (Keeps.reads _) fun found => ?_
    cases found with
    | none => exact Keeps.pure _
    | some membership =>
      exact (setCachedOrganizationMembership_keepsNames _).bind fun _ => Keeps.pure _

theorem updateMember_keepsNames (roleId : Nat) (actor : OrganizationMembership) :
    KeepsNames (updateMemberFromOrganizationService orgId userId roleId actor) := by
  refine (getOrganizationMembershipByUserId_keepsNames _ _).bind fun target => ?_
  refine Keeps.bind (Keeps.orFail _ _) fun target => ?_
  refine Keeps.bind (Keeps.reads _) fun found => Keeps.bind (Keeps.orFail _ _) fun nextRole => ?_
  refine Keeps.bind ?_ fun _ => ?_
  · exact Keeps.bind (Keeps.require _ _) fun _ => Keeps.bind (Keeps.require _ _) fun _ =>
      Keeps.bind (Keeps.require _ _) fun _ => Keeps.bind (Keeps.require _ _) fun _ =>
        Keeps.require _ _
  · have changed : KeepsNames (changeMembershipRole orgId userId roleId) := by
      refine attempt_keepsNames fun world value reached done => ?_
      split at done <;> cases done
      exact ⟨rfl, le_rfl⟩
    exact changed.bind fun _ => (setCachedOrganizationMembership_keepsNames _).bind fun _ =>
      (invalidateUserPermissionSnapshot_keepsNames _).bind fun _ => Keeps.pure _

theorem createRole_keepsNames (body : RoleBody) (actor : OrganizationMembership) :
    KeepsNames (createRoleService orgId body actor) := by
  refine Keeps.bind (Keeps.require _ _) fun _ => Keeps.bind (Keeps.fail _) fun existing => ?_
  refine Keeps.bind (Keeps.require _ _) fun _ => ?_
  refine Keeps.bind (Keeps.transaction (insertOrgRole_keepsNames _ _)) fun role => ?_
  exact Keeps.bind (Keeps.reads _) fun _ =>
    (invalidateUserPermissionSnapshots_keepsNames _).bind fun _ => Keeps.pure _

variable (roleId : Nat) (updates : RoleUpdates)

theorem changeOrgRole_keepsNames : KeepsNames (changeOrgRole roleId updates) := by
  refine Keeps.attempt fun world value reached distinct done => ?_
  cases found : world.db.findOrgRole roleId with
  | none => simp [found] at done
  | some role =>
    simp only [found] at done
    split_ifs at done with taken
    cases done
    refine distinct.change roleId world.now updates role found fun other listed ne here named =>
      taken ?_
    rw [List.any_eq_true]
    exact ⟨other, listed, by simpa using ⟨⟨ne, here⟩, named⟩⟩

variable (actor : OrganizationMembership)

theorem updateRole_keepsNames : KeepsNames (updateRoleService orgId roleId updates actor) := by
  have written : KeepsNames (updateOrgRole roleId updates) := by
    refine Keeps.bind (Keeps.transaction ((changeOrgRole_keepsNames _ _).bind fun _ =>
      Keeps.bind (Keeps.reads _) fun _ => Keeps.pure _)) fun _ => ?_
    exact (invalidateOrganizationMembershipCacheByOrg_keepsNames _).bind fun _ =>
      (invalidateUserPermissionSnapshots_keepsNames _).bind fun _ => Keeps.pure _
  refine Keeps.bind (Keeps.reads _) fun found => Keeps.bind (Keeps.orFail _ _) fun role => ?_
  refine Keeps.bind (Keeps.require _ _) fun _ => Keeps.bind (Keeps.require _ _) fun _ => ?_
  refine Keeps.bind (Keeps.require _ _) fun _ => ?_
  cases updates.name.filter fun name => name != "" with
  | none => exact written
  | some name =>
    exact Keeps.bind (Keeps.fail _) fun _ => Keeps.bind (Keeps.require _ _) fun _ => written

theorem deleteRole_keepsNames : KeepsNames (deleteRoleService orgId roleId actor) := by
  have removed : KeepsNames (deleteOrgRoleRow roleId) := by
    refine Keeps.attempt fun world value reached distinct done => ?_
    cases found : world.db.findOrgRole roleId with
    | none => simp [found] at done
    | some role =>
      simp only [found] at done
      split_ifs at done
      cases done
      exact distinct.fewer _ rfl rfl
  refine Keeps.bind (Keeps.reads _) fun found => Keeps.bind (Keeps.orFail _ _) fun role => ?_
  refine Keeps.bind (Keeps.require _ _) fun _ => Keeps.bind (Keeps.require _ _) fun _ => ?_
  refine removed.bind fun role => Keeps.bind (Keeps.reads _) fun userIds => ?_
  exact (invalidateOrganizationMembershipCacheByOrg_keepsNames _).bind fun _ =>
    (invalidateUserPermissionSnapshots_keepsNames _).bind fun _ => Keeps.pure _

theorem deleteOrganization_keepsNames : KeepsNames (deleteOrganizationService orgId) := by
  have members : KeepsNames (deleteMembershipsOf orgId) :=
    modify_keepsNames _ (fun _ => rfl) fun _ => le_rfl
  have roles : KeepsNames (deleteOrgRolesOf orgId) := by
    refine Keeps.attempt fun world value reached distinct done => ?_
    split_ifs at done
    cases done
    exact distinct.fewer _ rfl rfl
  have row : KeepsNames (deleteOrganizationRow orgId) := by
    refine Keeps.attempt fun world value reached distinct done => ?_
    cases found : world.db.findOrganization orgId with
    | none => simp [found] at done
    | some organization =>
      simp only [found] at done
      split_ifs at done
      cases done
      exact distinct.fewer _ rfl rfl
  refine Keeps.bind (Keeps.ensuring (Keeps.transaction ?_)
    (invalidateOrganizationMembershipCacheByOrg_keepsNames orgId)) fun deleted => ?_
  · exact Keeps.bind (Keeps.reads _) fun _ => members.bind fun _ => roles.bind fun _ =>
      row.bind fun _ => Keeps.pure _
  · exact (invalidateUserPermissionSnapshots_keepsNames _).bind fun _ => Keeps.pure _

end Services

theorem serve_distinct (run : Run) (request : Request) (distinct : DistinctRoles run.world.db) :
    DistinctRoles (request.serve run).world.db := by
  -- A request ends with distinct roles if it has found them distinct.
  cases request with
  | createOrganization name userId =>
    exact createOrganizationService_keepsNames name userId run.world distinct
  | inviteMember orgId userId roleId actor =>
    exact inviteMember_keepsNames orgId userId roleId actor run.world distinct
  | updateMember orgId userId roleId actor =>
    exact updateMember_keepsNames orgId userId roleId actor run.world distinct
  | createRole orgId body actor => exact createRole_keepsNames orgId body actor run.world distinct
  | updateRole orgId roleId updates actor =>
    exact updateRole_keepsNames orgId roleId updates actor run.world distinct
  | deleteRole orgId roleId actor =>
    exact deleteRole_keepsNames orgId roleId actor run.world distinct
  | deleteOrganization orgId => exact deleteOrganization_keepsNames orgId run.world distinct

theorem history_distinct (seen : List Run) (history : History Run.Empty Step seen) :
    ∀ run ∈ seen, DistinctRoles run.world.db := by
  refine @History.invariant Run _ _ (fun run => DistinctRoles run.world.db) ?_ ?_ _ history
  · rintro run ⟨-, roles, -⟩
    refine ⟨?_, ?_, ?_⟩ <;> simp [roles]
  · intro past run reached distinct stepped
    have now := distinct run (List.mem_cons_self ..)
    cases stepped with
    | request request _ _ => exact serve_distinct run request now
    | copied copy earlier _ _ => exact now.same rfl le_rfl
    | expired orgId userId => exact now.same rfl le_rfl
    | elsewhere world _ roles _ _ grown => exact now.same roles grown

section Laws

def NameFree (db : Database) (orgId : Nat) (name : String) : Prop :=
  ∀ role ∈ db.orgRoles, role.organizationId = orgId → role.name ≠ name

structure NewRole (world reached : World) (orgId : Nat) (body : RoleBody) (role : OrgRole) :
    Prop where
  stored : role ∈ reached.db.orgRoles
  new : ∀ old ∈ world.db.orgRoles, old.id ≠ role.id
  place : role.organizationId = orgId
  custom : role.isSystem = false
  name : role.name = body.name
  level : role.level = body.level
  permissions : ∀ permission, permission ∈ role.permissions ↔ permission ∈ body.permissions

def CreatesLawfully (orgId : Nat) (body : RoleBody) (actor : OrganizationMembership)
    (world : World) : Prop :=
  -- A role is created if it lies below the actor's and its name is free, and refused for one of the
  -- two else.
  let (result, reached) := (createRoleService orgId body actor).run world
  (body.level < actor.role.level ∧ NameFree world.db orgId body.name →
    ∃ role, result = .ok role ∧ NewRole world reached orgId body role) ∧
  (¬(body.level < actor.role.level ∧ NameFree world.db orgId body.name) →
    ∃ status message, result = .error (.api status message "ROLE_LEVEL_FORBIDDEN") ∨
      result = .error (.api status message "ROLE_NAME_EXISTS"))

/-- A custom role of the organisation that lies below the actor's and stays there, and no other one
has the name. -/
structure MayRename (orgId roleId : Nat) (updates : RoleUpdates) (name : String)
    (actor : OrganizationMembership) (db : Database) : Prop where
  role : ∃ role, db.findOrgRole roleId = some role ∧ role.organizationId = orgId ∧
    role.isSystem = false ∧ role.level < actor.role.level
  level : ∀ level ∈ updates.level, level < actor.role.level
  free : ∀ other ∈ db.orgRoles, other.organizationId = orgId → other.name = name →
    other.id = roleId

def RenamesLawfully (orgId roleId : Nat) (updates : RoleUpdates) (name : String)
    (actor : OrganizationMembership) (world : World) : Prop :=
  (∃ role reached, (updateRoleService orgId roleId updates actor).run world =
      (.ok role, reached) ∧
    role.id = roleId ∧ role.name = name ∧ role ∈ reached.db.orgRoles) ↔
  MayRename orgId roleId updates name actor world.db

variable (orgId : Nat) (actor : OrganizationMembership) (world : World) (body : RoleBody)

theorem createRoleService_high (high : actor.role.level ≤ body.level) :
    (createRoleService orgId body actor).run world =
      (.error (.api 403 "Cannot create a role with level equal to or higher than yours"
        "ROLE_LEVEL_FORBIDDEN"), world) := by
  simp [createRoleService, Program.run_bind, Program.run_require, Int.not_lt.mpr high]

theorem createRoleService_low (low : body.level < actor.role.level) :
    (createRoleService orgId body actor).run world =
      (.error (.javascript "ReferenceError" "getOrgRoleByName is not defined"), world) := by
  -- Past the levels the look-up fails, as nothing has its name.
  simp [createRoleService, Program.run_bind, Program.run_require, low, getOrgRoleByName,
    unresolved]

theorem creates_lawfully_iff :
    CreatesLawfully orgId body actor world ↔ actor.role.level ≤ body.level := by
  unfold CreatesLawfully
  by_cases low : body.level < actor.role.level
  · simp [createRoleService_low orgId actor world body low, low]
  · have high := Int.not_lt.mp low
    simp [createRoleService_high orgId actor world body high, low, high]

theorem updateRoleService_named (roleId : Nat) (updates : RoleUpdates) (name : String)
    (named : updates.name = some name) (given : name ≠ "") (role : OrgRole) (reached : World) :
    (updateRoleService orgId roleId updates actor).run world ≠ (.ok role, reached) := by
  intro done
  unfold updateRoleService at done
  obtain ⟨found, first, -, done⟩ := (Program.bind_ok ..).mp done
  rw [Program.orFail_bind_ok] at done
  obtain ⟨held, -, done⟩ := done
  simp only [Program.require_bind_ok] at done
  obtain ⟨-, -, -, done⟩ := done
  have sought : updates.name.filter (fun name => name != "") = some name := by simp [named, given]
  rw [sought] at done
  simp [getOrgRoleByName, unresolved] at done

/-- In every state that the services reach, names are unique. A role is created lawfully where its
level alone forbids it, and renamed lawfully where it may not be renamed. -/
theorem role_names_iff (seen : List Run) (history : History Run.Empty Step seen) (run : Run)
    (reached : run ∈ seen) (orgId roleId : Nat) (actor : OrganizationMembership)
    (body : RoleBody) (updates : RoleUpdates) (admitted : updates.Admitted) (name : String) (named : updates.name = some name) :
    DistinctRoles run.world.db ∧
      (CreatesLawfully orgId body actor run.world ↔ actor.role.level ≤ body.level) ∧
      (RenamesLawfully orgId roleId updates name actor run.world ↔
        ¬MayRename orgId roleId updates name actor run.world.db) := by
  refine ⟨history_distinct seen history run reached, creates_lawfully_iff .., ?_⟩
  have given : name ≠ "" := by
    rintro rfl
    have length := (admitted.1 "" named).1
    simp at length
  have never := updateRoleService_named orgId actor run.world roleId updates name named given
  unfold RenamesLawfully
  constructor
  · intro law may
    obtain ⟨role, left, done, -⟩ := law.mpr may
    exact never role left done
  · intro mayNot
    refine ⟨fun ⟨role, left, done, _⟩ => absurd done (never role left), fun may => absurd may mayNot⟩

end Laws

def supportRole : RoleBody where
  name := "SUPPORT"
  permissions := [.ticketViewAll]
  level := 20

def foundingOwner : OrganizationMembership where
  id := 7
  userId := 1
  organizationId := 2
  roleId := 3
  role :=
    { id := 3, name := "OWNER", organizationId := 2, permissions := allPermissions, level := 100
      isSystem := true }

theorem foundingOwner_names :
    DistinctRoles founded.world.db ∧
      (CreatesLawfully 2 { supportRole with level := 99 } foundingOwner founded.world ↔
        (100 : Int) ≤ 99) ∧
      (RenamesLawfully 2 4 { name := some "SUPPORT" } "SUPPORT" foundingOwner founded.world ↔
        ¬MayRename 2 4 { name := some "SUPPORT" } "SUPPORT" foundingOwner founded.world.db) :=
  role_names_iff [founded, registered]
    (.next [] registered founded (.start registered ⟨rfl, rfl, rfl, fun _ _ => rfl, fun _ => rfl⟩)
      (.request (.createOrganization "Acme" 1) trivial (by simp [Request.actor])))
    founded (by simp) 2 4 foundingOwner { supportRole with level := 99 } { name := some "SUPPORT" }
    ⟨by rintro name ⟨⟩; decide, by simp, by simp⟩ "SUPPORT" rfl

/-- The first custom role of an organisation is not created. -/
theorem supportRole_lost :
    founded.world.db.Shows foundingOwner ∧ supportRole.Admitted ∧
      supportRole.level < foundingOwner.role.level ∧
      NameFree founded.world.db 2 supportRole.name ∧
      ((createRoleService 2 supportRole foundingOwner).run founded.world).1 =
        .error (.javascript "ReferenceError" "getOrgRoleByName is not defined") := by
  refine ⟨⟨by decide, by decide⟩, by unfold RoleBody.Admitted; decide, by decide, ?_, by decide⟩
  unfold NameFree
  decide

end HelpForge.Org
