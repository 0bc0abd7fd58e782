import HelpForge.Org.Service
import HelpForge.Lib.History
import Mathlib.Data.List.Nodup

set_option autoImplicit false

namespace HelpForge.Org

open Lib.Program (wp_bind wp_orFail_bind wp_reads_bind wp_require_bind wp_transaction)

open Lib Database
open Auth (invalidateUserPermissionSnapshot)

def isOwnerRole (role : OrgRole) : Bool := role.isSystem && role.name == "OWNER"

def isOwnerMembership (db : Database) (orgId : Nat) (membership : Membership) : Bool :=
  membership.organizationId == orgId && (db.findOrgRole membership.roleId).any isOwnerRole

def ownerMemberships (db : Database) (orgId : Nat) : List Membership :=
  db.memberships.filter (isOwnerMembership db orgId)

abbrev Creators := Nat → Option Nat

structure Owned (creators : Creators) (db : Database) : Prop where
  roleFresh : ∀ role ∈ db.orgRoles, role.id < db.nextId ∧ role.organizationId < db.nextId
  roleLevel : ∀ role ∈ db.orgRoles, role.level ≤ 100
  ownerLevel : ∀ role ∈ db.orgRoles, isOwnerRole role = true → role.level = 100
  organizationFresh : ∀ organization ∈ db.organizations, organization.id < db.nextId
  memberOrganization : ∀ membership ∈ db.memberships,
    ∃ organization ∈ db.organizations, organization.id = membership.organizationId
  memberRole : ∀ membership ∈ db.memberships,
    ∃ role, db.findOrgRole membership.roleId = some role ∧
      role.organizationId = membership.organizationId
  roleUnique : (db.orgRoles.map (·.id)).Nodup
  memberUnique : (db.memberships.map fun membership =>
    (membership.userId, membership.organizationId)).Nodup
  creatorFresh : ∀ orgId creator, creators orgId = some creator → orgId < db.nextId
  owned : ∀ organization ∈ db.organizations, ∃ creator membership,
    creators organization.id = some creator ∧
      ownerMemberships db organization.id = [membership] ∧ membership.userId = creator

def CopySound (creators : Creators) (copy : OrganizationMembership) : Prop :=
  -- A copy of a membership that the level checks may rely on, however old it is.
  copy.role.level ≤ 100 ∧ ∃ creator, creators copy.organizationId = some creator ∧
    (copy.userId = creator → copy.role.level = 100)

def Extends (later earlier : Creators) : Prop :=
  ∀ orgId creator, earlier orgId = some creator → later orgId = some creator

theorem Extends.refl (creators : Creators) : Extends creators creators := fun _ _ known => known

theorem Extends.trans {first second third : Creators} (older : Extends second first)
    (newer : Extends third second) : Extends third first :=
  fun orgId creator known => newer orgId creator (older orgId creator known)

theorem CopySound.later {creators later : Creators} {copy : OrganizationMembership}
    (copied : CopySound creators copy) (grown : Extends later creators) : CopySound later copy := by
  obtain ⟨bounded, creator, recorded, top⟩ := copied
  exact ⟨bounded, creator, grown _ _ recorded, top⟩

structure Sound (creators : Creators) (world : World) : Prop where
  owned : Owned creators world.db
  copies : ∀ orgId userId copy, world.membershipCache orgId userId = some copy →
    copy.organizationId = orgId ∧ copy.userId = userId ∧ CopySound creators copy

theorem mem_ownerMemberships (db : Database) (orgId : Nat) (membership : Membership) :
    membership ∈ ownerMemberships db orgId ↔
      membership ∈ db.memberships ∧ membership.organizationId = orgId ∧
        ∃ role, db.findOrgRole membership.roleId = some role ∧ isOwnerRole role = true := by
  simp only [ownerMemberships, isOwnerMembership, List.mem_filter, Bool.and_eq_true, beq_iff_eq,
    Option.any_eq_true]

theorem any_isOwnerRole_changeOrgRole (db : Database) (roleId now : Nat) (updates : RoleUpdates)
    (custom : ∀ role ∈ db.orgRoles, role.id = roleId → role.isSystem = false) (id : Nat) :
    (Database.findOrgRole
        { db with
          orgRoles := changeWhere (·.id == roleId) (applyUpdates updates now) db.orgRoles } id).any
        isOwnerRole = (db.findOrgRole id).any isOwnerRole := by
  unfold Database.findOrgRole
  rw [find?_changeWhere _ (by intro row; rfl)]
  cases other : db.orgRoles.find? fun role => role.id == id with
  | none => rfl
  | some role =>
    by_cases same : role.id = roleId
    · have plain := custom role (List.mem_of_find?_eq_some other) same
      simp [same, isOwnerRole, applyUpdates, plain]
    · simp [same]

section Owned

variable {creators : Creators} {db : Database}

section Owned

variable (sound : Owned creators db)

include sound

theorem Owned.member_eq {first second : Membership} (one : first ∈ db.memberships)
    (other : second ∈ db.memberships) (sameUser : first.userId = second.userId)
    (sameOrganization : first.organizationId = second.organizationId) : first = second := by
  refine List.inj_on_of_nodup_map sound.memberUnique one other ?_
  simp [sameUser, sameOrganization]

theorem Owned.shown (copy : OrganizationMembership) (shown : db.Shows copy) :
    CopySound creators copy := by
  obtain ⟨member, found⟩ := shown
  obtain ⟨listed, -⟩ := findOrgRole_mem db copy.roleId copy.role found
  obtain ⟨organization, present, same⟩ := sound.memberOrganization copy.toMembership member
  obtain ⟨creator, owner, recorded, only, holder⟩ := sound.owned organization present
  rw [same] at recorded
  refine ⟨sound.roleLevel copy.role listed, creator, recorded, ?_⟩
  intro created
  have owns : owner ∈ ownerMemberships db organization.id := by
    rw [only]
    exact List.mem_singleton_self owner
  obtain ⟨ownerMember, ownerOrganization, role, ownerRole, system⟩ :=
    (mem_ownerMemberships db organization.id owner).mp owns
  have equal : copy.toMembership = owner :=
    sound.member_eq member ownerMember (by rw [holder, created]) (by rw [ownerOrganization, same])
  rw [← equal] at ownerRole
  rw [found, Option.some.injEq] at ownerRole
  subst ownerRole
  exact sound.ownerLevel copy.role listed system

theorem Owned.not_owner {roleId : Nat} {role : OrgRole} (found : db.findOrgRole roleId = some role)
    (below : role.level < 100) : isOwnerRole role = false := by
  obtain ⟨listed, -⟩ := findOrgRole_mem db roleId role found
  by_contra owner
  have top := sound.ownerLevel role listed (by simpa using owner)
  omega

theorem Owned.insertMembership (membership : Membership) (role : OrgRole)
    (organization : Organization)
    (absent : db.findMembership membership.organizationId membership.userId = none)
    (present : db.findOrganization membership.organizationId = some organization)
    (found : db.findOrgRole membership.roleId = some role)
    (here : role.organizationId = membership.organizationId) (below : role.level < 100) :
    Owned creators (db.insertMembership membership) where
  roleFresh other listed := by
    have fresh := sound.roleFresh other listed
    dsimp only [Database.insertMembership]
    omega
  roleLevel := sound.roleLevel
  ownerLevel := sound.ownerLevel
  organizationFresh other listed := by
    have fresh := sound.organizationFresh other listed
    dsimp only [Database.insertMembership]
    omega
  memberOrganization other member := by
    rcases List.mem_append.mp member with old | new
    · exact sound.memberOrganization other old
    · rw [List.mem_singleton] at new
      subst new
      exact ⟨organization, findOrganization_mem db _ _ present⟩
  memberRole other member := by
    rcases List.mem_append.mp member with old | new
    · exact sound.memberRole other old
    · rw [List.mem_singleton] at new
      subst new
      exact ⟨role, found, here⟩
  roleUnique := sound.roleUnique
  memberUnique := by
    dsimp only [Database.insertMembership]
    rw [List.map_append, List.nodup_append]
    refine ⟨sound.memberUnique, by simp, ?_⟩
    rintro key old other new rfl
    simp only [List.map_cons, List.map_nil, List.mem_singleton] at new
    obtain ⟨same, member, equal⟩ := List.mem_map.mp old
    rw [new, Prod.mk.injEq] at equal
    have missing := List.find?_eq_none.mp absent same member
    simp [equal.1, equal.2] at missing
  creatorFresh orgId creator recorded := by
    have fresh := sound.creatorFresh orgId creator recorded
    dsimp only [Database.insertMembership]
    omega
  owned other listed := by
    obtain ⟨creator, owner, recorded, only, holder⟩ := sound.owned other listed
    refine ⟨creator, owner, recorded, ?_, holder⟩
    have notOwner : isOwnerMembership db other.id membership = false := by
      simp [isOwnerMembership, found, sound.not_owner found below]
    change (db.memberships ++ [membership]).filter (isOwnerMembership db other.id) = [owner]
    rw [List.filter_append, List.filter_cons_of_neg (by simp [notOwner]), List.filter_nil,
      List.append_nil]
    exact only

theorem Owned.elsewhere (other : Database) (organizations : other.organizations = db.organizations)
    (roles : other.orgRoles = db.orgRoles) (memberships : other.memberships = db.memberships)
    (grown : db.nextId ≤ other.nextId) : Owned creators other where
  roleFresh role listed := by
  -- Only the three organisation tables matter, and identifiers only grow.
    have fresh := sound.roleFresh role (roles ▸ listed)
    omega
  roleLevel role listed := sound.roleLevel role (roles ▸ listed)
  ownerLevel role listed := sound.ownerLevel role (roles ▸ listed)
  organizationFresh organization listed := by
    have fresh := sound.organizationFresh organization (organizations ▸ listed)
    omega
  memberOrganization membership member := by
    rw [organizations]
    exact sound.memberOrganization membership (memberships ▸ member)
  memberRole membership member := by
    unfold Database.findOrgRole
    rw [roles]
    exact sound.memberRole membership (memberships ▸ member)
  roleUnique := by
    rw [roles]
    exact sound.roleUnique
  memberUnique := by
    rw [memberships]
    exact sound.memberUnique
  creatorFresh orgId creator recorded := by
    have fresh := sound.creatorFresh orgId creator recorded
    omega
  owned organization listed := by
    unfold ownerMemberships isOwnerMembership Database.findOrgRole
    rw [roles, memberships]
    exact sound.owned organization (organizations ▸ listed)

theorem Owned.changeMembershipRole (orgId userId roleId : Nat) (role : OrgRole)
    (found : db.findOrgRole roleId = some role) (here : role.organizationId = orgId)
    (below : role.level < 100) (notCreator : creators orgId ≠ some userId) :
    Owned creators
      { db with
        memberships := changeWhere
          (fun row => row.userId == userId && row.organizationId == orgId)
          (fun row => { row with roleId }) db.memberships } where
  roleFresh := sound.roleFresh
  roleLevel := sound.roleLevel
  ownerLevel := sound.ownerLevel
  organizationFresh := sound.organizationFresh
  memberOrganization membership member := by
    rcases mem_changeWhere.mp member with ⟨old, -⟩ | ⟨old, oldMember, -, rfl⟩
    · exact sound.memberOrganization membership old
    · exact sound.memberOrganization old oldMember
  memberRole membership member := by
    rcases mem_changeWhere.mp member with ⟨old, -⟩ | ⟨old, -, hit, rfl⟩
    · exact sound.memberRole membership old
    · simp only [Bool.and_eq_true, beq_iff_eq] at hit
      exact ⟨role, found, by rw [here, hit.2]⟩
  roleUnique := sound.roleUnique
  memberUnique := by
    dsimp only
    rw [map_changeWhere (fun membership : Membership =>
      (membership.userId, membership.organizationId)) (by intro row; rfl)]
    exact sound.memberUnique
  creatorFresh := sound.creatorFresh
  owned organization listed := by
    obtain ⟨creator, owner, recorded, only, holder⟩ := sound.owned organization listed
    refine ⟨creator, owner, recorded, ?_, holder⟩
    rw [← only]
    refine filter_changeWhere_of_none (isOwnerMembership db organization.id) ?_ ?_
    · intro row member hit
      by_contra owns
      rw [Bool.not_eq_false] at owns
      have listedOwner : row ∈ ownerMemberships db organization.id :=
        List.mem_filter.mpr ⟨member, owns⟩
      rw [only, List.mem_singleton] at listedOwner
      subst listedOwner
      simp only [isOwnerMembership, Bool.and_eq_true, beq_iff_eq] at hit owns
      exact notCreator (by rw [← hit.2, owns.1, recorded, ← holder, hit.1])
    · intro row member hit
      simp [isOwnerMembership, found, sound.not_owner found below]

theorem Owned.changeOrgRole (roleId now : Nat) (updates : RoleUpdates) (role : OrgRole)
    (found : db.findOrgRole roleId = some role) (custom : role.isSystem = false)
    (bounded : ∀ level, updates.level = some level → level ≤ 99) :
    Owned creators
      { db with
        orgRoles := changeWhere (·.id == roleId) (applyUpdates updates now) db.orgRoles } := by
  obtain ⟨listed, identified⟩ := findOrgRole_mem db roleId role found
  have onlyRole : ∀ other ∈ db.orgRoles, other.id = roleId → other = role := fun other member same =>
    List.inj_on_of_nodup_map sound.roleUnique member listed (by rw [same, identified])
  have sameOwner := any_isOwnerRole_changeOrgRole db roleId now updates
    fun other member same => by rw [onlyRole other member same, custom]
  exact {
    roleFresh := by
      intro other member
      rcases mem_changeWhere.mp member with ⟨old, -⟩ | ⟨old, oldMember, -, rfl⟩
      · exact sound.roleFresh other old
      · exact sound.roleFresh old oldMember
    roleLevel := by
      intro other member
      rcases mem_changeWhere.mp member with ⟨old, -⟩ | ⟨old, oldMember, -, rfl⟩
      · exact sound.roleLevel other old
      · have unchanged := sound.roleLevel old oldMember
        cases level : updates.level with
        | none => simpa [applyUpdates, level] using unchanged
        | some level' =>
          have below := bounded level' level
          simp only [applyUpdates, level, Option.getD_some]
          omega
    ownerLevel := by
      intro other member owner
      rcases mem_changeWhere.mp member with ⟨old, -⟩ | ⟨old, oldMember, hit, rfl⟩
      · exact sound.ownerLevel other old owner
      · rw [onlyRole old oldMember (by simpa using hit)] at owner
        simp [isOwnerRole, applyUpdates, custom] at owner
    organizationFresh := sound.organizationFresh
    memberOrganization := sound.memberOrganization
    memberRole := by
      intro membership member
      obtain ⟨held, present, here⟩ := sound.memberRole membership member
      unfold Database.findOrgRole at present ⊢
      rw [find?_changeWhere _ (by intro row; rfl), present]
      refine ⟨_, rfl, ?_⟩
      dsimp only
      split <;> exact here
    roleUnique := by
      dsimp only
      rw [map_changeWhere (fun role : OrgRole => role.id) (by intro row; rfl)]
      exact sound.roleUnique
    memberUnique := sound.memberUnique
    creatorFresh := sound.creatorFresh
    owned := by
      intro organization present
      obtain ⟨creator, owner, recorded, only, holder⟩ := sound.owned organization present
      refine ⟨creator, owner, recorded, ?_, holder⟩
      rw [← only]
      unfold ownerMemberships isOwnerMembership
      refine List.filter_congr fun membership _ => ?_
      rw [sameOwner] }

theorem Owned.deleteOrgRole (roleId : Nat)
    (unused : ∀ membership ∈ db.memberships, membership.roleId ≠ roleId) :
    Owned creators { db with orgRoles := db.orgRoles.filter (·.id != roleId) } := by
  have kept : ∀ membership ∈ db.memberships, Database.findOrgRole
      { db with orgRoles := db.orgRoles.filter (·.id != roleId) } membership.roleId =
        db.findOrgRole membership.roleId := by
    intro membership member
    obtain ⟨role, found, -⟩ := sound.memberRole membership member
    have other : role.id ≠ roleId := by
      rw [(findOrgRole_mem db _ role found).2]
      exact unused membership member
    rw [found]
    exact find?_filter_of_kept _ _ _ role found (by simpa using other)
  exact {
    roleFresh := fun role listed => sound.roleFresh role (List.mem_of_mem_filter listed)
    roleLevel := fun role listed => sound.roleLevel role (List.mem_of_mem_filter listed)
    ownerLevel := fun role listed => sound.ownerLevel role (List.mem_of_mem_filter listed)
    organizationFresh := sound.organizationFresh
    memberOrganization := sound.memberOrganization
    memberRole := by
      intro membership member
      rw [kept membership member]
      exact sound.memberRole membership member
    roleUnique := sound.roleUnique.sublist (List.filter_sublist.map _)
    memberUnique := sound.memberUnique
    creatorFresh := sound.creatorFresh
    owned := by
      intro organization present
      obtain ⟨creator, owner, recorded, only, holder⟩ := sound.owned organization present
      refine ⟨creator, owner, recorded, ?_, holder⟩
      rw [← only]
      unfold ownerMemberships isOwnerMembership
      refine List.filter_congr fun membership member => ?_
      rw [kept membership member] }

theorem Owned.deleteOrganization (orgId : Nat) :
    Owned creators
      { db with
        memberships := db.memberships.filter (·.organizationId != orgId)
        orgRoles := db.orgRoles.filter (·.organizationId != orgId)
        organizations := db.organizations.filter (·.id != orgId) } := by
  have kept : ∀ membership ∈ db.memberships, membership.organizationId ≠ orgId →
      Database.findOrgRole
        { db with
          memberships := db.memberships.filter (·.organizationId != orgId)
          orgRoles := db.orgRoles.filter (·.organizationId != orgId)
          organizations := db.organizations.filter (·.id != orgId) } membership.roleId =
        db.findOrgRole membership.roleId := by
    intro membership member elsewhere
    obtain ⟨role, found, here⟩ := sound.memberRole membership member
    rw [found]
    exact find?_filter_of_kept _ _ _ role found (by simpa [here] using elsewhere)
  exact {
    roleFresh := fun role listed => sound.roleFresh role (List.mem_of_mem_filter listed)
    roleLevel := fun role listed => sound.roleLevel role (List.mem_of_mem_filter listed)
    ownerLevel := fun role listed => sound.ownerLevel role (List.mem_of_mem_filter listed)
    organizationFresh := fun organization listed =>
      sound.organizationFresh organization (List.mem_of_mem_filter listed)
    memberOrganization := by
      intro membership member
      obtain ⟨old, elsewhere⟩ := List.mem_filter.mp member
      obtain ⟨organization, present, same⟩ := sound.memberOrganization membership old
      exact ⟨organization, List.mem_filter.mpr ⟨present, by simpa [same] using elsewhere⟩, same⟩
    memberRole := by
      intro membership member
      obtain ⟨old, elsewhere⟩ := List.mem_filter.mp member
      rw [kept membership old (by simpa using elsewhere)]
      exact sound.memberRole membership old
    roleUnique := sound.roleUnique.sublist (List.filter_sublist.map _)
    memberUnique := sound.memberUnique.sublist (List.filter_sublist.map _)
    creatorFresh := sound.creatorFresh
    owned := by
      intro organization present
      obtain ⟨old, elsewhere⟩ := List.mem_filter.mp present
      obtain ⟨creator, owner, recorded, only, holder⟩ := sound.owned organization old
      refine ⟨creator, owner, recorded, ?_, holder⟩
      rw [← only]
      unfold ownerMemberships
      rw [List.filter_filter]
      refine List.filter_congr fun membership member => ?_
      by_cases here : membership.organizationId = organization.id
      · have remains : membership.organizationId ≠ orgId := by
          rw [here]
          simpa using elsewhere
        unfold isOwnerMembership
        rw [kept membership member remains]
        simp [remains]
      · have differs : (membership.organizationId == organization.id) = false := by
          simpa using here
        simp [isOwnerMembership, differs] }

theorem Owned.createOrganization (organization : Organization) (roles : List OrgRole)
    (owner : Membership) (ownerRole : OrgRole) (fresh : organization.id = db.nextId)
    (roleIds : ∀ role ∈ roles, db.nextId < role.id ∧ role.id ≤ db.nextId + roles.length)
    (distinct : (roles.map (·.id)).Nodup)
    (theirs : ∀ role ∈ roles, role.organizationId = organization.id)
    (levels : ∀ role ∈ roles, role.level ≤ 100 ∧ (isOwnerRole role = true → role.level = 100))
    (here : owner.organizationId = organization.id)
    (found : (db.insertOrgRoles roles).findOrgRole owner.roleId = some ownerRole)
    (listed : ownerRole ∈ roles) (system : isOwnerRole ownerRole = true) :
    Owned (Function.update creators organization.id (some owner.userId))
      (((db.insertOrganization organization).insertOrgRoles roles).insertMembership owner) := by
  have kept : ∀ membership ∈ db.memberships,
      (db.insertOrgRoles roles).findOrgRole membership.roleId =
        db.findOrgRole membership.roleId := by
    intro membership member
    obtain ⟨role, present, -⟩ := sound.memberRole membership member
    unfold Database.findOrgRole at present ⊢
    unfold Database.insertOrgRoles
    rw [List.find?_append, present]
    rfl
  have old : ∀ membership ∈ db.memberships, membership.organizationId ≠ organization.id := by
    intro membership member same
    obtain ⟨other, present, equal⟩ := sound.memberOrganization membership member
    have known := sound.organizationFresh other present
    omega
  have unowned : ∀ orgId, orgId ≠ organization.id →
      ownerMemberships
        (((db.insertOrganization organization).insertOrgRoles roles).insertMembership owner) orgId = ownerMemberships db orgId := by
    intro orgId other
    have differs : (owner.organizationId == orgId) = false := by
      simpa [here] using Ne.symm other
    change (db.memberships ++ [owner]).filter (isOwnerMembership _ orgId) = ownerMemberships db orgId
    rw [List.filter_append, List.filter_cons_of_neg (by simp [isOwnerMembership, differs]),
      List.filter_nil, List.append_nil]
    refine List.filter_congr fun membership member => ?_
    unfold isOwnerMembership
    exact congrArg _ (congrArg _ (kept membership member))
  have owning :
      ownerMemberships
        (((db.insertOrganization organization).insertOrgRoles roles).insertMembership owner) organization.id = [owner] := by
    have owns : isOwnerMembership
        (((db.insertOrganization organization).insertOrgRoles roles).insertMembership owner) organization.id owner = true := by
      have held : ((db.insertOrgRoles roles).findOrgRole owner.roleId).any isOwnerRole = true := by
        rw [found]
        exact system
      simp only [isOwnerMembership, here, beq_self_eq_true, Bool.true_and]
      exact held
    change (db.memberships ++ [owner]).filter (isOwnerMembership _ organization.id) = [owner]
    rw [List.filter_append, List.filter_cons_of_pos owns, List.filter_nil]
    rw [List.filter_eq_nil_iff.mpr, List.nil_append]
    intro membership member
    simp [isOwnerMembership, old membership member]
  exact {
    roleFresh := by
      intro role member
      rcases List.mem_append.mp member with before | new
      · have known := sound.roleFresh role before
        dsimp only [Database.insertMembership, Database.insertOrgRoles, Database.insertOrganization]
        omega
      · have bounds := roleIds role new
        have place := theirs role new
        dsimp only [Database.insertMembership, Database.insertOrgRoles, Database.insertOrganization]
        omega
    roleLevel := by
      intro role member
      rcases List.mem_append.mp member with before | new
      · exact sound.roleLevel role before
      · exact (levels role new).1
    ownerLevel := by
      intro role member
      rcases List.mem_append.mp member with before | new
      · exact sound.ownerLevel role before
      · exact (levels role new).2
    organizationFresh := by
      intro other member
      rcases List.mem_append.mp member with before | new
      · have known := sound.organizationFresh other before
        dsimp only [Database.insertMembership, Database.insertOrgRoles, Database.insertOrganization]
        omega
      · rw [List.mem_singleton] at new
        subst new
        dsimp only [Database.insertMembership, Database.insertOrgRoles, Database.insertOrganization]
        omega
    memberOrganization := by
      intro membership member
      rcases List.mem_append.mp member with before | new
      · obtain ⟨other, present, same⟩ := sound.memberOrganization membership before
        exact ⟨other, List.mem_append_left _ present, same⟩
      · rw [List.mem_singleton] at new
        subst new
        exact ⟨organization, List.mem_append_right _ (List.mem_singleton_self _), here.symm⟩
    memberRole := by
      intro membership member
      rcases List.mem_append.mp member with before | new
      · obtain ⟨role, present, same⟩ := sound.memberRole membership before
        exact ⟨role, (kept membership before).trans present, same⟩
      · rw [List.mem_singleton] at new
        subst new
        exact ⟨ownerRole, found, by rw [theirs ownerRole listed, here]⟩
    roleUnique := by
      dsimp only [Database.insertMembership, Database.insertOrgRoles]
      rw [List.map_append, List.nodup_append]
      refine ⟨sound.roleUnique, distinct, ?_⟩
      intro first before second after same
      obtain ⟨role, member, rfl⟩ := List.mem_map.mp before
      obtain ⟨role', member', rfl⟩ := List.mem_map.mp after
      have known := sound.roleFresh role member
      have bounds := roleIds role' member'
      omega
    memberUnique := by
      dsimp only [Database.insertMembership]
      rw [List.map_append, List.nodup_append]
      refine ⟨sound.memberUnique, by simp, ?_⟩
      intro key before other after same
      simp only [List.map_cons, List.map_nil, List.mem_singleton] at after
      obtain ⟨membership, member, equal⟩ := List.mem_map.mp before
      rw [same, after, Prod.mk.injEq] at equal
      exact old membership member (equal.2.trans here)
    creatorFresh := by
      intro orgId creator recorded
      by_cases same : orgId = organization.id
      · dsimp only [Database.insertMembership, Database.insertOrgRoles, Database.insertOrganization]
        omega
      · rw [Function.update_of_ne same] at recorded
        have known := sound.creatorFresh orgId creator recorded
        dsimp only [Database.insertMembership, Database.insertOrgRoles, Database.insertOrganization]
        omega
    owned := by
      intro other member
      rcases List.mem_append.mp member with before | new
      · have different : other.id ≠ organization.id := by
          have known := sound.organizationFresh other before
          omega
        obtain ⟨creator, membership, recorded, only, holder⟩ := sound.owned other before
        refine ⟨creator, membership, ?_, (unowned other.id different).trans only, holder⟩
        rw [Function.update_of_ne different]
        exact recorded
      · rw [List.mem_singleton] at new
        subst new
        exact ⟨owner.userId, owner, Function.update_self .., owning, rfl⟩ }

end Owned

end Owned

section Sound

variable {creators : Creators} {world : World}

section Sound

variable (sound : Sound creators world)

include sound

theorem Sound.withDb (change : Database → Database) (owned : Owned creators (change world.db)) :
    Sound creators (world.withDb change) :=
  ⟨owned, sound.copies⟩

theorem Sound.putMembership (copy : OrganizationMembership) (copied : CopySound creators copy) :
    Sound creators (world.putMembership copy) := by
  refine ⟨sound.owned, ?_⟩
  intro orgId userId held cached
  unfold World.putMembership at cached
  dsimp only at cached
  split at cached
  · rename_i same
    rw [Option.some.injEq] at cached
    subst cached
    exact ⟨same.1.symm, same.2.symm, copied⟩
  · exact sound.copies orgId userId held cached

theorem Sound.dropMembership (orgId userId : Nat) :
    Sound creators (world.dropMembership orgId userId) := by
  refine ⟨sound.owned, ?_⟩
  intro org user held cached
  unfold World.dropMembership at cached
  dsimp only at cached
  split at cached
  · cases cached
  · exact sound.copies org user held cached

theorem Sound.dropOrganizationMemberships (orgId : Nat) :
    Sound creators (world.dropOrganizationMemberships orgId) := by
  refine ⟨sound.owned, ?_⟩
  intro org user held cached
  unfold World.dropOrganizationMemberships at cached
  dsimp only at cached
  split at cached
  · cases cached
  · exact sound.copies org user held cached

theorem Sound.dropAccessScope (userId : Nat) : Sound creators (world.dropAccessScope userId) :=
  ⟨sound.owned, sound.copies⟩

end Sound

theorem Owned.extends (owned : Owned creators world.db) (userId : Nat) :
    Extends (Function.update creators world.db.nextId (some userId)) creators := by
  intro orgId creator recorded
  have known := owned.creatorFresh orgId creator recorded
  rw [Function.update_of_ne (by omega)]
  exact recorded

theorem invalidateUserPermissionSnapshots_sound (userIds : List Nat) :
    Program.Keeps (Sound creators) (invalidateUserPermissionSnapshots userIds) :=
  (Program.Keeps.mapM fun userId _ =>
    Program.Keeps.modify fun _ sound => sound.dropAccessScope userId).bind
      fun _ => Program.Keeps.pure ()

theorem invalidateCopies_sound (orgId : Nat) (userIds : List Nat) (role : OrgRole) :
    Program.Keeps (Sound creators) (do
      invalidateOrganizationMembershipCacheByOrg orgId
      invalidateUserPermissionSnapshots userIds
      pure role) :=
  (Program.Keeps.modify fun _ sound => sound.dropOrganizationMemberships orgId).bind
    fun _ => (invalidateUserPermissionSnapshots_sound userIds).bind fun _ => Program.Keeps.pure role

section Sound

variable (sound : Sound creators world)

include sound

variable (organization : Organization)

theorem cacheMembershipOf_sound (userId : Nat) :
    (cacheMembershipOf (some (hydrate world.db organization)) userId).wp
      (fun result reached => result = .ok () ∧ Sound creators reached) world := by
  unfold cacheMembershipOf
  cases found : (some (hydrate world.db organization)).bind fun organization =>
      organization.memberships.find? fun entry => entry.userId == userId with
  | none => exact ⟨rfl, sound⟩
  | some copy =>
    rw [Option.bind_some] at found
    obtain ⟨membership, member, joined⟩ := List.mem_filterMap.mp (List.mem_of_find?_eq_some found)
    obtain ⟨shown, -⟩ := shows_of_withRole world.db membership copy
      (List.mem_of_mem_filter member) joined
    exact ⟨rfl, sound.putMembership copy (sound.owned.shown copy shown)⟩

variable (orgId : Nat) (userId : Nat)

theorem hydrated_sound (userId : Nat) (known : world.db.findOrganization orgId = some organization)
    (ownerId : Nat) :
    (do
      let hydratedOrganization ← hydrateOrganization orgId
      cacheMembershipOf hydratedOrganization ownerId
      invalidateUserPermissionSnapshot userId
      pure hydratedOrganization : Call (Option HydratedOrganization)).wp
      (fun result reached => ∃ hydrated : HydratedOrganization,
        result = .ok (some hydrated) ∧ hydrated.id = orgId ∧ Sound creators reached) world := by
  unfold hydrateOrganization
  rw [wp_reads_bind, known, Option.map_some, wp_bind]
  refine (cacheMembershipOf_sound sound organization ownerId).weaken ?_
  rintro _ reached ⟨rfl, kept⟩
  exact ⟨hydrate world.db organization, rfl, (findOrganization_mem _ _ _ known).2,
    kept.dropAccessScope userId⟩

theorem getOrganizationMembershipByUserId_sound
    (goal : Except ServiceError (Option OrganizationMembership) → World → Prop)
    (found : ∀ copy reached, Sound creators reached → reached.db = world.db →
      copy.organizationId = orgId → copy.userId = userId → CopySound creators copy →
      goal (.ok (some copy)) reached) (missing : goal (.ok none) world) :
    (getOrganizationMembershipByUserId orgId userId).wp goal world := by
  unfold getOrganizationMembershipByUserId getCachedOrganizationMembership
  rw [wp_reads_bind]
  cases cached : world.membershipCache orgId userId with
  | some copy =>
    obtain ⟨sameOrganization, sameUser, copied⟩ := sound.copies orgId userId copy cached
    exact found copy world sound rfl sameOrganization sameUser copied
  | none =>
    dsimp only
    rw [wp_reads_bind]
    cases joined : (world.db.findMembership orgId userId).bind world.db.withRole with
    | none => exact missing
    | some copy =>
      obtain ⟨membership, present, view⟩ := Option.bind_eq_some_iff.mp joined
      obtain ⟨member, sameUser, sameOrganization⟩ := findMembership_mem _ _ _ _ present
      obtain ⟨shown, same⟩ := shows_of_withRole world.db membership copy member view
      subst same
      have copied := sound.owned.shown copy shown
      exact found copy (world.putMembership copy) (sound.putMembership copy copied) rfl
        sameOrganization sameUser copied

variable (roleId : Nat)

theorem inviteMember_sound (actor : OrganizationMembership) (bounded : actor.role.level ≤ 100) :
    (inviteMemberInOrganizationService orgId userId roleId actor).wp
      (fun _ reached => Sound creators reached) world := by
  unfold inviteMemberInOrganizationService getOrgRoleById
  rw [wp_reads_bind, wp_orFail_bind]
  refine ⟨?_, fun _ => sound⟩
  intro targetRole chosen
  obtain ⟨found, here⟩ := Option.filter_eq_some_iff.mp chosen
  refine assertCanInviteRole_bind _ _ _ _ _ ?_ fun _ => sound
  intro _ below
  unfold inviteMemberInOrganization
  rw [wp_bind]
  refine insertMembership_wp _ _ _ _ _ ?_ fun _ => sound
  intro role absent present found'
  obtain ⟨organization, known⟩ := Option.isSome_iff_exists.mp present
  have same : role = targetRole := Option.some.inj (found'.symm.trans found)
  subst same
  have owned := sound.owned.insertMembership (newMembership world orgId userId roleId) role
    organization absent known found (by simpa [newMembership] using here) (by omega)
  have copied := owned.shown
    { toMembership := newMembership world orgId userId roleId, role }
    ⟨List.mem_append_right _ (List.mem_singleton_self _), found⟩
  exact ((sound.withDb _ owned).putMembership _ copied).dropAccessScope userId

theorem updateMember_sound (actor : OrganizationMembership) (bounded : actor.role.level ≤ 100) :
    (updateMemberFromOrganizationService orgId userId roleId actor).wp
      (fun _ reached => Sound creators reached) world := by
  unfold updateMemberFromOrganizationService getOrgRoleById
  rw [wp_bind]
  refine getOrganizationMembershipByUserId_sound sound orgId userId _ ?_ sound
  intro target reached soundThere _ sameOrganization sameUser copied
  simp only [wp_orFail_bind, wp_reads_bind]
  refine ⟨?_, fun _ => soundThere⟩
  rintro _ ⟨⟩
  refine ⟨?_, fun _ => soundThere⟩
  intro nextRole chosen
  obtain ⟨found, here⟩ := Option.filter_eq_some_iff.mp chosen
  refine assertCanUpdateRole_bind _ _ _ _ _ _ ?_ fun _ => soundThere
  intro _ _ targetBelow below
  unfold updateMembershipRole
  rw [wp_bind]
  refine changeMembershipRole_wp _ _ _ _ _ ?_ fun _ => soundThere
  intro membership role present found'
  have same : role = nextRole := Option.some.inj (found'.symm.trans found)
  subst same
  -- The owner's copy has level 100, which no actor exceeds.
  have notCreator : creators orgId ≠ some userId := by
    intro created
    obtain ⟨bound, creator, recorded, top⟩ := copied
    rw [sameOrganization, created, Option.some.injEq] at recorded
    have level := top (by rw [sameUser, recorded])
    omega
  have owned := soundThere.owned.changeMembershipRole orgId userId roleId role found
    (by simpa using here) (by omega) notCreator
  obtain ⟨member, memberUser, memberOrganization⟩ := findMembership_mem _ _ _ _ present
  have copied' := owned.shown { toMembership := { membership with roleId }, role }
    ⟨mem_changeWhere.mpr (.inr ⟨membership, member, by simp [memberUser, memberOrganization], rfl⟩),
      found⟩
  exact ((soundThere.withDb _ owned).putMembership _ copied').dropAccessScope userId

theorem createRole_sound (body : RoleBody) (actor : OrganizationMembership) :
    (createRoleService orgId body actor).wp (fun _ reached => Sound creators reached) world := by
  unfold createRoleService
  rw [wp_require_bind]
  exact ⟨fun _ => sound, fun _ => sound⟩

theorem updateRole_sound (updates : RoleUpdates) (actor : OrganizationMembership)
    (bounded : ∀ level, updates.level = some level → level ≤ 99) :
    (updateRoleService orgId roleId updates actor).wp (fun _ reached => Sound creators reached)
      world := by
  unfold updateRoleService getOrgRoleById
  simp only [wp_reads_bind, wp_orFail_bind, wp_require_bind]
  refine ⟨?_, fun _ => sound⟩
  intro role chosen
  obtain ⟨found, -⟩ := Option.filter_eq_some_iff.mp chosen
  refine ⟨fun custom => ⟨fun _ => ⟨fun _ => ?_, fun _ => sound⟩, fun _ => sound⟩, fun _ => sound⟩
  cases updates.name.filter fun name => name != "" with
  | some name => exact sound
  | none =>
    change (updateOrgRole roleId updates).wp _ world
    unfold updateOrgRole
    rw [wp_bind, wp_transaction, wp_bind]
    refine changeOrgRole_wp _ _ _ _ ?_ fun _ => sound
    intro role' found'
    have same : role' = role := Option.some.inj (found'.symm.trans found)
    subst same
    have owned := sound.owned.changeOrgRole roleId world.now updates role' found
      (by simpa using custom) bounded
    have there : Sound creators (world.withDb fun db =>
        { db with
          orgRoles := changeWhere (·.id == roleId) (applyUpdates updates world.now) db.orgRoles }) :=
      sound.withDb _ owned
    exact (invalidateCopies_sound role'.organizationId _ _) _ there

theorem deleteRole_sound (actor : OrganizationMembership) :
    (deleteRoleService orgId roleId actor).wp (fun _ reached => Sound creators reached) world := by
  unfold deleteRoleService getOrgRoleById
  simp only [wp_reads_bind, wp_orFail_bind, wp_require_bind]
  refine ⟨?_, fun _ => sound⟩
  intro role _
  refine ⟨fun _ => ⟨fun _ => ?_, fun _ => sound⟩, fun _ => sound⟩
  unfold deleteOrgRole
  rw [wp_bind]
  refine deleteOrgRoleRow_wp _ _ _ ?_ fun _ => sound
  intro role' _ unused
  have owned := sound.owned.deleteOrgRole roleId unused
  exact (invalidateCopies_sound role'.organizationId _ _) _ (sound.withDb _ owned)

end Sound

theorem deleteOrganization_sound (orgId : Nat) :
    Program.Keeps (Sound creators) (deleteOrganizationService orgId) := by
  unfold deleteOrganizationService deleteOrganization
  refine Program.Keeps.bind (Program.Keeps.ensuring ?_ ?_) ?_
  · intro world sound
    rw [wp_transaction]
    unfold getOrganizationMemberUserIds deleteMembershipsOf
    rw [wp_reads_bind, Program.wp_modify_bind, wp_bind]
    refine deleteOrgRolesOf_wp _ _ _ ?_ fun _ => sound
    dsimp only
    rw [wp_bind]
    refine deleteOrganizationRow_wp _ _ _ ?_ fun _ => sound
    intro organization _ _
    exact sound.withDb (fun db =>
        { db with
          memberships := db.memberships.filter (·.organizationId != orgId)
          organizations := db.organizations.filter (·.id != orgId)
          orgRoles :=
            (db.orgRoles.filter (·.organizationId != orgId)).filter (·.organizationId != orgId)
          notifications := db.notifications.filter (·.organizationId != orgId)
          scrapedPages := db.scrapedPages.filter (·.orgId != orgId) })
      ((sound.owned.deleteOrganization orgId).elsewhere _ rfl
        (by simp [List.filter_filter]) rfl (le_refl _))
  · exact Program.Keeps.modify fun _ sound => sound.dropOrganizationMemberships orgId
  · intro deleted
    exact (invalidateUserPermissionSnapshots_sound deleted.2).bind fun _ => Program.Keeps.pure _

end Sound

def templateOf (role : OrgRole) : RoleTemplate :=
  { name := role.name, level := role.level, isSystem := role.isSystem,
    permissions := role.permissions }

structure RolesFrom (orgId first : Nat) (templates : List RoleTemplate) (roles : List OrgRole) :
    Prop where
  copied : roles.map templateOf = templates
  ids : roles.map (·.id) = List.range' first templates.length
  theirs : ∀ role ∈ roles, role.organizationId = orgId

theorem insertOrgRoles_wp (orgId : Nat) (templates : List RoleTemplate) (world : World)
    (goal : Except ServiceError (List OrgRole) → World → Prop)
    (created : ∀ roles, RolesFrom orgId world.db.nextId templates roles →
      goal (.ok roles) (world.withDb (·.insertOrgRoles roles)))
    (refused : ∀ failure reached, goal (.error failure) reached) :
    (templates.mapM (insertOrgRole orgId)).wp goal world := by
  induction templates generalizing world goal with
  | nil =>
    have nothing := created [] ⟨rfl, rfl, by simp⟩
    simp only [Database.insertOrgRoles, List.append_nil, List.length_nil, Nat.add_zero,
      World.withDb] at nothing
    exact nothing
  | cons template rest ih =>
    rw [List.mapM_cons, wp_bind]
    refine insertOrgRole_wp _ _ _ _ ?_ fun failure => refused failure _
    dsimp only
    rw [wp_bind]
    refine ih _ _ ?_ fun failure reached => refused failure reached
    intro roles made
    have whole := created (newOrgRole world orgId template :: roles)
      ⟨by rw [List.map_cons, made.copied]; rfl,
        by rw [List.map_cons, made.ids, List.length_cons, List.range'_succ]; rfl,
        by
          intro role member
          rcases List.mem_cons.mp member with rfl | later
          · rfl
          · exact made.theirs role later⟩
    simpa [World.withDb, Database.insertOrgRoles, Program.wp, Nat.add_comm, Nat.add_left_comm,
      Nat.add_assoc] using whole

theorem defaultRoles_levels :
    ∀ template ∈ defaultRoles, template.level ≤ 100 ∧ template.isSystem = true ∧
      (template.name = "OWNER" → template.level = 100) := by
  decide

/-- The creators after a call of `userId`: one more if the call has returned an organisation. -/
def recordCreator (creators : Creators) (userId : Nat) :
    Except ServiceError HydratedOrganization → Creators
  | .ok organization => Function.update creators organization.id (some userId)
  | .error _ => creators

theorem ownerRole_found (db : Database) (creators : Creators) (owned : Owned creators db)
    (first : Nat) (roles : List OrgRole) (made : RolesFrom db.nextId first defaultRoles roles) :
    ∃ ownerRole ∈ roles, isOwnerRole ownerRole = true ∧
      (db.orgRoles ++ roles).find? (fun role =>
        role.organizationId == db.nextId && role.name == "OWNER") = some ownerRole := by
  have older : db.orgRoles.find? (fun role =>
      role.organizationId == db.nextId && role.name == "OWNER") = none := by
    rw [List.find?_eq_none]
    intro role listed matching
    have known := owned.roleFresh role listed
    simp only [Bool.and_eq_true, beq_iff_eq] at matching
    omega
  have copied := made.copied
  cases roles with
  | nil => cases copied
  | cons ownerRole rest =>
    rw [List.map_cons, defaultRoles, List.cons.injEq] at copied
    have named : ownerRole.name = "OWNER" := congrArg RoleTemplate.name copied.1
    have system : ownerRole.isSystem = true := congrArg RoleTemplate.isSystem copied.1
    refine ⟨ownerRole, List.mem_cons_self .., by simp [isOwnerRole, named, system], ?_⟩
    rw [List.find?_append, older, Option.none_or]
    exact List.find?_cons_of_pos (by simp [made.theirs ownerRole (List.mem_cons_self ..), named])

variable {roles : List OrgRole} {templates : List RoleTemplate}

theorem RolesFrom.length {orgId first : Nat} (made : RolesFrom orgId first templates roles) :
    roles.length = templates.length := by
  rw [← made.copied, List.length_map]

theorem RolesFrom.fresh {orgId first : Nat} (made : RolesFrom orgId first templates roles) :
    (roles.map (·.id)).Nodup ∧
      ∀ role ∈ roles, first ≤ role.id ∧ role.id < first + templates.length := by
  refine ⟨by rw [made.ids]; exact List.nodup_range', ?_⟩
  intro role listed
  have member : role.id ∈ List.range' first templates.length := by
    rw [← made.ids]
    exact List.mem_map_of_mem listed
  simpa using List.mem_range'_1.mp member

theorem ownerRole_unique (db : Database) (creators : Creators) (owned : Owned creators db)
    (templates : List RoleTemplate) (roles : List OrgRole)
    (made : RolesFrom db.nextId (db.nextId + 1) templates roles) (role ownerRole : OrgRole)
    (listed : ownerRole ∈ roles)
    (found : role ∈ db.orgRoles ++ roles ∧ role.id = ownerRole.id) : role = ownerRole := by
  obtain ⟨distinct, bounds⟩ := made.fresh
  rcases List.mem_append.mp found.1 with older | new
  · have known := owned.roleFresh role older
    have bound := bounds ownerRole listed
    omega
  · exact List.inj_on_of_nodup_map distinct new listed found.2

theorem RolesFrom.levels {orgId first : Nat} (made : RolesFrom orgId first defaultRoles roles)
    (role : OrgRole) (listed : role ∈ roles) :
    role.level ≤ 100 ∧ (isOwnerRole role = true → role.level = 100) := by
  have template : templateOf role ∈ defaultRoles := by
    rw [← made.copied]
    exact List.mem_map_of_mem listed
  obtain ⟨below, -, top⟩ := defaultRoles_levels _ template
  refine ⟨below, fun owner => top ?_⟩
  simp only [isOwnerRole, Bool.and_eq_true, beq_iff_eq] at owner
  exact owner.2

theorem createOrganization_sound (creators : Creators) (world : World)
    (sound : Sound creators world) (name : String) (userId : Nat) :
    (createOrganizationService name userId).wp
      (fun result reached => Sound (recordCreator creators userId result) reached ∧
        Extends (recordCreator creators userId result) creators) world := by
  have unchanged : Sound creators world ∧ Extends creators creators := ⟨sound, Extends.refl creators⟩
  unfold createOrganizationService findOrganizationByOwner createOrganizationWithRolesAndOwner
  rw [wp_reads_bind, wp_require_bind]
  refine ⟨fun _ => ?_, fun _ => unchanged⟩
  rw [wp_bind, wp_transaction, wp_bind]
  refine insertOrganization_wp _ _ _ ?_ fun _ => unchanged
  have fresh : ({ id := world.db.nextId, name, createdAt := world.now } : Organization).id =
    world.db.nextId := rfl
  generalize ({ id := world.db.nextId, name, createdAt := world.now } : Organization) =
    organization at fresh ⊢
  dsimp only
  rw [wp_bind]
  refine insertOrgRoles_wp _ _ _ _ ?_ fun _ _ => unchanged
  intro roles made
  rw [fresh] at made
  obtain ⟨ownerRole, listed, system, found⟩ := ownerRole_found world.db creators sound.owned _ _ made
  dsimp only
  unfold getOrgRoleByNameIn
  rw [wp_reads_bind, fresh]
  split
  next missing => cases missing.symm.trans found
  next chosen there =>
  obtain rfl := Option.some.inj (found.symm.trans there)
  rw [wp_bind]
  refine insertMembership_wp _ _ _ _ _ ?_ fun _ => unchanged
  intro role _ present identified
  obtain ⟨founded, known⟩ := Option.isSome_iff_exists.mp present
  have same := ownerRole_unique world.db creators sound.owned _ roles made role ownerRole listed
    (findOrgRole_mem _ _ _ identified)
  subst same
  generalize membership : newMembership _ world.db.nextId userId role.id = owner
  have place : owner.organizationId = organization.id := by rw [← membership, fresh]; rfl
  have holder : owner.userId = userId := by rw [← membership]; rfl
  have roleId : owner.roleId = role.id := by rw [← membership]; rfl
  obtain ⟨distinct, bounds⟩ := made.fresh
  have owned := sound.owned.createOrganization organization roles owner role fresh
    (fun other member => by
      have bound := bounds other member
      have count := made.length
      dsimp only [World.withDb, Database.insertOrganization] at bound
      omega)
    distinct (by rw [fresh]; exact made.theirs) made.levels place (by rw [roleId]; exact identified)
    listed system
  have after : Sound (Function.update creators organization.id (some owner.userId))
      (world.withDb fun db =>
        ((db.insertOrganization organization).insertOrgRoles roles).insertMembership owner) := by
    refine ⟨owned, fun orgId user copy cached => ?_⟩
    obtain ⟨sameOrganization, sameUser, copied⟩ := sound.copies orgId user copy cached
    rw [fresh]
    exact ⟨sameOrganization, sameUser, copied.later (sound.owned.extends owner.userId)⟩
  refine (hydrated_sound after founded world.db.nextId userId known owner.userId).weaken ?_
  rintro _ reached ⟨hydrated, rfl, identity, sound'⟩
  dsimp only
  rw [Program.wp_orFail]
  refine ⟨?_, by simp⟩
  rintro _ ⟨⟩
  rw [fresh, holder] at sound'
  change Sound (Function.update creators hydrated.id (some userId)) reached ∧
    Extends (Function.update creators hydrated.id (some userId)) creators
  rw [identity]
  exact ⟨sound', sound.owned.extends userId⟩

inductive Request where
  | createOrganization (name : String) (userId : Nat)
  | inviteMember (orgId userId roleId : Nat) (actor : OrganizationMembership)
  | updateMember (orgId userId roleId : Nat) (actor : OrganizationMembership)
  | createRole (orgId : Nat) (body : RoleBody) (actor : OrganizationMembership)
  | updateRole (orgId roleId : Nat) (updates : RoleUpdates) (actor : OrganizationMembership)
  | deleteRole (orgId roleId : Nat) (actor : OrganizationMembership)
  | deleteOrganization (orgId : Nat)

def Request.actor : Request → Option OrganizationMembership
  | .createOrganization _ _ => none
  | .inviteMember _ _ _ actor => some actor
  | .updateMember _ _ _ actor => some actor
  | .createRole _ _ actor => some actor
  | .updateRole _ _ _ actor => some actor
  | .deleteRole _ _ actor => some actor
  | .deleteOrganization _ => none

def Request.Admitted : Request → Prop
  | .createRole _ body _ => body.Admitted
  | .updateRole _ _ updates _ => updates.Admitted
  | _ => True

/-- The gateway, and who has created each organisation so far. -/
structure Run where
  world : World
  creators : Creators

def Request.serve (run : Run) : Request → Run
  | .createOrganization name userId =>
    let (result, world) := (createOrganizationService name userId).run run.world
    { world, creators := recordCreator run.creators userId result }
  | .inviteMember orgId userId roleId actor =>
    { run with
      world := ((inviteMemberInOrganizationService orgId userId roleId actor).run run.world).2 }
  | .updateMember orgId userId roleId actor =>
    { run with
      world := ((updateMemberFromOrganizationService orgId userId roleId actor).run run.world).2 }
  | .createRole orgId body actor =>
    { run with world := ((createRoleService orgId body actor).run run.world).2 }
  | .updateRole orgId roleId updates actor =>
    { run with world := ((updateRoleService orgId roleId updates actor).run run.world).2 }
  | .deleteRole orgId roleId actor =>
    { run with world := ((deleteRoleService orgId roleId actor).run run.world).2 }
  | .deleteOrganization orgId =>
    { run with world := ((deleteOrganizationService orgId).run run.world).2 }

def Run.Empty (run : Run) : Prop :=
  run.world.db.organizations = [] ∧ run.world.db.orgRoles = [] ∧ run.world.db.memberships = [] ∧
    (∀ orgId userId, run.world.membershipCache orgId userId = none) ∧
    ∀ orgId, run.creators orgId = none

/-- One step of a run that has gone through `seen`. An actor's membership, and a copy that
reaches the cache late, are as some state of the run had them. -/
inductive Step (seen : List Run) (run : Run) : Run → Prop where
  | request (request : Request) (admitted : request.Admitted)
      (acting : ∀ actor, request.actor = some actor →
        ∃ earlier ∈ seen, earlier.world.db.Shows actor) :
      Step seen run (request.serve run)
  | copied (copy : OrganizationMembership) (earlier : Run) (before : earlier ∈ seen)
      (shown : earlier.world.db.Shows copy) :
      Step seen run { run with world := run.world.putMembership copy }
  | expired (orgId userId : Nat) :
      Step seen run { run with world := run.world.dropMembership orgId userId }
  | elsewhere (world : World) (organizations : world.db.organizations = run.world.db.organizations)
      (roles : world.db.orgRoles = run.world.db.orgRoles)
      (memberships : world.db.memberships = run.world.db.memberships)
      (cache : world.membershipCache = run.world.membershipCache)
      (grown : run.world.db.nextId ≤ world.db.nextId) :
      Step seen run { run with world := world }

theorem Run.Empty.sound (run : Run) (empty : run.Empty) : Sound run.creators run.world := by
  obtain ⟨organizations, roles, memberships, cache, creators⟩ := empty
  refine ⟨⟨?_, ?_, ?_, ?_, ?_, ?_, ?_, ?_, ?_, ?_⟩, ?_⟩
  all_goals simp [organizations, roles, memberships, cache, creators]

theorem serve_sound (run : Run) (sound : Sound run.creators run.world) (request : Request)
    (admitted : request.Admitted)
    (bounded : ∀ actor, request.actor = some actor → actor.role.level ≤ 100) :
    Sound (request.serve run).creators (request.serve run).world ∧
      Extends (request.serve run).creators run.creators := by
  have same := Extends.refl run.creators
  cases request with
  | createOrganization name userId =>
    exact createOrganization_sound run.creators run.world sound name userId
  | inviteMember orgId userId roleId actor =>
    exact ⟨inviteMember_sound sound orgId userId roleId actor (bounded actor rfl), same⟩
  | updateMember orgId userId roleId actor =>
    exact ⟨updateMember_sound sound orgId userId roleId actor (bounded actor rfl), same⟩
  | createRole orgId body actor => exact ⟨createRole_sound sound orgId body actor, same⟩
  | updateRole orgId roleId updates actor =>
    exact ⟨updateRole_sound sound orgId roleId updates actor
      (fun level given => (admitted.2.2 level given).2), same⟩
  | deleteRole orgId roleId actor => exact ⟨deleteRole_sound sound orgId roleId actor, same⟩
  | deleteOrganization orgId => exact ⟨deleteOrganization_sound orgId run.world sound, same⟩

theorem step_sound (past : List Run) (run reached : Run)
    (sound : ∀ earlier ∈ run :: past, Sound earlier.creators earlier.world)
    (grown : ∀ earlier ∈ run :: past, Extends run.creators earlier.creators)
    (stepped : Step (run :: past) run reached) :
    Sound reached.creators reached.world ∧ Extends reached.creators run.creators := by
  have now := sound run (List.mem_cons_self ..)
  have same := Extends.refl run.creators
  have shown : ∀ copy, (∃ earlier ∈ run :: past, earlier.world.db.Shows copy) →
      CopySound run.creators copy := by
    rintro copy ⟨earlier, before, view⟩
    exact ((sound earlier before).owned.shown copy view).later (grown earlier before)
  cases stepped with
  | request request admitted acting =>
    exact serve_sound run now request admitted fun actor acts => (shown actor (acting actor acts)).1
  | copied copy earlier before view =>
    exact ⟨now.putMembership copy (shown copy ⟨earlier, before, view⟩), same⟩
  | expired orgId userId => exact ⟨now.dropMembership orgId userId, same⟩
  | elsewhere world organizations roles memberships cache grown =>
    exact ⟨⟨now.owned.elsewhere world.db organizations roles memberships grown,
      by rw [cache]; exact now.copies⟩, same⟩

theorem history_sound (seen : List Run) (history : History Run.Empty Step seen) :
    ∀ run ∈ seen, Sound run.creators run.world :=
  (history.ascending (fun run => Sound run.creators run.world)
    (fun earlier later => Extends later.creators earlier.creators)
    (fun run => Extends.refl run.creators) (fun _ _ _ older newer => older.trans newer)
    step_sound Run.Empty.sound).1

/-- Every organisation of every reachable state has exactly one membership with the system
role OWNER, whose level is 100, and its user created the organisation. -/
theorem one_owner (seen : List Run) (history : History Run.Empty Step seen) (run : Run)
    (reached : run ∈ seen) (organization : Organization)
    (present : organization ∈ run.world.db.organizations) :
    ∃ creator owner role, run.creators organization.id = some creator ∧
      ownerMemberships run.world.db organization.id = [owner] ∧ owner.userId = creator ∧
      run.world.db.findOrgRole owner.roleId = some role ∧ isOwnerRole role = true ∧
      role.level = 100 := by
  have owned := (history_sound seen history run reached).owned
  obtain ⟨creator, owner, recorded, only, holder⟩ := owned.owned organization present
  have owns : owner ∈ ownerMemberships run.world.db organization.id := by
    rw [only]
    exact List.mem_singleton_self owner
  obtain ⟨-, -, role, found, system⟩ := (mem_ownerMemberships _ _ owner).mp owns
  exact ⟨creator, owner, role, recorded, only, holder, found, system,
    owned.ownerLevel role (findOrgRole_mem _ _ _ found).1 system⟩

def registered : Run :=
  { world :=
      { db :=
          { users := [{ id := 1, email := "owner@acme.test", password := "hash" }]
            nextId := 2 } }
    creators := fun _ => none }

def founded : Run := (Request.createOrganization "Acme" 1).serve registered

theorem founded_one_owner :
    ∃ creator owner role, founded.creators 2 = some creator ∧
      ownerMemberships founded.world.db 2 = [owner] ∧ owner.userId = creator ∧
      founded.world.db.findOrgRole owner.roleId = some role ∧ isOwnerRole role = true ∧
      role.level = 100 :=
  one_owner [founded, registered]
    (.next [] registered founded (.start registered ⟨rfl, rfl, rfl, fun _ _ => rfl, fun _ => rfl⟩)
      (.request (.createOrganization "Acme" 1) trivial (by simp [Request.actor])))
    founded (by simp) { id := 2, name := "Acme" } (by decide)

end HelpForge.Org
