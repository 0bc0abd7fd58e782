import HelpForge.Lib.Watched
import HelpForge.Org.Ownership

set_option autoImplicit false

namespace HelpForge.Org

open Lib.Program (bind_ok wp_bind wp_reads_bind)

open Lib.Program.Answers (orFail_bind require_bind)

open Lib Database
open Lib.Program (Answers UpholdsWhere)
open Auth (invalidateUserPermissionSnapshot)

def ownedBy (userId : Nat) (db : Database) : List Membership :=
  db.memberships.filter fun membership =>
    membership.userId == userId && (db.findOrgRole membership.roleId).any isOwnerRole

structure Ranked (db : Database) : Prop where
  fresh : ∀ role ∈ db.orgRoles, role.id < db.nextId
  level : ∀ role ∈ db.orgRoles, role.level ≤ 100 ∧ (isOwnerRole role = true → role.level = 100)
  unique : (db.orgRoles.map (·.id)).Nodup
  held : ∀ membership ∈ db.memberships, membership.roleId < db.nextId
  placed : ∀ membership ∈ db.memberships,
    ∃ organization ∈ db.organizations, organization.id = membership.organizationId

structure Grows (earlier later : Database) : Prop where
  next : earlier.nextId ≤ later.nextId
  kept : ∀ role ∈ later.orgRoles, role.id < earlier.nextId →
    ∃ old ∈ earlier.orgRoles, old.id = role.id ∧ old.isSystem = role.isSystem ∧
      (role.isSystem = true → old.name = role.name)

/-- What a statement does to the tables: the user comes to own `gained` organisations at most. -/
structure Onward (userId gained : Nat) (db reached : Database) : Prop where
  ranked : Ranked reached
  grows : Grows db reached
  owned : (ownedBy userId reached).length ≤ (ownedBy userId db).length + gained

def NotOwner (db : Database) (roleId : Nat) : Prop :=
  -- The role is known, and not that of an owner.
  roleId < db.nextId ∧ (db.findOrgRole roleId).any isOwnerRole = false

def Custom (db : Database) (roleId : Nat) : Prop :=
  ∃ role ∈ db.orgRoles, role.id = roleId ∧ role.isSystem = false

section Tables

variable {db reached : Database}

theorem Grows.refl (db : Database) : Grows db db :=
  ⟨le_refl _, fun role listed _ => ⟨role, listed, rfl, rfl, fun _ => rfl⟩⟩

theorem Grows.trans {first second third : Database} (older : Grows first second)
    (newer : Grows second third) : Grows first third where
  next := older.next.trans newer.next
  kept role listed early := by
    obtain ⟨between, there, same, system, named⟩ :=
      newer.kept role listed (lt_of_lt_of_le early older.next)
    obtain ⟨old, first, same', system', named'⟩ := older.kept between there (same ▸ early)
    refine ⟨old, first, same'.trans same, system'.trans system, fun holds => ?_⟩
    rw [named' (system ▸ holds), named holds]

theorem Ranked.found (ranked : Ranked db) (role : OrgRole) (listed : role ∈ db.orgRoles) :
    db.findOrgRole role.id = some role := by
  cases found : db.findOrgRole role.id with
  | none =>
    have missing := List.find?_eq_none.mp found role listed
    simp at missing
  | some other =>
    obtain ⟨listed', same⟩ := findOrgRole_mem db role.id other found
    rw [List.inj_on_of_nodup_map ranked.unique listed' listed same]

theorem NotOwner.later {earlier later : Database} {roleId : Nat} (known : NotOwner earlier roleId)
    (ranked : Ranked earlier) (grows : Grows earlier later) : NotOwner later roleId := by
  obtain ⟨early, plain⟩ := known
  refine ⟨lt_of_lt_of_le early grows.next, ?_⟩
  by_contra owner
  rw [Bool.not_eq_false, Option.any_eq_true] at owner
  obtain ⟨role, found, system⟩ := owner
  obtain ⟨listed, same⟩ := findOrgRole_mem later roleId role found
  obtain ⟨old, there, same', kind, named⟩ := grows.kept role listed (same ▸ early)
  simp only [isOwnerRole, Bool.and_eq_true, beq_iff_eq] at system
  have before := ranked.found old there
  rw [same', same] at before
  rw [before] at plain
  simp [isOwnerRole, kind, system.1, named system.1, system.2] at plain

theorem Custom.later {earlier later : Database} {roleId : Nat} (known : Custom earlier roleId)
    (ranked : Ranked earlier) (grows : Grows earlier later) (role : OrgRole)
    (listed : role ∈ later.orgRoles) (same : role.id = roleId) : role.isSystem = false := by
  obtain ⟨old, there, identified, custom⟩ := known
  have early : role.id < earlier.nextId := by
    rw [same, ← identified]
    exact ranked.fresh old there
  obtain ⟨old', there', same', kind, -⟩ := grows.kept role listed early
  have equal := List.inj_on_of_nodup_map ranked.unique there there'
    (by rw [identified, same', same])
  rw [← kind, ← equal, custom]

theorem Ranked.notOwner (ranked : Ranked db) (role : OrgRole) (roleId : Nat)
    (found : db.findOrgRole roleId = some role) (plain : isOwnerRole role = false) :
    NotOwner db roleId := by
  obtain ⟨listed, same⟩ := findOrgRole_mem db roleId role found
  exact ⟨same ▸ ranked.fresh role listed, by simp [found, plain]⟩

variable (userId : Nat)

section Ranked

variable (ranked : Ranked db)

include ranked

theorem Onward.elsewhere (organizations : reached.organizations = db.organizations)
    (roles : reached.orgRoles = db.orgRoles) (memberships : reached.memberships = db.memberships)
    (grown : db.nextId ≤ reached.nextId) : Onward userId 0 db reached where
  ranked := {
    fresh := fun role listed => lt_of_lt_of_le (ranked.fresh role (roles ▸ listed)) grown
    level := fun role listed => ranked.level role (roles ▸ listed)
    unique := roles ▸ ranked.unique
    held := fun membership member =>
      lt_of_lt_of_le (ranked.held membership (memberships ▸ member)) grown
    placed := fun membership member => by
      rw [organizations]
      exact ranked.placed membership (memberships ▸ member) }
  grows := ⟨grown, fun role listed _ => ⟨role, roles ▸ listed, rfl, rfl, fun _ => rfl⟩⟩
  owned := by
    simp [ownedBy, Database.findOrgRole, roles, memberships]

theorem Onward.refl : Onward userId 0 db db :=
  Onward.elsewhere userId ranked rfl rfl rfl (le_refl _)

variable (membership : Membership) (organization : Organization)

section Given

variable (present : db.findOrganization membership.organizationId = some organization)

include present

theorem Onward.own (early : membership.roleId < db.nextId) :
    Onward userId (if membership.userId = userId then 1 else 0) db
      (db.insertMembership membership) where
  ranked := {
    fresh := fun role listed => lt_of_lt_of_le (ranked.fresh role listed) (Nat.le_succ _)
    level := ranked.level
    unique := ranked.unique
    held := fun other member => by
      rcases List.mem_append.mp member with old | new
      · exact lt_of_lt_of_le (ranked.held other old) (Nat.le_succ _)
      · rw [List.mem_singleton.mp new]
        exact lt_of_lt_of_le early (Nat.le_succ _)
    placed := fun other member => by
      rcases List.mem_append.mp member with old | new
      · exact ranked.placed other old
      · rw [List.mem_singleton.mp new]
        exact ⟨organization, findOrganization_mem db _ _ present⟩ }
  grows := ⟨Nat.le_succ _, fun role listed _ => ⟨role, listed, rfl, rfl, fun _ => rfl⟩⟩
  owned := by
    change ((db.memberships ++ [membership]).filter fun row =>
      row.userId == userId && (db.findOrgRole row.roleId).any isOwnerRole).length ≤ _
    rw [List.filter_append, List.length_append]
    refine Nat.add_le_add_left ?_ _
    by_cases own : membership.userId = userId
    · rw [if_pos own]
      exact List.length_filter_le _ [membership]
    · simp [own]

theorem Onward.insertMembership (plain : NotOwner db membership.roleId) :
    Onward userId 0 db (db.insertMembership membership) := by
  have written := Onward.own userId ranked membership organization present plain.1
  refine ⟨written.ranked, written.grows, ?_⟩
  have other : (db.findOrgRole membership.roleId).any isOwnerRole = false := plain.2
  change ((db.memberships ++ [membership]).filter fun row =>
    row.userId == userId && (db.findOrgRole row.roleId).any isOwnerRole).length ≤ _
  simp [ownedBy, List.filter_append, other]

end Given

theorem Onward.changeMembershipRole (matching : Membership → Bool) (roleId : Nat)
    (plain : NotOwner db roleId) :
    Onward userId 0 db
      { db with
        memberships := changeWhere matching (fun row => { row with roleId }) db.memberships } where
  ranked := {
    fresh := ranked.fresh
    level := ranked.level
    unique := ranked.unique
    held := fun membership member => by
      rcases mem_changeWhere.mp member with ⟨old, -⟩ | ⟨old, oldMember, -, rfl⟩
      · exact ranked.held membership old
      · exact plain.1
    placed := fun membership member => by
      rcases mem_changeWhere.mp member with ⟨old, -⟩ | ⟨old, oldMember, -, rfl⟩
      · exact ranked.placed membership old
      · exact ranked.placed old oldMember }
  grows := ⟨le_refl _, fun role listed _ => ⟨role, listed, rfl, rfl, fun _ => rfl⟩⟩
  owned := by
    -- A row that is changed is no owner's afterwards.
    change ((changeWhere _ _ db.memberships).filter fun row =>
      row.userId == userId && (db.findOrgRole row.roleId).any isOwnerRole).length ≤ _
    unfold changeWhere ownedBy
    rw [← List.countP_eq_length_filter, ← List.countP_eq_length_filter, List.countP_map]
    refine List.countP_mono_left fun row _ kept => ?_
    by_cases hit : matching row = true
    · simp [hit, plain.2] at kept
    · simpa [hit] using kept

theorem Onward.changeOrgRole (roleId now : Nat) (updates : RoleUpdates)
    (bounded : ∀ level, updates.level = some level → level ≤ 99)
    (custom : ∀ role ∈ db.orgRoles, role.id = roleId → role.isSystem = false) :
    Onward userId 0 db
      { db with
        orgRoles := changeWhere (·.id == roleId) (applyUpdates updates now) db.orgRoles } where
  ranked := {
    fresh := fun role listed => by
      rcases mem_changeWhere.mp listed with ⟨old, -⟩ | ⟨old, oldMember, -, rfl⟩
      · exact ranked.fresh role old
      · exact ranked.fresh old oldMember
    level := fun role listed => by
      rcases mem_changeWhere.mp listed with ⟨old, -⟩ | ⟨old, oldMember, hit, rfl⟩
      · exact ranked.level role old
      · have plain := custom old oldMember (by simpa using hit)
        have unchanged := (ranked.level old oldMember).1
        refine ⟨?_, fun owner => by simp [isOwnerRole, applyUpdates, plain] at owner⟩
        cases level : updates.level with
        | none => simpa [applyUpdates, level] using unchanged
        | some level' =>
          have below := bounded level' level
          simp only [applyUpdates, level, Option.getD_some]
          omega
    unique := by
      dsimp only
      rw [map_changeWhere (fun role : OrgRole => role.id) (by intro row; rfl)]
      exact ranked.unique
    held := ranked.held
    placed := ranked.placed }
  grows := by
    refine ⟨le_refl _, fun role listed _ => ?_⟩
    rcases mem_changeWhere.mp listed with ⟨old, -⟩ | ⟨old, oldMember, hit, rfl⟩
    · exact ⟨role, old, rfl, rfl, fun _ => rfl⟩
    · have plain := custom old oldMember (by simpa using hit)
      exact ⟨old, oldMember, rfl, rfl, fun system => by simp [applyUpdates, plain] at system⟩
  owned := by
    have sameOwner := any_isOwnerRole_changeOrgRole db roleId now updates custom
    simp [ownedBy, sameOwner]

theorem Onward.shrink (next : reached.nextId = db.nextId)
    (roles : reached.orgRoles.Sublist db.orgRoles)
    (memberships : reached.memberships.Sublist db.memberships)
    (placed : ∀ membership ∈ reached.memberships,
      ∃ organization ∈ reached.organizations, organization.id = membership.organizationId) :
    Onward userId 0 db reached where
  ranked := {
    fresh := fun role listed => next ▸ ranked.fresh role (roles.subset listed)
    level := fun role listed => ranked.level role (roles.subset listed)
    unique := ranked.unique.sublist (roles.map _)
    held := fun membership member => next ▸ ranked.held membership (memberships.subset member)
    placed }
  grows := ⟨next.ge, fun role listed _ => ⟨role, roles.subset listed, rfl, rfl, fun _ => rfl⟩⟩
  owned := by
    have fewer : ∀ membership : Membership,
        (reached.findOrgRole membership.roleId).any isOwnerRole = true →
          (db.findOrgRole membership.roleId).any isOwnerRole = true := by
      intro membership owner
      obtain ⟨role, found, system⟩ := Option.any_eq_true _ _ |>.mp owner
      obtain ⟨listed, same⟩ := findOrgRole_mem _ _ _ found
      have before := ranked.found role (roles.subset listed)
      rw [same] at before
      simp [before, system]
    unfold ownedBy
    refine (memberships.filter _).length_le.trans ?_
    rw [← List.countP_eq_length_filter, ← List.countP_eq_length_filter]
    refine List.countP_mono_left fun membership _ kept => ?_
    simp only [Bool.and_eq_true] at kept ⊢
    exact ⟨kept.1, fewer membership kept.2⟩

theorem Onward.found (roles : List OrgRole)
    (made : RolesFrom organization.id (db.nextId + 1) defaultRoles roles) :
    Onward userId 0 db ((db.insertOrganization organization).insertOrgRoles roles) where
  ranked := {
    fresh := fun role listed => by
      have count := made.length
      rcases List.mem_append.mp listed with old | new
      · have known := ranked.fresh role old
        dsimp only [Database.insertOrgRoles, Database.insertOrganization]
        omega
      · have bounds := made.fresh.2 role new
        dsimp only [Database.insertOrgRoles, Database.insertOrganization]
        omega
    level := fun role listed => by
      rcases List.mem_append.mp listed with old | new
      · exact ranked.level role old
      · exact made.levels role new
    unique := by
      change ((db.orgRoles ++ roles).map (·.id)).Nodup
      rw [List.map_append, List.nodup_append]
      refine ⟨ranked.unique, made.fresh.1, ?_⟩
      rintro id old _ new rfl
      obtain ⟨role, listed, rfl⟩ := List.mem_map.mp old
      obtain ⟨role', listed', same⟩ := List.mem_map.mp new
      have known := ranked.fresh role listed
      have bounds := made.fresh.2 role' listed'
      omega
    held := fun membership member => by
      have known := ranked.held membership member
      dsimp only [Database.insertOrgRoles, Database.insertOrganization]
      omega
    placed := fun membership member => by
      obtain ⟨other, present, same⟩ := ranked.placed membership member
      exact ⟨other, List.mem_append_left _ present, same⟩ }
  grows := by
    refine ⟨?_, fun role listed early => ?_⟩
    · dsimp only [Database.insertOrgRoles, Database.insertOrganization]
      omega
    · rcases List.mem_append.mp listed with old | new
      · exact ⟨role, old, rfl, rfl, fun _ => rfl⟩
      · have bounds := made.fresh.2 role new
        omega
  owned := by
    -- The rows of before refer to roles of before.
    have before : ∀ membership ∈ db.memberships,
        (Database.findOrgRole ((db.insertOrganization organization).insertOrgRoles roles)
            membership.roleId).any isOwnerRole =
          (db.findOrgRole membership.roleId).any isOwnerRole := by
      intro membership member
      have known := ranked.held membership member
      have unrelated : roles.find? (fun role => role.id == membership.roleId) = none := by
        rw [List.find?_eq_none]
        intro role listed same
        have bounds := made.fresh.2 role listed
        simp only [beq_iff_eq] at same
        omega
      change ((db.orgRoles ++ roles).find? _).any isOwnerRole = _
      rw [List.find?_append, unrelated, Option.or_none]
      rfl
    change (db.memberships.filter _).length ≤ _
    unfold ownedBy
    rw [List.filter_congr fun membership member => by rw [before membership member]]
    exact Nat.le_add_right _ _

end Ranked

theorem Onward.trans {between : Database} {first second : Nat}
    (one : Onward userId first db between) (other : Onward userId second between reached) :
    Onward userId (first + second) db reached where
  ranked := other.ranked
  grows := one.grows.trans other.grows
  owned := by
    have owned := one.owned
    have owned' := other.owned
    omega

end Tables

def Sole (userId : Nat) : List World → Prop
  -- The tables have been sound all along, and the user owns one organisation at most.
  | [] => True
  | world :: past =>
    (∀ earlier ∈ world :: past, Ranked earlier.db ∧ Grows earlier.db world.db) ∧
      (ownedBy userId world.db).length ≤ 1

variable {α : Type}

section Statements

variable {userId : Nat} {world reached : World} {past seen : List World}

section Sole

variable (sole : Sole userId (world :: past))

include sole

theorem Sole.ranked : Ranked world.db :=
  (sole.1 world (List.mem_cons_self ..)).1

theorem Sole.next {gained : Nat} (onward : Onward userId gained world.db reached.db)
    (one : (ownedBy userId reached.db).length ≤ 1) : Sole userId (reached :: world :: past) := by
  refine ⟨fun earlier member => ?_, one⟩
  rcases List.mem_cons.mp member with rfl | before
  · exact ⟨onward.ranked, Grows.refl _⟩
  · obtain ⟨ranked, grows⟩ := sole.1 earlier before
    exact ⟨ranked, grows.trans onward.grows⟩

theorem Sole.onward (onward : Onward userId 0 world.db reached.db) :
    Sole userId (reached :: world :: past) :=
  sole.next onward (onward.owned.trans sole.2)

theorem Sole.quiet (same : reached.db = world.db) : Sole userId (reached :: world :: past) :=
  sole.onward (Onward.elsewhere userId sole.ranked (by rw [same]) (by rw [same]) (by rw [same])
    (by rw [same]))

end Sole

theorem reads_sole {α : Type} {fact : List World → α → Prop} (view : World → α)
    (known : ∀ world past, Sole userId (world :: past) → fact (world :: world :: past) (view world)) :
    (Program.reads view : Call α).Upholds (Sole userId) (Answers fact) seen := by
  refine Program.Upholds.reads (fun world past _ sole => sole.quiet rfl) ?_
  rintro world past _ sole value ⟨⟩
  exact known world past sole

theorem looks_sole (view : World → α) :
    (Program.reads view : Call α).Upholds (Sole userId) (Answers fun _ _ => True) seen :=
  reads_sole view fun _ _ _ => trivial

theorem modify_sole (change : World → World) (same : ∀ world, (change world).db = world.db) :
    (Program.modify change : Call Unit).Upholds (Sole userId) (Answers fun _ _ => True) seen :=
  Program.Upholds.modify fun world _ _ sole => ⟨sole.quiet (same world), fun _ _ => trivial⟩

theorem attempt_sole (body : World → Except ServiceError (α × World))
    (onward : ∀ world past value reached, seen <:+ world :: past → Sole userId (world :: past) →
      body world = .ok (value, reached) → Onward userId 0 world.db reached.db) :
    (Program.attempt body).Upholds (Sole userId) (Answers fun _ _ => True) seen := by
  refine Program.Upholds.attempt ?_ ?_
  · intro world past value reached grown sole outcome
    exact ⟨sole.onward (onward world past value reached grown sole outcome), fun _ _ => trivial⟩
  · intro world past failure _ sole _
    exact ⟨sole.quiet rfl, nofun⟩

theorem transaction_sole (body : Call α)
    (onward : ∀ world past value reached, seen <:+ world :: past → Sole userId (world :: past) →
      body.run world = (.ok value, reached) → Onward userId 0 world.db reached.db) :
    (Program.transaction body).Upholds (Sole userId) (Answers fun _ _ => True) seen := by
  refine Program.Upholds.transaction ?_ fun world past failure _ sole => ⟨sole.quiet rfl, nofun⟩
  intro world past value reached grown sole ran
  exact ⟨sole.onward (onward world past value reached grown sole ran), fun _ _ => trivial⟩

theorem invalidateUserPermissionSnapshots_sole (userIds : List Nat) :
    (invalidateUserPermissionSnapshots userIds).Upholds (Sole userId) (Answers fun _ _ => True)
      seen := by
  refine Answers.bind (Answers.mapM fun user _ later _ => ?_) fun _ _ _ _ => Answers.pure trivial
  exact modify_sole _ fun world => rfl

def WasRole (roleId : Nat) (seen : List World) (found : Option OrgRole) : Prop :=
  -- The role was stored under the identifier.
  ∀ role, found = some role → ∃ world ∈ seen, world.db.findOrgRole roleId = some role

theorem getOrgRoleById_sole (roleId : Nat) :
    (getOrgRoleById roleId).Upholds (Sole userId) (Answers (WasRole roleId)) seen :=
  reads_sole _ fun world _ _ _ found => ⟨world, List.mem_cons_self .., found⟩

theorem Sole.notOwner (sole : Sole userId (world :: past)) (grown : seen <:+ world :: past)
    (roleId : Nat) (role : OrgRole) (low : role.level < 100)
    (known : ∃ earlier ∈ seen, earlier.db.findOrgRole roleId = some role) :
    NotOwner world.db roleId := by
  obtain ⟨earlier, before, found⟩ := known
  obtain ⟨ranked, grows⟩ := sole.1 earlier (grown.subset before)
  have plain : isOwnerRole role = false := by
    by_contra owner
    have top := (ranked.level role (findOrgRole_mem _ _ _ found).1).2 (by simpa using owner)
    omega
  exact (ranked.notOwner role roleId found plain).later ranked grows

variable (orgId : Nat) (user : Nat)

section OrgRole

variable (roleId : Nat) (role : OrgRole) (low : role.level < 100)
  (known : ∃ earlier ∈ seen, earlier.db.findOrgRole roleId = some role)

include low known

theorem insertMembership_sole :
    (insertMembership orgId user roleId).Upholds (Sole userId) (Answers fun _ _ => True) seen := by
  refine attempt_sole _ fun world past copy reached grown sole outcome => ?_
  split_ifs at outcome with taken missing
  cases found : world.db.findOrgRole roleId with
  | none => rw [found] at outcome; cases outcome
  | some role' =>
    rw [found] at outcome
    cases outcome
    cases present : world.db.findOrganization orgId with
    | none => simp [present] at missing
    | some organization =>
      exact Onward.insertMembership userId sole.ranked _ organization present
        (sole.notOwner grown roleId role low known)

theorem changeMembershipRole_sole :
    (changeMembershipRole orgId user roleId).Upholds (Sole userId) (Answers fun _ _ => True)
      seen := by
  refine attempt_sole _ fun world past copy reached grown sole outcome => ?_
  cases member : world.db.findMembership orgId user with
  | none => rw [member] at outcome; cases outcome
  | some membership =>
    cases found : world.db.findOrgRole roleId with
    | none => rw [member, found] at outcome; cases outcome
    | some role' =>
      rw [member, found] at outcome
      cases outcome
      exact Onward.changeMembershipRole userId sole.ranked _ roleId
        (sole.notOwner grown roleId role low known)

end OrgRole

theorem inviteMember_sole (roleId : Nat) (actor : OrganizationMembership)
    (bounded : actor.role.level ≤ 100) :
    (inviteMemberInOrganizationService orgId user roleId actor).Upholds (Sole userId)
      (Answers fun _ _ => True) seen := by
  unfold inviteMemberInOrganizationService assertCanInviteRole
  refine Answers.bind (getOrgRoleById_sole roleId) fun found first _ known => ?_
  refine orFail_bind fun role chosen => ?_
  obtain ⟨same, -⟩ := Option.filter_eq_some_iff.mp chosen
  simp only [bind_assoc]
  refine require_bind fun _ => require_bind fun below => ?_
  have low : role.level < 100 := Int.lt_of_lt_of_le (of_decide_eq_true below) bounded
  refine Answers.bind (insertMembership_sole orgId user roleId role low (known role same))
    fun copy later _ _ => ?_
  refine Answers.bind (modify_sole _ fun _ => rfl) fun _ _ _ _ => ?_
  exact Answers.bind (modify_sole _ fun _ => rfl) fun _ _ _ _ => Answers.pure trivial

theorem getOrganizationMembershipByUserId_sole :
    (getOrganizationMembershipByUserId orgId user).Upholds (Sole userId) (Answers fun _ _ => True)
      seen := by
  unfold getOrganizationMembershipByUserId
  refine Answers.bind (looks_sole _) fun cached _ _ _ => ?_
  cases cached with
  | some copy => exact Answers.pure trivial
  | none =>
    refine Answers.bind (looks_sole _) fun membership _ _ _ => ?_
    cases membership with
    | none => exact Answers.pure trivial
    | some copy =>
      exact Answers.bind (modify_sole _ fun _ => rfl) fun _ _ _ _ => Answers.pure trivial

theorem updateMember_sole (roleId : Nat) (actor : OrganizationMembership)
    (bounded : actor.role.level ≤ 100) :
    (updateMemberFromOrganizationService orgId user roleId actor).Upholds (Sole userId)
      (Answers fun _ _ => True) seen := by
  unfold updateMemberFromOrganizationService assertCanUpdateRole
  refine Answers.bind (getOrganizationMembershipByUserId_sole orgId user) fun target _ _ _ => ?_
  refine orFail_bind fun target _ => ?_
  refine Answers.bind (getOrgRoleById_sole roleId) fun found first _ known => ?_
  refine orFail_bind fun role chosen => ?_
  obtain ⟨same, -⟩ := Option.filter_eq_some_iff.mp chosen
  simp only [bind_assoc]
  refine require_bind fun _ => require_bind fun _ => require_bind fun _ =>
    require_bind fun below => require_bind fun _ => ?_
  have low : role.level < 100 := Int.lt_of_lt_of_le (of_decide_eq_true below) bounded
  refine Answers.bind (changeMembershipRole_sole orgId user roleId role low (known role same))
    fun copy later _ _ => ?_
  refine Answers.bind (modify_sole _ fun _ => rfl) fun _ _ _ _ => ?_
  exact Answers.bind (modify_sole _ fun _ => rfl) fun _ _ _ _ => Answers.pure trivial

theorem createRole_sole (body : RoleBody) (actor : OrganizationMembership) :
    (createRoleService orgId body actor).Upholds (Sole userId) (Answers fun _ _ => True) seen :=
  require_bind fun _ => Answers.fail _

variable (roleId : Nat) (updates : RoleUpdates)

section Admitted

variable (admitted : updates.Admitted) (known : ∃ earlier ∈ seen, Custom earlier.db roleId)

include admitted known

theorem changeOrgRole_sole (sole : Sole userId (world :: past)) (grown : seen <:+ world :: past)
    (role : OrgRole) (changed : (changeOrgRole roleId updates).run world = (.ok role, reached)) :
    Onward userId 0 world.db reached.db := by
  obtain ⟨earlier, before, custom⟩ := known
  obtain ⟨ranked, grows⟩ := sole.1 earlier (grown.subset before)
  have outcome := (Program.attempt_ok ..).mp changed
  cases found : world.db.findOrgRole roleId with
  | none => rw [found] at outcome; cases outcome
  | some old =>
    rw [found] at outcome
    dsimp only at outcome
    split_ifs at outcome
    cases outcome
    exact Onward.changeOrgRole userId sole.ranked roleId world.now updates
      (fun level given => (admitted.2.2 level given).2) (custom.later ranked grows)

theorem updateOrgRole_sole :
    (updateOrgRole roleId updates).Upholds (Sole userId) (Answers fun _ _ => True) seen := by
  unfold updateOrgRole
  refine Answers.bind (transaction_sole _ fun world past value reached grown sole ran => ?_)
    fun answered _ _ _ => ?_
  · obtain ⟨role, middle, first, rest⟩ := (bind_ok ..).mp ran
    obtain ⟨userIds, after, reading, finished⟩ := (bind_ok ..).mp rest
    obtain ⟨_, rfl⟩ := (Program.reads_ok ..).mp reading
    obtain ⟨_, rfl⟩ := (Program.pure_ok ..).mp finished
    exact changeOrgRole_sole roleId updates admitted known sole grown role first
  · refine Answers.bind (modify_sole _ fun _ => rfl) fun _ _ _ _ => ?_
    exact Answers.bind (invalidateUserPermissionSnapshots_sole _)
      fun _ _ _ _ => Answers.pure trivial

end Admitted

theorem updateRole_sole (admitted : updates.Admitted) (actor : OrganizationMembership) :
    (updateRoleService orgId roleId updates actor).Upholds (Sole userId) (Answers fun _ _ => True)
      seen := by
  unfold updateRoleService
  refine Answers.bind (getOrgRoleById_sole roleId) fun found first _ known => ?_
  refine orFail_bind fun role chosen => ?_
  obtain ⟨same, -⟩ := Option.filter_eq_some_iff.mp chosen
  refine require_bind fun custom => require_bind fun _ =>
    require_bind fun _ => ?_
  obtain ⟨earlier, before, stored⟩ := known role same
  obtain ⟨listed, identified⟩ := findOrgRole_mem _ _ _ stored
  have plain : Custom earlier.db roleId := ⟨role, listed, identified, by simpa using custom⟩
  cases updates.name.filter fun name => name != "" with
  | some name => exact Answers.fail _
  | none => exact updateOrgRole_sole roleId updates admitted ⟨earlier, before, plain⟩

theorem deleteRole_sole (actor : OrganizationMembership) :
    (deleteRoleService orgId roleId actor).Upholds (Sole userId) (Answers fun _ _ => True)
      seen := by
  unfold deleteRoleService deleteOrgRole
  refine Answers.bind (getOrgRoleById_sole roleId) fun found first _ _ => ?_
  refine orFail_bind fun role _ => ?_
  refine require_bind fun _ => require_bind fun _ => ?_
  refine Answers.bind (attempt_sole _ fun world past value reached _ sole outcome => ?_)
    fun deleted _ _ _ => ?_
  · cases found : world.db.findOrgRole roleId with
    | none => rw [found] at outcome; cases outcome
    | some old =>
      rw [found] at outcome
      dsimp only at outcome
      split_ifs at outcome
      cases outcome
      exact Onward.shrink userId sole.ranked rfl List.filter_sublist (List.Sublist.refl _)
        sole.ranked.placed
  · refine Answers.bind (looks_sole _) fun _ _ _ _ => ?_
    refine Answers.bind (modify_sole _ fun _ => rfl) fun _ _ _ _ => ?_
    exact Answers.bind (invalidateUserPermissionSnapshots_sole _)
      fun _ _ _ _ => Answers.pure trivial

theorem removedOrganization_onward (orgId : Nat) (ranked : Ranked world.db) :
    (do
        let userIds ← getOrganizationMemberUserIds orgId
        deleteMembershipsOf orgId
        deleteOrgRolesOf orgId
        let deletedOrganization ← deleteOrganizationRow orgId
        pure (deletedOrganization, userIds) : Call (Organization × List Nat)).wp
      (fun result reached => ∀ value, result = .ok value →
        Onward userId 0 world.db reached.db) world := by
  unfold getOrganizationMemberUserIds deleteMembershipsOf
  rw [wp_reads_bind, Program.wp_modify_bind, wp_bind]
  refine deleteOrgRolesOf_wp _ _ _ ?_ nofun
  dsimp only
  rw [wp_bind]
  refine deleteOrganizationRow_wp _ _ _ ?_ nofun
  rintro organization _ _ value ⟨⟩
  refine Onward.shrink userId ranked rfl
    (List.filter_sublist.trans List.filter_sublist) List.filter_sublist fun membership member => ?_
  obtain ⟨old, elsewhere⟩ := List.mem_filter.mp member
  obtain ⟨place, present, same⟩ := ranked.placed membership old
  exact ⟨place, List.mem_filter.mpr ⟨present, by simpa [same] using elsewhere⟩, same⟩

theorem deleteOrganization_sole :
    (deleteOrganizationService orgId).Upholds (Sole userId) (Answers fun _ _ => True) seen := by
  unfold deleteOrganizationService deleteOrganization
  refine Answers.bind (Answers.ensuring (transaction_sole _
    fun world past value reached _ sole ran => ?_) fun _ _ => modify_sole _ fun _ => rfl)
    fun deleted _ _ _ => ?_
  · have removed := @removedOrganization_onward userId world orgId sole.ranked
    rw [Program.wp, ran] at removed
    exact removed value rfl
  · exact Answers.bind (invalidateUserPermissionSnapshots_sole _)
      fun _ _ _ _ => Answers.pure trivial

theorem cacheMembershipOf_db (organization : Option HydratedOrganization) (user : Nat)
    (db : Database) :
    Program.Keeps (fun world => world.db = db) (cacheMembershipOf organization user) := by
  unfold cacheMembershipOf
  split
  · exact Program.Keeps.modify fun _ same => same
  · exact Program.Keeps.pure _

theorem invalidateUserPermissionSnapshot_db (user : Nat) (db : Database) :
    Program.Keeps (fun world => world.db = db) (invalidateUserPermissionSnapshot user) :=
  Program.Keeps.modify fun _ same => same

theorem createOrganization_onward (name : String) (owner : Nat) (ranked : Ranked world.db) :
    (createOrganizationWithRolesAndOwner name owner defaultRoles).wp
      (fun result reached => ∀ value, result = .ok value →
        Onward userId (if owner = userId then 1 else 0) world.db reached.db) world := by
  unfold createOrganizationWithRolesAndOwner
  rw [Program.wp_transaction, wp_bind]
  refine insertOrganization_wp _ _ _ ?_ nofun
  generalize ({ id := world.db.nextId, name, createdAt := world.now } : Organization) =
    organization
  dsimp only
  rw [wp_bind]
  refine insertOrgRoles_wp _ _ _ _ ?_ nofun
  intro roles made
  have founded := Onward.found userId ranked organization roles made
  dsimp only
  unfold getOrgRoleByNameIn
  rw [wp_reads_bind]
  generalize ((world.withDb _).withDb _).db.orgRoles.find? _ = chosen
  cases chosen with
  | none =>
    rintro value ⟨⟩
    exact ⟨founded.ranked, founded.grows, founded.owned.trans (by omega)⟩
  | some ownerRole =>
    dsimp only
    rw [wp_bind]
    refine insertMembership_wp _ _ _ _ _ ?_ nofun
    intro role _ present found
    obtain ⟨place, there⟩ := Option.isSome_iff_exists.mp present
    obtain ⟨listed, same⟩ := findOrgRole_mem _ _ _ found
    have early := founded.ranked.fresh role listed
    rw [same] at early
    generalize joined : newMembership _ organization.id owner ownerRole.id = membership
    have owns := founded.trans userId (Onward.own userId founded.ranked membership place
      (by rw [← joined]; exact there) (by rw [← joined]; exact early))
    rw [Nat.zero_add, show membership.userId = owner from joined ▸ rfl] at owns
    dsimp only
    unfold hydrateOrganization
    rw [wp_reads_bind]
    -- what follows writes to the caches alone
    refine Program.wp.weaken (((cacheMembershipOf_db _ _ _).bind fun _ =>
      (invalidateUserPermissionSnapshot_db owner _).bind fun _ => Program.Keeps.pure _) _ rfl) ?_
    rintro (failure | value) reached same
    · exact nofun
    · rintro _ ⟨⟩
      exact same ▸ owns

def Undisturbed (userId : Nat) (met : List World) (state reached : World) : Prop :=
  -- No step lets the user own one organisation more while he owns one that the call making the step
  -- has not read of.
  (ownedBy userId state.db).length < (ownedBy userId reached.db).length →
    ∀ looked ∈ met.head?, ownedBy userId state.db ⊆ ownedBy userId looked.db

theorem ownedBy_of_none (ranked : Ranked world.db) (owner : Nat)
    (nothing : ((world.db.memberships.find? fun membership =>
      membership.userId == owner && (world.db.findOrgRole membership.roleId).any fun role =>
        role.name == "OWNER" && role.isSystem).bind fun membership =>
      world.db.findOrganization membership.organizationId) = none) :
    ownedBy owner world.db = [] := by
  rw [ownedBy, List.filter_eq_nil_iff]
  intro membership member owns
  cases found : world.db.memberships.find? fun membership =>
      membership.userId == owner && (world.db.findOrgRole membership.roleId).any fun role =>
        role.name == "OWNER" && role.isSystem with
  | none =>
    have missed := List.find?_eq_none.mp found membership member
    refine missed ?_
    unfold isOwnerRole at owns
    simpa only [Bool.and_comm] using owns
  | some owned =>
    -- the organisation of a membership is there
    obtain ⟨organization, present, same⟩ := ranked.placed owned (List.mem_of_find?_eq_some found)
    rw [found] at nothing
    have missing := List.find?_eq_none.mp nothing organization present
    simp [same] at missing

variable (name : String) (owner : Nat)

theorem created_sole (looked : World) (unowned : ownedBy owner looked.db = []) :
    (createOrganizationWithRolesAndOwner name owner defaultRoles).UpholdsWhere (Sole userId)
      (Undisturbed userId) Program.anyEnd [looked] seen := by
  refine UpholdsWhere.transaction ?_ fun world past failure _ sole => ⟨sole.quiet rfl, trivial⟩
  intro world past value reached _ sole undisturbed ran
  have created := @createOrganization_onward userId world name owner sole.ranked
  have succeeded : (createOrganizationWithRolesAndOwner name owner defaultRoles).run world =
      (.ok value, reached) := (Program.transaction_ok ..).mpr ran
  rw [Program.wp, succeeded] at created
  have onward : Onward userId _ world.db reached.db := created value rfl
  refine ⟨sole.next onward ?_, trivial⟩
  have bound := onward.owned
  have before := sole.2
  by_cases gained : (ownedBy userId world.db).length < (ownedBy userId reached.db).length
  · by_cases same : owner = userId
    · -- the user owns what the call has read of, which is nothing
      subst same
      have known := undisturbed gained looked rfl
      rw [unowned, List.subset_nil] at known
      rw [if_pos rfl, known] at bound
      simpa using bound
    · rw [if_neg same] at bound
      omega
  · omega

theorem createOrganization_sole :
    (createOrganizationService name owner).UpholdsWhere (Sole userId) (Undisturbed userId)
      Program.anyEnd [] seen := by
  unfold createOrganizationService findOrganizationByOwner
  intro looked past grown sole _
  refine ⟨sole.quiet rfl, ?_⟩
  dsimp only
  cases existing : (looked.db.memberships.find? fun membership =>
      membership.userId == owner && (looked.db.findOrgRole membership.roleId).any fun role =>
        role.name == "OWNER" && role.isSystem).bind fun membership =>
      looked.db.findOrganization membership.organizationId with
  | some organization => trivial
  | none =>
    have unowned := ownedBy_of_none sole.ranked owner existing
    change (createOrganizationWithRolesAndOwner name owner defaultRoles >>= fun org =>
      Program.orFail org _).UpholdsWhere _ _ _ [looked] _
    refine UpholdsWhere.bind (created_sole name owner looked unowned) ?_ fun _ _ _ _ _ => trivial
    intro organization met later _ _
    cases organization with
    | none => trivial
    | some organization => trivial

end Statements

deriving instance DecidableEq for Request

def Request.program : Request → Call Unit
  | .createOrganization name userId => do
    let _ ← createOrganizationService name userId
    pure ()
  | .inviteMember orgId userId roleId actor => do
    let _ ← inviteMemberInOrganizationService orgId userId roleId actor
    pure ()
  | .updateMember orgId userId roleId actor => do
    let _ ← updateMemberFromOrganizationService orgId userId roleId actor
    pure ()
  | .createRole orgId body actor => do
    let _ ← createRoleService orgId body actor
    pure ()
  | .updateRole orgId roleId updates actor => do
    let _ ← updateRoleService orgId roleId updates actor
    pure ()
  | .deleteRole orgId roleId actor => do
    let _ ← deleteRoleService orgId roleId actor
    pure ()
  | .deleteOrganization orgId => do
    let _ ← deleteOrganizationService orgId
    pure ()

def Begins (seen : List World) (call : Request × Nat) (program : Call Unit) : Prop :=
  -- A request past its validators, whose actor's membership is as some state of the run had it.
  program = call.1.program ∧ call.1.Admitted ∧
    ∀ actor, call.1.actor = some actor → ∃ earlier ∈ seen, earlier.db.Shows actor

structure Elsewhere (world reached : World) : Prop where
  organizations : reached.db.organizations = world.db.organizations
  roles : reached.db.orgRoles = world.db.orgRoles
  memberships : reached.db.memberships = world.db.memberships
  grown : world.db.nextId ≤ reached.db.nextId

def organizationRequests : Pool.System (Request × Nat) World (Watched World ServiceError Unit) :=
  Pool.watching Begins Elsewhere

structure Unfounded (world : World) : Prop where
  organizations : world.db.organizations = []
  roles : world.db.orgRoles = []
  memberships : world.db.memberships = []

theorem Unfounded.sole {world : World} (unfounded : Unfounded world) (userId : Nat) :
    Sole userId [world] := by
  have ranked : Ranked world.db := by
    constructor <;> simp [unfounded.roles, unfounded.memberships]
  refine ⟨fun earlier member => ?_, by simp [ownedBy, unfounded.memberships]⟩
  rw [List.mem_singleton.mp member]
  exact ⟨ranked, Grows.refl _⟩

theorem request_sole (userId : Nat) (seen : List World) (sole : Sole userId seen)
    (call : Request × Nat) (program : Call Unit) (begun : Begins seen call program) :
    program.UpholdsWhere (Sole userId) (Undisturbed userId) Program.anyEnd [] seen := by
  obtain ⟨rfl, admitted, acting⟩ := begun
  -- only the creation needs the condition
  have anyhow : ∀ program : Call Unit,
      program.Upholds (Sole userId) (Answers fun _ _ => True) seen →
      program.UpholdsWhere (Sole userId) (Undisturbed userId) Program.anyEnd [] seen :=
    fun program upheld => (upheld.anywhere []).weaken fun _ _ _ _ => trivial
  have bounded : ∀ actor, call.1.actor = some actor → actor.role.level ≤ 100 := by
    intro actor acts
    obtain ⟨earlier, before, -, found⟩ := acting actor acts
    cases seen with
    | nil => cases before
    | cons world past =>
      exact ((sole.1 earlier before).1.level _ (findOrgRole_mem _ _ _ found).1).1
  obtain ⟨request, number⟩ := call
  cases request with
  | createOrganization name owner =>
    exact UpholdsWhere.bind (createOrganization_sole name owner) (fun _ _ _ _ _ => trivial)
      fun _ _ _ _ _ => trivial
  | inviteMember orgId user roleId actor =>
    exact anyhow _ (Answers.bind (inviteMember_sole orgId user roleId actor (bounded actor rfl))
      fun _ _ _ _ => Answers.pure trivial)
  | updateMember orgId user roleId actor =>
    exact anyhow _ (Answers.bind (updateMember_sole orgId user roleId actor (bounded actor rfl))
      fun _ _ _ _ => Answers.pure trivial)
  | createRole orgId body actor =>
    exact anyhow _ (Answers.bind (createRole_sole orgId body actor)
      fun _ _ _ _ => Answers.pure trivial)
  | updateRole orgId roleId updates actor =>
    exact anyhow _ (Answers.bind (updateRole_sole orgId roleId updates admitted actor)
      fun _ _ _ _ => Answers.pure trivial)
  | deleteRole orgId roleId actor =>
    exact anyhow _ (Answers.bind (deleteRole_sole orgId roleId actor)
      fun _ _ _ _ => Answers.pure trivial)
  | deleteOrganization orgId =>
    exact anyhow _ (Answers.bind (deleteOrganization_sole orgId)
      fun _ _ _ _ => Answers.pure trivial)

/-- In every run of interleaved requests where no organisation of the user's is created between
the look of another creation of his and its own transaction, he owns one organisation at most. -/
theorem one_owned_organization (userId : Nat) (start : World) (unfounded : Unfounded start)
    (pool : Pool (Request × Nat) World (Watched World ServiceError Unit))
    (run : Pool.Run organizationRequests (Pool.permitting fun _ => Undisturbed userId)
      (Pool.idle start) pool) :
    (ownedBy userId pool.state.db).length ≤ 1 := by
  have sole : Sole userId pool.seen := by
    refine Pool.Run.upheldWhere ?_ (fun seen call program sole begun =>
      request_sole userId seen sole call program begun) run (unfounded.sole userId)
    intro state past reached sole moved
    exact sole.onward (Onward.elsewhere userId sole.ranked moved.organizations moved.roles
      moved.memberships moved.grown)
  exact sole.2

def oneUser : World where
  db :=
    { users := [{ id := 1, email := "ada@example.com", password := "secret" }]
      nextId := 2 }

def founding (name : String) : Request × Nat := (.createOrganization name 1, 0)

def foundings (turns : List String) : Pool (Request × Nat) World (Watched World ServiceError Unit) :=
  Pool.play Watched.advance (fun call => { program := call.1.program })
    (turns.map fun name => .turn (founding name)) (Pool.idle oneUser)

theorem oneUser_unfounded : Unfounded oneUser := ⟨rfl, rfl, rfl⟩

theorem foundings_run
    (allowed : Pool (Request × Nat) World (Watched World ServiceError Unit) → Request × Nat →
      Watched World ServiceError Unit → Prop) (turns : List String)
    (permitted : Pool.Permits allowed Watched.advance (fun call => { program := call.1.program })
      (turns.map fun name => .turn (founding name)) (Pool.idle oneUser)) :
    Pool.Run organizationRequests allowed (Pool.idle oneUser) (foundings turns) := by
  refine Pool.play_runs _ ?_ (by simp) _ permitted
  intro call member seen
  obtain ⟨name, -, same⟩ := List.mem_map.mp member
  cases same
  exact ⟨⟨rfl, trivial, nofun⟩, rfl⟩

theorem permitting_of_unowned (pool : Pool (Request × Nat) World (Watched World ServiceError Unit))
    (call : Request × Nat) (watched : Watched World ServiceError Unit)
    (unowned : ownedBy 1 pool.state.db = []) :
    Pool.permitting (fun _ => Undisturbed 1) pool call watched := by
  intro next reached _ _ looked _
  rw [unowned]
  exact List.nil_subset _

theorem one_founding_owned :
    (ownedBy 1 (foundings ["A", "A", "A"]).state.db).length ≤ 1 :=
  one_owned_organization 1 oneUser oneUser_unfounded _
    (foundings_run _ _ ⟨fun _ _ => permitting_of_unowned _ _ _ rfl,
      fun _ _ => permitting_of_unowned _ _ _ rfl, fun _ _ => permitting_of_unowned _ _ _ rfl,
      trivial⟩)

/-- Both creations look before either has stored anything. -/
theorem two_foundings_owned :
    Unfounded oneUser ∧
      Pool.Run organizationRequests Pool.anyStatement (Pool.idle oneUser)
        (foundings ["A", "B", "A", "B", "A", "B"]) ∧
      (ownedBy 1 (foundings ["A", "B", "A", "B", "A", "B"]).state.db).length = 2 :=
  ⟨oneUser_unfounded, foundings_run _ _ (Pool.permits_any ..), by decide +kernel⟩

end HelpForge.Org
