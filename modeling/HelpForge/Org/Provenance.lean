import HelpForge.Org.Service
import HelpForge.Lib.History

set_option autoImplicit false

namespace HelpForge.Org

open Lib Database
open Lib.Program (Answers)
open Auth (permissionSnapshot scopeOf)

def Holds (db : Database) (userId orgId : Nat) (permission : Permission) : Prop :=
  ∃ copy, db.Shows copy ∧ copy.userId = userId ∧ copy.organizationId = orgId ∧
    permission ∈ copy.role.permissions

variable (db : Database)

def WasShown (seen : List World) (copy : OrganizationMembership) : Prop :=
  ∃ earlier ∈ seen, earlier.db.Shows copy

def WasSnapshot (seen : List World) (userId : Nat) (scope : List OrganizationScope) : Prop :=
  -- A registration signs a token without a snapshot.
  scope = [] ∨ ∃ earlier ∈ seen, scope = permissionSnapshot earlier.db userId

structure Traced (seen : List World) (world : World) : Prop where
  users : ∀ userId copy, world.userCache userId = some copy → copy.id = userId
  memberships : ∀ orgId userId copy, world.membershipCache orgId userId = some copy →
    copy.organizationId = orgId ∧ copy.userId = userId ∧ WasShown seen copy
  scopes : ∀ userId scope, world.accessScopeCache userId = some scope →
    WasSnapshot seen userId scope
  tokens : ∀ token ∈ world.signed, WasSnapshot seen token.sub token.orgPermissions

def Provenance : List World → Prop
  | [] => True
  | world :: past => Traced (world :: past) world

theorem WasShown.later {seen later : List World} {copy : OrganizationMembership}
    (shown : WasShown seen copy) (grown : seen <:+ later) : WasShown later copy := by
  obtain ⟨earlier, member, view⟩ := shown
  exact ⟨earlier, grown.subset member, view⟩

theorem WasSnapshot.later {seen later : List World} {userId : Nat}
    {scope : List OrganizationScope} (was : WasSnapshot seen userId scope)
    (grown : seen <:+ later) : WasSnapshot later userId scope := by
  rcases was with empty | ⟨earlier, member, same⟩
  · exact .inl empty
  · exact .inr ⟨earlier, grown.subset member, same⟩

structure Calm (world reached : World) : Prop where
  users : ∀ userId copy, reached.userCache userId = some copy → world.userCache userId = some copy
  memberships : ∀ orgId userId copy, reached.membershipCache orgId userId = some copy →
    world.membershipCache orgId userId = some copy
  scopes : ∀ userId scope, reached.accessScopeCache userId = some scope →
    world.accessScopeCache userId = some scope
  signed : reached.signed = world.signed

theorem Calm.refl (world : World) : Calm world world :=
  ⟨fun _ _ there => there, fun _ _ _ there => there, fun _ _ there => there, rfl⟩

section Provenance

variable {world reached : World} {past seen : List World}

theorem Traced.later (traced : Traced past world) (grown : past <:+ seen) : Traced seen world where
  users := traced.users
  memberships := fun orgId userId copy there =>
    (traced.memberships orgId userId copy there).imp_right (And.imp_right (·.later grown))
  scopes := fun userId scope there => (traced.scopes userId scope there).later grown
  tokens := fun token member => (traced.tokens token member).later grown

section Provenance

variable (traced : Provenance (world :: past))

include traced

theorem Provenance.calm (calm : Calm world reached) : Provenance (reached :: world :: past) := by
  have before := Traced.later traced (List.suffix_cons reached _)
  exact
    { users := fun userId copy there => before.users userId copy (calm.users userId copy there)
      memberships := fun orgId userId copy there =>
        before.memberships orgId userId copy (calm.memberships orgId userId copy there)
      scopes := fun userId scope there =>
        before.scopes userId scope (calm.scopes userId scope there)
      tokens := by
        rw [calm.signed]
        exact before.tokens }

theorem Provenance.putMembership (copy : OrganizationMembership)
    (shown : WasShown (world :: past) copy) :
    Provenance (world.putMembership copy :: world :: past) := by
  have before := Traced.later traced (List.suffix_cons (world.putMembership copy) _)
  refine { before with memberships := ?_ }
  intro orgId userId other there
  simp only [World.putMembership] at there
  split_ifs at there with key
  · cases there
    exact ⟨key.1.symm, key.2.symm, shown.later (List.suffix_cons ..)⟩
  · exact before.memberships orgId userId other there

theorem Provenance.putAccessScope (userId : Nat) (scope : List OrganizationScope)
    (was : WasSnapshot (world :: past) userId scope) :
    Provenance (world.putAccessScope userId scope :: world :: past) := by
  have before := Traced.later traced (List.suffix_cons (world.putAccessScope userId scope) _)
  refine { before with scopes := ?_ }
  intro other held there
  simp only [World.putAccessScope] at there
  split_ifs at there
  · exact before.scopes other held there
  · by_cases same : other = userId
    · subst same
      rw [Function.update_self, Option.some.injEq] at there
      subst there
      exact was.later (List.suffix_cons ..)
    · rw [Function.update_of_ne same] at there
      exact before.scopes other held there

theorem Provenance.putUser (user : AuthUser) :
    Provenance (world.putUser user :: world :: past) := by
  have before := Traced.later traced (List.suffix_cons (world.putUser user) _)
  refine { before with users := ?_ }
  intro userId copy there
  rcases World.putUser_userCache world user copy userId there with cached | ⟨same, rfl⟩
  · exact before.users userId copy cached
  · exact same

theorem Provenance.sign (accessToken : Claims)
    (was : WasSnapshot (world :: past) accessToken.sub accessToken.orgPermissions) :
    Provenance (Auth.sign accessToken world :: world :: past) := by
  have before := Traced.later traced (List.suffix_cons (Auth.sign accessToken world) _)
  refine { before with tokens := ?_ }
  intro token member
  rcases List.mem_cons.mp member with rfl | earlier
  · exact was.later (List.suffix_cons ..)
  · exact before.tokens token earlier

end Provenance

end Provenance

section statements

variable {α : Type} {seen : List World} {fact : List World → α → Prop} (view : World → α)

theorem reads_traced
    (known : ∀ world past, seen <:+ world :: past → Traced (world :: past) world →
      fact (world :: world :: past) (view world)) :
    (Program.reads view : Call α).Upholds Provenance (Answers fact) seen := by
  refine Program.Upholds.reads (fun world past _ traced => traced.calm (Calm.refl world)) ?_
  rintro world past grown traced value ⟨⟩
  exact known world past grown traced

variable (orgId : Nat)

variable (userId : Nat) (roleId : Nat)

variable (updates : RoleUpdates)

variable (token : Claims)

end statements

end HelpForge.Org
