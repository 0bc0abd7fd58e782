import HelpForge.Tickets.Service

set_option autoImplicit false

namespace HelpForge.Tickets

open Lib
open Org (OrganizationMember)

/-- Values in which some rows of users stand: `fill` looks them up again by their keys. -/
class Joined (α : Type) where
  fill : (Nat → Option User) → α → α
  keys : α → List Nat
  fill_eq_iff : ∀ (find find' : Nat → Option User) (value : α),
    (∀ id, (find id).isSome = (find' id).isSome) →
      (fill find value = fill find' value ↔ ∀ id ∈ keys value, find id = find' id)

namespace Joined

section Containers

variable {α : Type} [Joined α]

instance : Joined (List α) where
  fill find values := values.map (fill find)
  keys values := values.flatMap keys
  fill_eq_iff find find' values same := by
    induction values with
    | nil => simp
    | cons value values ih =>
      simp only [List.map_cons, List.cons.injEq, ih, fill_eq_iff find find' value same,
        List.flatMap_cons, List.mem_append, or_imp, forall_and]

instance : Joined (Option α) where
  fill find value := value.map (fill find)
  keys value := value.toList.flatMap keys
  fill_eq_iff find find' value same := by
    cases value with
    | none => simp
    | some value => simp [fill_eq_iff find find' value same]

instance : Joined (OnTicket α) where
  fill find value := { value with row := fill find value.row }
  keys value := keys value.row
  fill_eq_iff find find' value same := by
    simp [fill_eq_iff find find' value.row same]

end Containers

instance : Joined AuthoredComment where
  fill find comment := { comment with author := comment.authorId.bind find }
  keys comment := comment.authorId.toList
  fill_eq_iff find find' comment same := by
    cases comment.authorId <;> simp

instance : Joined ActedActivity where
  fill find activity := { activity with actor := find activity.actorId }
  keys activity := [activity.actorId]
  fill_eq_iff find find' activity same := by simp

instance : Joined UploadedAttachment where
  fill find attachment := { attachment with uploader := find attachment.uploadedBy }
  keys attachment := [attachment.uploadedBy]
  fill_eq_iff find find' attachment same := by simp

instance : Joined Tag where
  fill _ tag := tag
  keys _ := []
  fill_eq_iff _ _ _ _ := by simp

instance : Joined NamedTicketTag where
  fill _ ticketTag := ticketTag
  keys _ := []
  fill_eq_iff _ _ _ _ := by simp

def parties (ticket : Ticket) : List Nat := ticket.createdById :: ticket.assignedToId.toList

theorem parties_agree (find find' : Nat → Option User) (ticket : Ticket) :
    (find ticket.createdById = find' ticket.createdById ∧
        ticket.assignedToId.bind find = ticket.assignedToId.bind find') ↔
      ∀ id ∈ parties ticket, find id = find' id := by
  cases assigned : ticket.assignedToId <;> simp [parties, assigned]

instance : Joined ListedTicket where
  fill find ticket :=
    { ticket with
      createdBy := find ticket.createdById
      assignedTo := ticket.assignedToId.bind find }
  keys ticket := parties ticket.toTicket
  fill_eq_iff find find' ticket same := by
    rw [← parties_agree]
    simp

instance : Joined AgentTicket where
  fill find ticket := { ticket with toListedTicket := fill find ticket.toListedTicket }
  keys ticket := keys ticket.toListedTicket
  fill_eq_iff find find' ticket same := by
    rw [← fill_eq_iff find find' ticket.toListedTicket same]
    simp

instance : Joined HydratedTicket where
  fill find ticket :=
    { ticket with
      createdBy := find ticket.createdById
      assignedTo := ticket.assignedToId.bind find
      comments := fill find ticket.comments
      activities := fill find ticket.activities }
  keys ticket := parties ticket.toTicket ++ keys ticket.comments ++ keys ticket.activities
  fill_eq_iff find find' ticket same := by
    have people := parties_agree find find' ticket.toTicket
    have comments := fill_eq_iff find find' ticket.comments same
    have activities := fill_eq_iff find find' ticket.activities same
    simp only [List.mem_append, or_imp, forall_and]
    rw [← people, ← comments, ← activities]
    simp [and_assoc]

instance : Joined CreatedTicket where
  fill find
    | .listed ticket => .listed (fill find ticket)
    | .assigned ticket => .assigned (fill find ticket)
  keys
    | .listed ticket => keys ticket
    | .assigned ticket => keys ticket
  fill_eq_iff find find' created same := by
    cases created with
    | listed ticket => simp [fill_eq_iff find find' ticket same]
    | assigned ticket => simp [fill_eq_iff find find' ticket same]

instance : Joined OrganizationMember where
  fill find member := { member with user := (find member.userId).getD member.user }
  keys member := [member.userId]
  fill_eq_iff find find' member same := by
    have alike := same member.userId
    cases found : find member.userId <;> cases found' : find' member.userId <;>
      simp_all

end Joined

end HelpForge.Tickets
