import HelpForge.Tickets.Service

set_option autoImplicit false

/-!
# What ticket events leave in the activity log

A handler that fails is logged, and the others go on.
-/

namespace HelpForge.Tickets

open Lib

def statusName : TicketStatus → String
  | .open => "OPEN"
  | .inProgress => "IN_PROGRESS"
  | .resolved => "RESOLVED"
  | .closed => "CLOSED"

structure ActivityData where
  action : TicketActivityAction
  oldValue : Option String := none
  newValue : Option String := none
  deriving DecidableEq, Repr

section Handlers

variable (showId : Nat → String)

def activityData (event : TicketEvent) : ActivityData :=
  let metadata := event.metadata
  match event.name with
  | .created => { action := .ticketCreated, newValue := metadata.title }
  | .assigned =>
    { action := .ticketAssigned
      oldValue := metadata.previousAssignedToId.map showId
      newValue := metadata.assignedToId.map showId }
  | .statusChanged =>
    { action := .ticketStatusUpdated
      oldValue := metadata.previousStatus.map statusName
      newValue := metadata.status.map statusName }
  | .commentAdded => { action := .commentAdded, newValue := metadata.message }
  | .commentDeleted => { action := .commentDeleted, oldValue := metadata.message }
  | .tagAdded => { action := .tagAdded, newValue := metadata.tagName }
  | .tagRemoved => { action := .tagRemoved, oldValue := metadata.tagName }
  | .attachmentAdded => { action := .attachmentAdded, newValue := metadata.fileUrl }
  | .attachmentDeleted => { action := .attachmentDeleted, oldValue := metadata.fileUrl }

def createActivityLogForEvent (event : TicketEvent) : Call Unit := do
  let data := activityData showId event
  let _ ← createTicketActivityLog event.ticketId event.actorId data.action data.oldValue
    data.newValue
  pure ()

def handleEach : List TicketEvent → Call Unit
  | [] => pure ()
  | event :: rest => do
    (createActivityLogForEvent showId event).recover fun _ => pure ()
    handleEach rest

def handleEvents : Call Unit := do
  let events ← Program.reads World.events
  Program.modify fun world => { world with events := [] }
  handleEach showId events

end Handlers

end HelpForge.Tickets
