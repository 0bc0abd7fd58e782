import HelpForge.Shared.Errors
import Mathlib.Data.List.Basic

set_option autoImplicit false

/-!
# Stored rows

One list for each table of the schema, one record for each row. Times are milliseconds.
-/

namespace HelpForge

inductive Permission where
  | orgUpdate
  | orgDelete
  | orgInviteMember
  | orgManageMember
  | orgViewMembers
  | roleCreate
  | roleUpdate
  | roleDelete
  | ticketViewAll
  | ticketEditAll
  | ticketAssign
  | ticketCreateInternalComment
  | ticketDeleteAnyComment
  | ticketDeleteAnyAttachment
  | agentUpdateAvailability
  | aiManageConfig
  deriving DecidableEq, Repr

inductive TicketStatus where
  | open
  | inProgress
  | resolved
  | closed
  deriving DecidableEq, Repr

inductive Priority where
  | low
  | medium
  | high
  | urgent
  deriving DecidableEq, Repr

inductive TicketSource where
  | web
  | email
  | chat
  | api
  deriving DecidableEq, Repr

inductive CommentAuthorType where
  | user
  | ai
  | system
  deriving DecidableEq, Repr

inductive TicketActivityAction where
  | ticketCreated
  | ticketUpdated
  | ticketAssigned
  | ticketStatusUpdated
  | commentAdded
  | commentDeleted
  | attachmentAdded
  | attachmentDeleted
  | tagAdded
  | tagRemoved
  deriving DecidableEq, Repr

inductive NotificationType where
  | ticketAssigned
  | ticketCommentAdded
  | ticketCommentDeleted
  | ticketTagAdded
  | ticketTagRemoved
  | ticketAttachmentAdded
  | ticketAttachmentDeleted
  deriving DecidableEq, Repr

inductive ScrapeStatus where
  | pending
  | processing
  | completed
  | failed
  | stale
  deriving DecidableEq, Repr

structure User where
  id : Nat
  email : String
  password : String
  name : Option String := none
  createdAt : Nat := 0
  updatedAt : Nat := 0
  tokenIssuedAt : Option Nat := none
  isDeleted : Bool := false
  deletedAt : Option Nat := none
  deriving DecidableEq, Repr

structure RefreshToken where
  token : Nat
  userId : Nat
  expiresAt : Nat
  deriving DecidableEq, Repr

structure TokenBlacklist where
  jti : Nat
  expiresAt : Nat
  deriving DecidableEq, Repr

structure Organization where
  id : Nat
  name : String
  createdAt : Nat := 0
  deriving DecidableEq, Repr

structure OrgRole where
  id : Nat
  name : String
  organizationId : Nat
  permissions : List Permission
  level : Int
  isSystem : Bool := false
  createdAt : Nat := 0
  updatedAt : Nat := 0
  deriving DecidableEq, Repr

structure Membership where
  id : Nat
  userId : Nat
  organizationId : Nat
  roleId : Nat
  isAvailable : Bool := true
  maxTicketsPerDay : Option Nat := some 10
  maxTicketsPerWeek : Option Nat := some 50
  createdAt : Nat := 0
  deriving DecidableEq, Repr

structure Ticket where
  id : Nat
  title : String
  description : Option String := none
  status : TicketStatus := .open
  priority : Priority := .medium
  source : TicketSource := .web
  organizationId : Nat
  createdById : Nat
  assignedToId : Option Nat := none
  aiActive : Bool := true
  aiMessageCount : Nat := 0
  category : Option String := none
  resolvedAt : Option Nat := none
  firstResponseAt : Option Nat := none
  dueAt : Option Nat := none
  resolvedBy : Option String := none
  resolutionSummary : Option String := none
  isDeleted : Bool := false
  deletedAt : Option Nat := none
  createdAt : Nat := 0
  updatedAt : Nat := 0
  deriving DecidableEq, Repr

structure TicketComment where
  id : Nat
  ticketId : Nat
  authorId : Option Nat
  authorType : CommentAuthorType
  message : String
  isInternal : Bool := false
  isDeleted : Bool := false
  deletedAt : Option Nat := none
  createdAt : Nat := 0
  deriving DecidableEq, Repr

structure TicketAttachment where
  id : Nat
  ticketId : Nat
  uploadedBy : Nat
  fileUrl : String
  fileType : String
  fileSize : Nat
  createdAt : Nat := 0
  deriving DecidableEq, Repr

structure Tag where
  id : Nat
  name : String
  organizationId : Nat
  deriving DecidableEq, Repr

structure TicketTag where
  ticketId : Nat
  tagId : Nat
  deriving DecidableEq, Repr

structure TicketActivityLog where
  id : Nat
  ticketId : Nat
  actorId : Nat
  action : TicketActivityAction
  oldValue : Option String := none
  newValue : Option String := none
  createdAt : Nat := 0
  deriving DecidableEq, Repr

structure AgentWorkload where
  userId : Nat
  organizationId : Nat
  assignedToday : Nat := 0
  assignedThisWeek : Nat := 0
  lastDailyReset : Nat
  lastWeeklyReset : Nat
  deriving DecidableEq, Repr

structure EventMetadata where
  title : Option String := none
  previousAssignedToId : Option Nat := none
  assignedToId : Option Nat := none
  previousStatus : Option TicketStatus := none
  status : Option TicketStatus := none
  message : Option String := none
  tagName : Option String := none
  fileUrl : Option String := none
  deriving DecidableEq, Repr

structure Notification where
  id : Nat
  organizationId : Nat
  ticketId : Option Nat
  recipientId : Nat
  type : NotificationType
  title : String
  message : String
  metadata : Option EventMetadata
  isRead : Bool := false
  readAt : Option Nat := none
  createdAt : Nat := 0
  deriving DecidableEq, Repr

structure NotificationPreference where
  userId : Nat
  inAppEnabled : Bool := true
  emailEnabled : Bool := false
  pushEnabled : Bool := false
  websocketEnabled : Bool := true
  suppressSelfNotifications : Bool := true
  disabledTypes : List NotificationType := []
  deriving DecidableEq, Repr

structure ScrapedPage where
  id : Nat
  orgId : Nat
  url : String
  urlHash : String
  contentHash : Option String := none
  status : ScrapeStatus := .pending
  chunkCount : Nat := 0
  lastScrapedAt : Option Nat := none
  lastEmbeddedAt : Option Nat := none
  errorMessage : Option String := none
  createdAt : Nat := 0
  updatedAt : Nat := 0
  deriving DecidableEq, Repr

structure OrganizationReference where
  organizationId : Nat
  deriving DecidableEq, Repr

structure Database where
  users : List User := []
  refreshTokens : List RefreshToken := []
  tokenBlacklist : List TokenBlacklist := []
  organizations : List Organization := []
  orgRoles : List OrgRole := []
  memberships : List Membership := []
  tickets : List Ticket := []
  ticketComments : List TicketComment := []
  ticketAttachments : List TicketAttachment := []
  tags : List Tag := []
  ticketTags : List TicketTag := []
  ticketActivityLogs : List TicketActivityLog := []
  agentWorkloads : List AgentWorkload := []
  notifications : List Notification := []
  notificationPreferences : List NotificationPreference := []
  scrapedPages : List ScrapedPage := []
  aiUsages : List OrganizationReference := []
  aiConfigs : List OrganizationReference := []
  ticketSubmissionConfigs : List OrganizationReference := []
  -- Identifiers from here on have not been generated yet.
  nextId : Nat := 0
  deriving DecidableEq, Repr

def changeWhere {α : Type} (matching : α → Bool) (change : α → α) (rows : List α) : List α :=
  rows.map fun row => if matching row then change row else row

section changeWhere

variable {α β : Type} {matching : α → Bool} {change : α → α} {rows : List α}

theorem mem_changeWhere {row : α} :
    row ∈ changeWhere matching change rows ↔
      (row ∈ rows ∧ matching row = false) ∨
        ∃ old ∈ rows, matching old = true ∧ change old = row := by
  unfold changeWhere
  rw [List.mem_map]
  constructor
  · rintro ⟨old, member, rfl⟩
    by_cases hit : matching old = true
    · rw [if_pos hit]
      exact .inr ⟨old, member, hit, rfl⟩
    · rw [if_neg hit]
      exact .inl ⟨member, by simpa using hit⟩
  · rintro (⟨member, miss⟩ | ⟨old, member, hit, rfl⟩)
    · exact ⟨row, member, by simp [miss]⟩
    · exact ⟨old, member, by simp [hit]⟩

theorem map_changeWhere (view : α → β) (unchanged : ∀ row, view (change row) = view row) :
    (changeWhere matching change rows).map view = rows.map view := by
  unfold changeWhere
  rw [List.map_map]
  refine List.map_congr_left fun row _ => ?_
  by_cases hit : matching row = true <;> simp [hit, unchanged]

variable (keep : α → Bool)

theorem filter_changeWhere (unchanged : ∀ row, keep (change row) = keep row) :
    (changeWhere matching change rows).filter keep =
      changeWhere matching change (rows.filter keep) := by
  unfold changeWhere
  rw [List.filter_map]
  congr 1
  refine List.filter_congr fun row _ => ?_
  by_cases hit : matching row = true <;> simp [hit, unchanged]

theorem find?_changeWhere (wanted : α → Bool) (unchanged : ∀ row, wanted (change row) = wanted row) :
    (changeWhere matching change rows).find? wanted =
      (rows.find? wanted).map fun row => if matching row then change row else row := by
  unfold changeWhere
  rw [List.find?_map]
  congr 2
  funext row
  by_cases hit : matching row = true <;> simp [hit, unchanged]

theorem filter_changeWhere_of_none (before : ∀ row ∈ rows, matching row = true → keep row = false)
    (after : ∀ row ∈ rows, matching row = true → keep (change row) = false) :
    (changeWhere matching change rows).filter keep = rows.filter keep := by
  induction rows with
  | nil => rfl
  | cons row rest ih =>
    have tail := ih (fun other member => before other (List.mem_cons_of_mem _ member))
      (fun other member => after other (List.mem_cons_of_mem _ member))
    unfold changeWhere at tail ⊢
    rw [List.map_cons, List.filter_cons, List.filter_cons, tail]
    by_cases hit : matching row = true
    · simp [hit, before row (List.mem_cons_self ..) hit, after row (List.mem_cons_self ..) hit]
    · simp [hit]

end changeWhere

theorem find?_filter_of_kept {α : Type} (wanted keep : α → Bool) (rows : List α) (row : α)
    (found : rows.find? wanted = some row) (kept : keep row = true) :
    (rows.filter keep).find? wanted = some row := by
  rw [List.find?_filter]
  induction rows with
  | nil => cases found
  | cons head rest ih =>
    by_cases hit : wanted head = true
    · rw [List.find?_cons_of_pos hit, Option.some.injEq] at found
      subst found
      rw [List.find?_cons_of_pos (by simp [hit, kept])]
    · rw [List.find?_cons_of_neg hit] at found
      rw [List.find?_cons_of_neg (by simp [hit])]
      exact ih found

end HelpForge
