import HelpForge.Tickets.Calls

set_option autoImplicit false

namespace HelpForge.Tickets

open Lib
open Program (run_bind run_require)

/-- What the server makes of texts. -/
structure Texts where
  upperCase : String → String
  trim : String → String
  parseDate : String → Option Nat

inductive Assignee where
  | me
  | user (id : Nat)
  deriving DecidableEq, Repr

structure FilterObject where
  organizationId : Option Nat := none
  status : Option String := none
  priority : Option String := none
  source : Option String := none
  assignedTo : Option Assignee := none
  assignedToId : Option Nat := none
  tag : Option String := none
  tagId : Option Nat := none
  dateFrom : Option String := none
  dateTo : Option String := none
  deriving DecidableEq, Repr

def truthy (text : Option String) : Option String := text.filter (· != "")

def ticketStatus : String → Option TicketStatus
  | "OPEN" => some .open
  | "IN_PROGRESS" => some .inProgress
  | "RESOLVED" => some .resolved
  | "CLOSED" => some .closed
  | _ => none

def ticketPriority : String → Option Priority
  | "LOW" => some .low
  | "MEDIUM" => some .medium
  | "HIGH" => some .high
  | "URGENT" => some .urgent
  | _ => none

def ticketSource : String → Option TicketSource
  | "WEB" => some .web
  | "EMAIL" => some .email
  | "CHAT" => some .chat
  | "API" => some .api
  | _ => none

section Texts

variable (texts : Texts) (filters : FilterObject)

def FilterObject.tagName : Option String := truthy (filters.tag.map texts.trim)

def normalizeTicketFilters : TicketQuery where
  organizationId := filters.organizationId
  status := (truthy (filters.status.map texts.upperCase)).map ticketStatus
  priority := (truthy (filters.priority.map texts.upperCase)).map ticketPriority
  source := (truthy (filters.source.map texts.upperCase)).map ticketSource
  assignedToMe := filters.assignedTo == some .me
  assignedTo := filters.assignedTo.bind fun
    | .me => none
    | .user id => some id
  assignedToId := filters.assignedToId
  tag := filters.tagName texts
  tagId := filters.tagId
  dateFrom := (truthy filters.dateFrom).map texts.parseDate
  dateTo := (truthy filters.dateTo).map texts.parseDate

def listTickets (userId : Nat) : Call (List ListedTicket) :=
  -- The list, of filters as they come.
  getTicketsService (normalizeTicketFilters texts filters) userId

/-- No text is empty, and each names what its filter is about. -/
structure FilterObject.Valid : Prop where
  status : ∀ text ∈ filters.status, (ticketStatus (texts.upperCase text)).isSome = true
  priority : ∀ text ∈ filters.priority, (ticketPriority (texts.upperCase text)).isSome = true
  source : ∀ text ∈ filters.source, (ticketSource (texts.upperCase text)).isSome = true
  tag : ∀ text ∈ filters.tag, text ≠ ""
  dateFrom : ∀ text ∈ filters.dateFrom, text ≠ "" ∧ (texts.parseDate text).isSome = true
  dateTo : ∀ text ∈ filters.dateTo, text ≠ "" ∧ (texts.parseDate text).isSome = true

def FilterObject.start : Option Nat := filters.dateFrom.bind texts.parseDate

def FilterObject.stop : Option Nat := filters.dateTo.bind texts.parseDate

def FilterObject.Ordered : Prop :=
  -- The range of dates is not turned round.
  ∀ start ∈ filters.start texts, ∀ stop ∈ filters.stop texts, start ≤ stop

/-- The one assignee that the filters come to: "me", then `assignedToId`, then `assignedTo`. -/
def FilterObject.assignee (userId : Nat) : Option Nat :=
  match filters.assignedTo with
  | some .me => some userId
  | some (.user id) => filters.assignedToId.or (some id)
  | none => filters.assignedToId

/-- The ticket meets the filters; the two of a tag are about one tag of the ticket. -/
structure Satisfies (db : Database) (userId : Nat) (ticket : Ticket) : Prop where
  status : ∀ text ∈ filters.status, ticketStatus (texts.upperCase text) = some ticket.status
  priority : ∀ text ∈ filters.priority,
    ticketPriority (texts.upperCase text) = some ticket.priority
  source : ∀ text ∈ filters.source, ticketSource (texts.upperCase text) = some ticket.source
  assignee : ∀ assignee ∈ filters.assignee userId, ticket.assignedToId = some assignee
  tag : (filters.tagId = none ∧ filters.tagName texts = none) ∨
    ∃ ticketTag ∈ tagsOf db ticket.id,
      (∀ tagId ∈ filters.tagId, tagId = ticketTag.tagId) ∧
        ∀ name ∈ filters.tagName texts, ∃ tag ∈ ticketTag.tag, tag.name = name
  start : ∀ start ∈ filters.start texts, start ≤ ticket.createdAt
  stop : ∀ stop ∈ filters.stop texts, ticket.createdAt ≤ stop

end Texts

inductive PermissionEntry where
  | text (name : String)
  | named (name : String)
  | joined (name : String)
  | other
  deriving DecidableEq, Repr

def PermissionEntry.value : PermissionEntry → Option String
  | .text name => some name
  | .named name => some name
  | .joined name => some name
  | .other => none

def extractPermissionValues (permissions : List PermissionEntry) : List String :=
  (permissions.filterMap PermissionEntry.value).filter (· != "")

def permissionName : Permission → String
  | .orgUpdate => "org:update"
  | .orgDelete => "org:delete"
  | .orgInviteMember => "org:invite_member"
  | .orgManageMember => "org:manage_member"
  | .orgViewMembers => "org:view_members"
  | .roleCreate => "role:create"
  | .roleUpdate => "role:update"
  | .roleDelete => "role:delete"
  | .ticketViewAll => "ticket:view_all"
  | .ticketEditAll => "ticket:edit_all"
  | .ticketAssign => "ticket:assign"
  | .ticketCreateInternalComment => "ticket:create_internal_comment"
  | .ticketDeleteAnyComment => "ticket:delete_any_comment"
  | .ticketDeleteAnyAttachment => "ticket:delete_any_attachment"
  | .agentUpdateAvailability => "agent:update_availability"
  | .aiManageConfig => "ai:manage_config"

def Spells (entries : List PermissionEntry) (role : OrgRole) : Prop :=
  -- The entries are the permissions of the role, each in some shape.
  extractPermissionValues entries = role.permissions.map permissionName

def has (permissions : List PermissionEntry) (permission : Permission) : Bool :=
  (extractPermissionValues permissions).contains (permissionName permission)

theorem permissionName_injective : Function.Injective permissionName := by
  have apart : ∀ first ∈ Org.allPermissions, ∀ second ∈ Org.allPermissions,
      permissionName first = permissionName second → first = second := by decide +kernel
  intro first second same
  exact apart first (Org.allPermissions_complete first) second
    (Org.allPermissions_complete second) same

theorem has_of_spells (entries : List PermissionEntry) (role : OrgRole)
    (spelled : Spells entries role) (permission : Permission) :
    has entries permission = Org.hasPermission role permission := by
  -- No check of a permission depends on the shapes.
  unfold has Org.hasPermission
  rw [spelled, Bool.eq_iff_iff, List.contains_iff_mem, List.contains_iff_mem]
  exact List.mem_map_of_injective permissionName_injective

theorem read_valid {α : Type} (named : String → Option α) (text : Option String)
    (there : ∀ given ∈ text, given ≠ "" ∧ (named given).isSome = true) :
    readable ((truthy text).map named) = true ∧
      ((truthy text).map named).join = text.bind named := by
  -- A filter that is given and valid is read as it is meant.
  cases text with
  | none => exact ⟨rfl, rfl⟩
  | some given =>
    obtain ⟨full, names⟩ := there given rfl
    have kept : truthy (some given) = some given := by simp [truthy, full]
    rw [kept]
    exact ⟨names, by rfl⟩

theorem named_upper {α : Type} (named : String → Option α) (blank : named "" = none)
    (upperCase : String → String) (text : Option String)
    (valid : ∀ given ∈ text, (named (upperCase given)).isSome = true) :
    ∀ given ∈ text.map upperCase, given ≠ "" ∧ (named given).isSome = true := by
  intro given member
  obtain ⟨original, there, rfl⟩ := Option.map_eq_some_iff.mp member
  refine ⟨?_, valid original there⟩
  intro empty
  have named := valid original there
  rw [empty, blank] at named
  cases named

theorem all_named {α : Type} [DecidableEq α] (named : String → Option α)
    (upperCase : String → String) (text : Option String)
    (valid : ∀ given ∈ text, (named (upperCase given)).isSome = true) (value : α) :
    ((text.map upperCase).bind named).all (· == value) = true ↔
      ∀ given ∈ text, named (upperCase given) = some value := by
  cases text with
  | none => simp
  | some given =>
    obtain ⟨meant, names⟩ := Option.isSome_iff_exists.mp (valid given rfl)
    simp [names]

theorem parseDateFilter_readable (value : Option (Read Nat)) (fieldName : String)
    (reads : readable value = true) : parseDateFilter value fieldName = pure value.join := by
  rcases value with - | - | time
  · rfl
  · cases reads
  · rfl

def reversedRange : ServiceError :=
  .api 400 "dateFrom cannot be after dateTo" "INVALID_DATE_RANGE"

/-- A query past the checks of its texts. -/
structure Legible (query : TicketQuery) : Prop where
  status : readable query.status = true
  priority : readable query.priority = true
  source : readable query.source = true
  dateFrom : readable query.dateFrom = true
  dateTo : readable query.dateTo = true

def inOrder (query : TicketQuery) : Bool :=
  query.dateFrom.join.all fun start => query.dateTo.join.all fun stop => start ≤ stop

def commonFilters (query : TicketQuery) (userId : Nat) : TicketFilters where
  organizationIds := query.organizationId.map fun organizationId => [organizationId]
  status := query.status.join
  priority := query.priority.join
  source := query.source.join
  assignedToId := resolvedAssignedToId query userId
  tagId := query.tagId
  tagName := query.tag
  createdFrom := query.dateFrom.join
  createdTo := query.dateTo.join

def shownFilters (query : TicketQuery) (role : OrgRole) (userId : Nat) : TicketFilters :=
  -- The filters of the query, and the ticket is the member's own where the role demands it.
  if canViewAllOrganizationTickets role then commonFilters query userId
  else { commonFilters query userId with seenBy := some userId }

section Query

variable {query : TicketQuery} (legible : Legible query)
include legible

theorem validateListFilters_legible (organization : query.organizationId.isSome = true) :
    validateListFilters query = Program.require (inOrder query) reversedRange := by
  unfold validateListFilters
  rw [legible.status, legible.priority, legible.source, organization,
    parseDateFilter_readable _ _ legible.dateFrom, parseDateFilter_readable _ _ legible.dateTo]
  rfl

theorem buildCommonTicketFilters_legible (userId : Nat) :
    buildCommonTicketFilters query userId = pure (commonFilters query userId) := by
  unfold buildCommonTicketFilters
  rw [parseDateFilter_readable _ _ legible.dateFrom, parseDateFilter_readable _ _ legible.dateTo]
  rfl

theorem run_getTicketsService (organizationId userId : Nat) (world : World)
    (membership : OrganizationMembership) (asked : query.organizationId = some organizationId)
    (member : seenMembership world organizationId userId = some membership) :
    (getTicketsService query userId).run world =
      if inOrder query then
        (.ok ((matching world.db (shownFilters query membership.role userId)).map (listed world.db)),
          afterLooking world organizationId userId)
      else (.error reversedRange, world) := by
  unfold getTicketsService
  rw [validateListFilters_legible legible (by rw [asked]; rfl), run_bind,
    run_require]
  by_cases ordered : inOrder query = true
  · rw [if_pos ordered, if_pos ordered, asked]
    dsimp only
    rw [Program.orFail, Program.pure_bind, run_bind,
      (memberOf_ok organizationId userId _ membership).mpr ⟨member, rfl⟩]
    dsimp only
    rw [buildCommonTicketFilters_legible legible, Program.pure_bind, getTickets,
      Program.run_reads, afterLooking_db]
    rfl
  · rw [if_neg ordered, if_neg ordered]

end Query

section Loaded

variable (ticket : Ticket) (userId : Nat) (world : World) (membership : OrganizationMembership)
  (found : world.db.findTicket ticket.id = some ticket)
  (member : seenMembership world ticket.organizationId userId = some membership)
include found member

theorem run_admitted (message : String) (allowed : OrgRole → Ticket → Bool) :
    (admitted ticket.id userId message allowed).run world =
      (if allowed membership.role ticket then .ok (hydrated world.db ticket, membership)
        else .error (forbidden message),
        afterLooking world ticket.organizationId userId) := by
  have loaded : (existingTicket ticket.id).run world = (.ok (hydrated world.db ticket), world) :=
    (existingTicket_ok ticket.id _).mpr ⟨⟨ticket, found, rfl⟩, rfl⟩
  have recognized : (memberOf (hydrated world.db ticket).organizationId userId message).run world =
        (.ok membership, afterLooking world ticket.organizationId userId) :=
    (memberOf_ok ticket.organizationId userId _ membership).mpr ⟨member, rfl⟩
  unfold admitted
  rw [run_bind, loaded]
  dsimp only
  rw [run_bind, recognized]
  dsimp only
  have same : allowed membership.role (hydrated world.db ticket).toTicket =
      allowed membership.role ticket := rfl
  rw [run_bind, run_require, same]
  by_cases permitted : allowed membership.role ticket = true
  · rw [if_pos permitted, if_pos permitted]
    rfl
  · rw [if_neg permitted, if_neg permitted]

theorem run_getTicketByIdService :
    (getTicketByIdService ticket.id userId).run world =
      (if canSee membership.role ticket userId then
          .ok (filterInternalCommentsForRole (hydrated world.db ticket) membership.role)
        else .error (forbidden "You do not have permission to view this ticket"),
        afterLooking world ticket.organizationId userId) := by
  unfold getTicketByIdService
  rw [run_bind, run_admitted ticket userId world membership found member]
  by_cases permitted : canSee membership.role ticket userId = true
  · rw [if_pos permitted, if_pos permitted]
    rfl
  · rw [if_neg permitted, if_neg permitted]

end Loaded

variable (db : Database)

section Selected

variable {texts : Texts} {filters : FilterObject} (valid : filters.Valid texts)
include valid

theorem normalized_legible : Legible (normalizeTicketFilters texts filters) where
  status := (read_valid ticketStatus _ (named_upper _ rfl _ _ valid.status)).1
  priority := (read_valid ticketPriority _ (named_upper _ rfl _ _ valid.priority)).1
  source := (read_valid ticketSource _ (named_upper _ rfl _ _ valid.source)).1
  dateFrom := (read_valid texts.parseDate _ valid.dateFrom).1
  dateTo := (read_valid texts.parseDate _ valid.dateTo).1

theorem normalized_start :
    (normalizeTicketFilters texts filters).dateFrom.join = filters.start texts :=
  (read_valid texts.parseDate _ valid.dateFrom).2

theorem normalized_stop :
    (normalizeTicketFilters texts filters).dateTo.join = filters.stop texts :=
  (read_valid texts.parseDate _ valid.dateTo).2

omit valid in
theorem resolved_assignee (userId : Nat) :
    resolvedAssignedToId (normalizeTicketFilters texts filters) userId =
      filters.assignee userId := by
  unfold resolvedAssignedToId normalizeTicketFilters FilterObject.assignee
  rcases filters.assignedTo with - | - | id
  · simp
  · simp
  · simp

theorem matches_iff (db : Database) (userId : Nat) (ticket : Ticket) :
    (commonFilters (normalizeTicketFilters texts filters) userId).matches db ticket = true ↔
      (∀ organizationId ∈ filters.organizationId, ticket.organizationId = organizationId) ∧
        Satisfies texts filters db userId ticket := by
  have status : (normalizeTicketFilters texts filters).status.join = _ :=
    (read_valid ticketStatus _ (named_upper _ rfl _ _ valid.status)).2
  have priority : (normalizeTicketFilters texts filters).priority.join = _ :=
    (read_valid ticketPriority _ (named_upper _ rfl _ _ valid.priority)).2
  have source : (normalizeTicketFilters texts filters).source.join = _ :=
    (read_valid ticketSource _ (named_upper _ rfl _ _ valid.source)).2
  have organization : (filters.organizationId.map fun id => [id]).all
      (·.contains ticket.organizationId) = true ↔
        ∀ organizationId ∈ filters.organizationId, ticket.organizationId = organizationId := by
    cases filters.organizationId <;> simp
  have tags : ((filters.tagId.isNone && (filters.tagName texts).isNone) ||
      (tagsOf db ticket.id).any fun ticketTag =>
        filters.tagId.all (· == ticketTag.tagId) &&
          (filters.tagName texts).all fun name => ticketTag.tag.any (·.name == name)) = true ↔
      (filters.tagId = none ∧ filters.tagName texts = none) ∨
        ∃ ticketTag ∈ tagsOf db ticket.id, (∀ tagId ∈ filters.tagId, tagId = ticketTag.tagId) ∧
          ∀ name ∈ filters.tagName texts, ∃ tag ∈ ticketTag.tag, tag.name = name := by
    simp only [Bool.or_eq_true, Bool.and_eq_true, Option.isNone_iff_eq_none, List.any_eq_true,
      Option.all_eq_true, Option.any_eq_true, beq_iff_eq, Option.mem_def]
  unfold TicketFilters.matches commonFilters
  dsimp only
  rw [status, priority, source, normalized_start valid, normalized_stop valid, resolved_assignee]
  simp only [Bool.and_eq_true]
  rw [all_named _ _ _ valid.status, all_named _ _ _ valid.priority, all_named _ _ _ valid.source]
  constructor
  · rintro ⟨⟨⟨⟨⟨⟨⟨⟨organizations, statuses⟩, priorities⟩, sources⟩, assignees⟩, tagged⟩, late⟩,
      early⟩, -⟩
    refine ⟨organization.mp organizations, statuses, priorities, sources, ?_, tags.mp tagged, ?_,
      ?_⟩
    · simpa [Option.all_eq_true] using assignees
    · simpa [Option.all_eq_true] using late
    · simpa [Option.all_eq_true] using early
  · rintro ⟨organizations, statuses, priorities, sources, assignees, tagged, late, early⟩
    refine ⟨⟨⟨⟨⟨⟨⟨⟨organization.mpr organizations, statuses⟩, priorities⟩, sources⟩, ?_⟩,
      tags.mpr tagged⟩, ?_⟩, ?_⟩, rfl⟩
    · simpa [Option.all_eq_true] using assignees
    · simpa [Option.all_eq_true] using late
    · simpa [Option.all_eq_true] using early

end Selected

theorem mem_matching {texts : Texts} {filters : FilterObject} (valid : filters.Valid texts)
    (db : Database) (organizationId userId : Nat) (role : OrgRole)
    (asked : filters.organizationId = some organizationId) (ticket : Ticket) :
    ticket ∈ matching db (shownFilters (normalizeTicketFilters texts filters) role userId) ↔
      ticket ∈ db.tickets ∧ ticket.organizationId = organizationId ∧
        Satisfies texts filters db userId ticket ∧ canSee role ticket userId = true := by
  -- The list selects what the filters ask for and the single ticket does not refuse.
  have conditions := matches_iff valid db userId ticket
  rw [asked] at conditions
  have place : (∀ id ∈ some organizationId, ticket.organizationId = id) ↔
      ticket.organizationId = organizationId := by simp
  rw [place] at conditions
  unfold matching newestFirst canSee shownFilters
  rw [List.mem_insertionSort, List.mem_filter]
  by_cases all : canViewAllOrganizationTickets role = true
  · rw [if_pos all, conditions, all]
    simp
  · rw [if_neg all]
    -- The member's own tickets: the condition on the rows is the check of the loaded ticket.
    have narrowed : TicketFilters.matches db
        { commonFilters (normalizeTicketFilters texts filters) userId with
          seenBy := some userId } ticket =
        (TicketFilters.matches db (commonFilters (normalizeTicketFilters texts filters) userId)
          ticket && canMemberViewTicket ticket userId) := by
      simp [TicketFilters.matches, commonFilters]
    rw [narrowed, Bool.and_eq_true, conditions, Bool.eq_false_iff.mpr all, Bool.false_or]
    simp only [and_assoc]

def Forbidden (world : World) (ticketId userId : Nat) : Prop :=
  -- The call for the single ticket is refused as forbidden.
  ∃ failure reached, (getTicketByIdService ticketId userId).run world = (.error failure, reached) ∧
    failure.code = some "FORBIDDEN"

theorem forbidden_iff (ticket : Ticket) (userId : Nat) (world : World)
    (membership : OrganizationMembership)
    (found : world.db.findTicket ticket.id = some ticket)
    (member : seenMembership world ticket.organizationId userId = some membership) :
    Forbidden world ticket.id userId ↔ canSee membership.role ticket userId = false := by
  unfold Forbidden
  rw [run_getTicketByIdService ticket userId world membership found member]
  by_cases permitted : canSee membership.role ticket userId = true
  · simp [permitted]
  · rw [if_neg permitted, Bool.eq_false_iff]
    exact ⟨fun _ => permitted, fun _ => ⟨_, _, rfl, rfl⟩⟩

theorem findTicket_of_mem (distinct : (db.tickets.map (·.id)).Nodup) (ticket : Ticket)
    (stored : ticket ∈ db.tickets) : db.findTicket ticket.id = some ticket := by
  cases found : db.findTicket ticket.id with
  | none =>
    have absent := List.find?_eq_none.mp found ticket stored
    simp at absent
  | some other =>
    have same : other.id = ticket.id := by simpa using List.find?_some found
    have listed := List.mem_of_find?_eq_some found
    rw [List.inj_on_of_nodup_map distinct listed stored same]

theorem matching_nodup (filters : TicketFilters) (distinct : (db.tickets.map (·.id)).Nodup) :
    ((matching db filters).map (·.id)).Nodup := by
  have same := (List.perm_insertionSort (fun first second : Ticket =>
    second.createdAt ≤ first.createdAt) (db.tickets.filter (filters.matches db))).map (·.id)
  exact same.nodup_iff.mpr (distinct.sublist (List.filter_sublist.map _))

theorem exists_listed (rows : List Ticket) (ticket : Ticket) :
    (∃ shown ∈ rows.map (listed db), shown.toTicket = ticket) ↔ ticket ∈ rows := by
  constructor
  · rintro ⟨shown, member, same⟩
    obtain ⟨row, stored, rfl⟩ := List.mem_map.mp member
    exact same ▸ stored
  · intro member
    exact ⟨listed db ticket, List.mem_map_of_mem member, rfl⟩

theorem inOrder_iff {texts : Texts} {filters : FilterObject} (valid : filters.Valid texts) :
    inOrder (normalizeTicketFilters texts filters) = true ↔ filters.Ordered texts := by
  unfold inOrder FilterObject.Ordered
  rw [normalized_start valid, normalized_stop valid]
  simp [Option.all_eq_true]

/-- The list is what the single ticket shows of what the filters ask for, and a range of dates
that is turned round is refused; and none of this depends on the shape of a permission list. -/
theorem list_shows_visible (texts : Texts) (world : World) (filters : FilterObject)
    (organizationId userId : Nat) (distinct : (world.db.tickets.map (·.id)).Nodup)
    (asked : filters.organizationId = some organizationId) (valid : filters.Valid texts)
    (member : (seenMembership world organizationId userId).isSome = true) :
    (filters.Ordered texts → ∃ tickets,
      ((listTickets texts filters userId).run world).1 = .ok tickets ∧
        (tickets.map (·.id)).Nodup ∧
        ∀ ticket, (∃ shown ∈ tickets, shown.toTicket = ticket) ↔
          ticket ∈ world.db.tickets ∧ ticket.organizationId = organizationId ∧
            Satisfies texts filters world.db userId ticket ∧
            ¬Forbidden world ticket.id userId) ∧
    (¬filters.Ordered texts →
      ((listTickets texts filters userId).run world).1 = .error reversedRange) ∧
    ∀ role entries, Spells entries role →
      has entries .ticketViewAll = canViewAllOrganizationTickets role := by
  obtain ⟨membership, known⟩ := Option.isSome_iff_exists.mp member
  have ran := run_getTicketsService (normalized_legible valid) organizationId userId world
    membership asked known
  rw [listTickets, ran, ← inOrder_iff valid]
  refine ⟨fun ordered => ?_, fun reversed => ?_, fun role entries spelled =>
    has_of_spells entries role spelled .ticketViewAll⟩
  · rw [if_pos ordered]
    refine ⟨_, rfl, ?_, fun ticket => ?_⟩
    · rw [List.map_map]
      exact matching_nodup world.db _ distinct
    -- A ticket of the organisation is loaded by its identifier, and the same membership is seen.
    · rw [exists_listed, mem_matching valid world.db organizationId userId membership.role asked]
      constructor
      · rintro ⟨stored, here, satisfies, sees⟩
        refine ⟨stored, here, satisfies, ?_⟩
        rw [forbidden_iff ticket userId world membership
          (findTicket_of_mem world.db distinct ticket stored) (here ▸ known), sees]
        simp
      · rintro ⟨stored, here, satisfies, permitted⟩
        refine ⟨stored, here, satisfies, ?_⟩
        rw [forbidden_iff ticket userId world membership
          (findTicket_of_mem world.db distinct ticket stored) (here ▸ known)] at permitted
        simpa using permitted
  · rw [if_neg reversed]

def asciiTexts : Texts where
  upperCase text := String.ofList (text.toList.map Char.toUpper)
  trim text :=
    String.ofList
      ((text.toList.dropWhile Char.isWhitespace).reverse.dropWhile Char.isWhitespace).reverse
  parseDate text :=
    if text = "2026-03-01" then some 1772323200000
    else if text = "2026-03-02" then some 1772409600000
    else none

def pairedDesk : World where
  db :=
    { users := [{ id := 1, email := "lead@a.example", password := "" },
        { id := 2, email := "agent@a.example", password := "" }]
      organizations := [{ id := 3, name := "A" }]
      orgRoles := [{ id := 4, name := "LEAD", organizationId := 3
                     permissions := [.ticketViewAll], level := 60 }]
      memberships := [{ id := 5, userId := 1, organizationId := 3, roleId := 4 }]
      tickets :=
        [{ id := 6, title := "Printer", organizationId := 3, createdById := 1
           assignedToId := some 2 },
          { id := 7, title := "Screen", organizationId := 3, createdById := 2
            assignedToId := some 1 }]
      tags := [{ id := 8, name := "vip", organizationId := 3 },
        { id := 9, name := "bug", organizationId := 3 }]
      ticketTags := [{ ticketId := 6, tagId := 8 }, { ticketId := 6, tagId := 9 }]
      nextId := 10 }

def openTickets : FilterObject := { organizationId := some 3, status := some "open" }

theorem openTickets_valid : openTickets.Valid asciiTexts where
  status := by decide +kernel
  priority _ given := by cases given
  source _ given := by cases given
  tag _ given := by cases given
  dateFrom _ given := by cases given
  dateTo _ given := by cases given

theorem open_tickets_shown :
    ∃ tickets, ((listTickets asciiTexts openTickets 1).run pairedDesk).1 = .ok tickets ∧
      (tickets.map (·.id)).Nodup ∧
      ∀ ticket, (∃ shown ∈ tickets, shown.toTicket = ticket) ↔
        ticket ∈ pairedDesk.db.tickets ∧ ticket.organizationId = 3 ∧
          Satisfies asciiTexts openTickets pairedDesk.db 1 ticket ∧
          ¬Forbidden pairedDesk ticket.id 1 :=
  (list_shows_visible asciiTexts pairedDesk openTickets 3 1 (by decide +kernel) rfl
    openTickets_valid (by decide +kernel)).1 fun _ given => by cases given

def mineAndTheirs : FilterObject :=
  { organizationId := some 3, assignedTo := some .me, assignedToId := some 2 }

def vipAndBug : FilterObject := { organizationId := some 3, tag := some "vip", tagId := some 9 }

def blankTag : FilterObject := { organizationId := some 3, tag := some " " }

def turnedRound : FilterObject :=
  { organizationId := some 3, dateFrom := some "2026-03-02", dateTo := some "2026-03-01" }

def listedIds (filters : FilterObject) : Option (List Nat) :=
  ((listTickets asciiTexts filters 1).run pairedDesk).1.toOption.map fun tickets =>
    tickets.map (·.id)

/-- The list has a ticket that is not assigned to the user asked for, lacks one that has the tag
with the name and the one with the identifier, has tickets without a tag of the name, and refuses
two dates that no ticket lies between. -/
theorem filters_resolved :
    (listedIds mineAndTheirs = some [7] ∧
      (pairedDesk.db.findTicket 7).map (·.assignedToId) = some (some 1)) ∧
    (listedIds vipAndBug = some [] ∧
      (tagsOf pairedDesk.db 6).map (fun ticketTag => (ticketTag.tagId, ticketTag.tag.map (·.name))) =
        [(8, some "vip"), (9, some "bug")]) ∧
    (listedIds blankTag = some [6, 7] ∧ tagsOf pairedDesk.db 7 = []) ∧
    ((listTickets asciiTexts turnedRound 1).run pairedDesk).1 = .error reversedRange := by
  refine ⟨⟨?_, ?_⟩, ⟨?_, ?_⟩, ⟨?_, ?_⟩, ?_⟩ <;> decide +kernel

end HelpForge.Tickets
