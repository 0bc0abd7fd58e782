import HelpForge.Lib.Schema

set_option autoImplicit false

namespace HelpForge.Http

open Lib
open Lib.Json (units)

/-- What the language and the validator decide about texts and numbers. -/
structure Formats (φ : Type) where
  uuid : Text → Bool
  email : Text → Bool
  url : Text → Bool
  upperCase : Text → Text
  lowerCase : Text → Text
  trim : Text → Text
  finite : φ → Bool
  integer : φ → Bool
  positive : φ → Bool
  atLeast : Nat → φ → Bool
  atMost : Nat → φ → Bool

structure RequestSchema (φ : Type) where
  body : Option (Schema φ) := none
  params : Option (List (Text × Schema φ)) := none
  query : Option (Schema φ) := none

/-- `z.object({ body, params, query })`, of those that are there. -/
def RequestSchema.shape {φ : Type} (schema : RequestSchema φ) : List (Text × Schema φ) :=
  (schema.body.toList.map fun body => (units "body", body)) ++
    (schema.params.toList.map fun params => (units "params", Schema.object params)) ++
    schema.query.toList.map fun query => (units "query", query)

section Schemas

variable {φ : Type} (formats : Formats φ)

def onText (test : Text → Bool) (schema : Schema φ) : Schema φ :=
  schema.checked fun
    | .str text => test text
    | _ => false

def changeText (change : Text → Text) (schema : Schema φ) : Schema φ :=
  schema.mapped fun
    | .str text => .str (change text)
    | value => value

def minLength (length : Nat) : Schema φ → Schema φ := onText fun text => length ≤ text.length

def maxLength (length : Nat) : Schema φ → Schema φ := onText fun text => text.length ≤ length

def includes (values : List String) : Schema φ → Schema φ :=
  onText fun text => values.any fun value => units value == text

def upperCaseOf (values : List String) : Schema φ :=
  -- A text in upper case that is one of the values.
  includes values (changeText formats.upperCase .text)

def uuid : Schema φ := onText formats.uuid .text

def number : Schema φ :=
  Schema.number.checked fun
    | .num value => formats.finite value
    | _ => false

def onNumber (test : φ → Bool) (schema : Schema φ) : Schema φ :=
  schema.checked fun
    | .num value => test value
    | _ => false

def positiveInteger : Schema φ :=
  onNumber formats.positive (onNumber formats.integer (number formats))

def between (low high : Nat) (schema : Schema φ) : Schema φ :=
  onNumber (formats.atMost high) (onNumber (formats.atLeast low) schema)

def nonempty (schema : Schema φ) : Schema φ :=
  -- At least one member.
  schema.checked fun
    | .obj members => !members.isEmpty
    | _ => false

def allPermissions : List String :=
  ["org:update", "org:delete", "org:invite_member", "org:manage_member", "org:view_members",
    "role:create", "role:update", "role:delete", "ticket:view_all", "ticket:edit_all",
    "ticket:assign", "ticket:create_internal_comment", "ticket:delete_any_comment",
    "ticket:delete_any_attachment", "agent:update_availability", "ai:manage_config"]

def createOrganizationSchema : RequestSchema φ where
  body := some (.object [(units "name", minLength 1 .text)])

def updateOrganizationSchema : RequestSchema φ where
  body := some (.object [(units "name", minLength 1 .text)])
  params := some [(units "orgId", uuid formats)]

def deleteOrganizationSchema : RequestSchema φ where
  params := some [(units "orgId", uuid formats)]

def inviteMemberSchema : RequestSchema φ where
  body := some (.object [(units "userId", minLength 1 .text), (units "roleId", uuid formats)])

def updateMemberRoleSchema : RequestSchema φ where
  body := some (.object [(units "roleId", uuid formats)])

def permissionsSchema : Schema φ :=
  (Schema.array .text).checked fun
    | .arr permissions => !permissions.isEmpty && permissions.all fun
      | .str permission => allPermissions.any fun value => units value == permission
      | _ => false
    | _ => false

def levelSchema : Schema φ := between formats 1 99 (onNumber formats.integer (number formats))

def createRoleSchema : RequestSchema φ where
  body := some (.object
    [(units "name", maxLength 50 (minLength 1 .text)),
      (units "permissions", permissionsSchema),
      (units "level", levelSchema formats)])

def updateRoleSchema : RequestSchema φ where
  body := some (.object
    [(units "name", (maxLength 50 (minLength 1 .text)).optional),
      (units "permissions", permissionsSchema.optional),
      (units "level", (levelSchema formats).optional)])
  params := some [(units "roleId", uuid formats)]

def deleteRoleSchema : RequestSchema φ where
  params := some [(units "roleId", uuid formats)]

def ticketPriorities : List String := ["LOW", "MEDIUM", "HIGH", "URGENT"]

def ticketSources : List String := ["WEB", "EMAIL", "CHAT", "API"]

def ticketStatuses : List String := ["OPEN", "IN_PROGRESS", "RESOLVED", "CLOSED"]

def createTicketSchema : RequestSchema φ where
  body := some (.object
    [(units "organizationId", minLength 1 .text),
      (units "title", minLength 1 .text),
      (units "description", (changeText formats.trim .text).optional),
      (units "priority", (upperCaseOf formats ticketPriorities).optional),
      (units "source", (upperCaseOf formats ticketSources).optional),
      (units "assignedToId", (minLength 1 .text).optional)])

def updateTicketSchema : RequestSchema φ where
  body := some (nonempty (.object
    [(units "title", (minLength 1 .text).optional),
      (units "description", (changeText formats.trim .text).optional),
      (units "priority", (upperCaseOf formats ticketPriorities).optional),
      (units "status", (upperCaseOf formats ticketStatuses).optional),
      (units "assignedToId", (minLength 1 .text).optional)]))

def createTicketCommentSchema : RequestSchema φ where
  body := some (.object
    [(units "message", minLength 1 .text), (units "isInternal", Schema.boolean.optional)])

def createTicketAttachmentSchema : RequestSchema φ where
  body := some (.object
    [(units "fileUrl", onText formats.url .text),
      (units "fileType", minLength 1 .text),
      (units "fileSize", positiveInteger formats)])

def assignTicketSchema : RequestSchema φ where
  body := some (.object [(units "assignedToId", minLength 1 .text)])

def updateTicketStatusSchema : RequestSchema φ where
  body := some (.object [(units "status", upperCaseOf formats ticketStatuses)])

def createTagSchema : RequestSchema φ where
  body := some (.object
    [(units "organizationId", minLength 1 .text),
      (units "name", minLength 1 (changeText formats.trim .text))])

def addTicketTagSchema : RequestSchema φ where
  body := some (.object [(units "tagId", minLength 1 .text)])

def updateAgentAvailabilitySchema : RequestSchema φ where
  body := some (.object
    [(units "organizationId", minLength 1 .text), (units "isAvailable", .boolean)])

def emailField : Schema φ :=
  changeText (fun text => formats.trim (formats.lowerCase text)) (onText formats.email .text)

def isUpper (unit : UInt16) : Bool := 65 ≤ unit && unit ≤ 90

def isLower (unit : UInt16) : Bool := 97 ≤ unit && unit ≤ 122

def isDigit (unit : UInt16) : Bool := 48 ≤ unit && unit ≤ 57

def passwordField : Schema φ :=
  onText (fun text => text.any isUpper && text.any isLower && text.any isDigit &&
    text.any fun unit => !isUpper unit && !isLower unit && !isDigit unit) (maxLength 100 (minLength 8 .text))

def isText (text : Text) : Option (Json φ) → Bool
  | some (.str other) => other == text
  | _ => false

def confirms : Json φ → Bool := fun data =>
  match data.property (units "confirmPassword") with
  | some (.str confirmPassword) =>
    confirmPassword.isEmpty || isText confirmPassword (data.property (units "password"))
  | _ => true

def registerSchema : RequestSchema φ where
  body := some ((Schema.strictObject
    [(units "email", emailField formats),
      (units "password", passwordField),
      (units "confirmPassword", Schema.text.optional),
      (units "name", maxLength 100 (minLength 1 (changeText formats.trim .text)))]).checked confirms)

def loginSchema : RequestSchema φ where
  body := some (.strictObject
    [(units "email", emailField formats), (units "password", minLength 1 .text)])

def refreshSchema : RequestSchema φ where
  body := some (.strictObject [(units "refreshToken", minLength 1 .text)])

def logoutSchema : RequestSchema φ where
  body := some (.strictObject [(units "refreshToken", minLength 1 .text)])

def notificationTypes : List String :=
  ["TICKET_ASSIGNED", "TICKET_COMMENT_ADDED", "TICKET_COMMENT_DELETED", "TICKET_TAG_ADDED",
    "TICKET_TAG_REMOVED", "TICKET_ATTACHMENT_ADDED", "TICKET_ATTACHMENT_DELETED"]

def updateNotificationPreferencesSchema : RequestSchema φ where
  body := some (nonempty (.object
    [(units "inAppEnabled", Schema.boolean.optional),
      (units "emailEnabled", Schema.boolean.optional),
      (units "pushEnabled", Schema.boolean.optional),
      (units "websocketEnabled", Schema.boolean.optional),
      (units "suppressSelfNotifications", Schema.boolean.optional),
      (units "disabledTypes",
        (Schema.array (upperCaseOf formats notificationTypes)).optional)]))

def threshold : Schema φ := between formats 0 1 (number formats)

def aiConfigBody : Schema φ :=
  .object
    [(units "allowedModels", (Schema.array .text).optional),
      (units "maxTokensPerRequest", (positiveInteger formats).optional),
      (units "maxCostPerDay", (onNumber formats.positive (number formats)).nullable.optional),
      (units "enableAutoResolve", Schema.boolean.optional),
      (units "enableSmartAssign", Schema.boolean.optional),
      (units "autoResolveThreshold", (threshold formats).optional),
      (units "suggestThreshold", (threshold formats).optional),
      (units "smartAssignThreshold", (threshold formats).optional),
      (units "maxAIResponses", (positiveInteger formats).optional),
      (units "aiEnabled", Schema.boolean.optional)]

def createAIConfigSchema : RequestSchema φ where
  body := some (aiConfigBody formats)
  params := some [(units "orgId", uuid formats)]
  query := some (.object [])

def updateAIConfigSchema : RequestSchema φ where
  body := some (aiConfigBody formats)
  params := some [(units "orgId", uuid formats)]
  query := some (.object [])

def getAIConfigSchema : RequestSchema φ where
  body := some (.object [])
  params := some [(units "orgId", uuid formats)]
  query := some (.object [])

def toggleAISchema : RequestSchema φ where
  body := some (.object [(units "aiActive", .boolean)])

def given (name : String) (value : Json φ) : Bool := (value.property (units name)).isSome

def overrideDecisionSchema : RequestSchema φ where
  body := some (((Schema.object
    [(units "action", (includes ["resolve", "assign"] .text).optional),
      (units "assignToId", (minLength 1 .text).optional),
      (units "status", (upperCaseOf formats ticketStatuses).optional)]).checked
        fun value => given "action" value || given "status" value).checked
        fun value => !isText (units "assign") (value.property (units "action")) ||
          given "assignToId" value)

end Schemas

end HelpForge.Http
