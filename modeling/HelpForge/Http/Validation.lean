import HelpForge.Http.Schemas
import HelpForge.Shared.Errors

set_option autoImplicit false

namespace HelpForge.Http

open Lib
open Lib.Json (units)

/-- The body is missing where none was sent. -/
structure Request (φ : Type) where
  body : Option (Json φ) := none
  params : Json φ
  query : Json φ := .obj []

section Validate

variable {φ : Type}

def Request.value (request : Request φ) : Json φ :=
  .obj ((request.body.toList.map fun body => (units "body", body)) ++
    [(units "params", request.params), (units "query", request.query)])

def validate (schema : RequestSchema φ) (request : Request φ) :
    Except ServiceError (Request φ) :=
  -- The query is read-only, and stays.
  match Schema.object schema.shape (some request.value) with
  | some (some validatedData) =>
    .ok
      { request with
        body := some ((validatedData.property (units "body")).getD (.obj []))
        params := (validatedData.property (units "params")).getD request.params }
  | _ => .error (.rejected 400 "Validation error")

theorem shape_names (schema : RequestSchema φ) :
    schema.shape.map Prod.fst =
      (schema.body.toList.map fun _ => units "body") ++
        (schema.params.toList.map fun _ => units "params") ++
        schema.query.toList.map fun _ => units "query" := by
  simp [RequestSchema.shape, Function.comp_def]

theorem shape_distinct (schema : RequestSchema φ) : (schema.shape.map Prod.fst).Nodup := by
  rw [shape_names]
  obtain ⟨body, params, query⟩ := schema
  cases body <;> cases params <;> cases query <;> simp <;> decide

theorem value_params (request : Request φ) :
    request.value.property (units "params") = some request.params := by
  have apart : ¬units "query" = units "params" := by decide
  simp [Request.value, Json.property, apart]

section Request

variable (schema : RequestSchema φ) (request checked : Request φ)
  (valid : validate schema request = .ok checked)

include valid

theorem validate_unscreened (unscreened : schema.params = none) :
    checked.params = request.params := by
  -- Parameters without a schema are left alone.
  unfold validate at valid
  split at valid
  · rename_i validatedData made
    obtain ⟨members, kept, whole, built, same⟩ := Schema.object_made _ _ _ made
    cases same
    cases valid
    have absent : units "params" ∉ schema.shape.map Prod.fst := by
      rw [shape_names, unscreened]
      have first : ¬units "params" = units "body" := by decide
      have last : ¬units "params" = units "query" := by decide
      simp [first, last]
    dsimp only
    rw [Schema.property_undeclared _ _ _ built _ absent]
    rfl
  · cases valid

theorem validate_screened (shape : List (Text × Schema φ)) (screened : schema.params = some shape) :
    ∃ kept, Schema.fields request.params shape = some kept ∧ checked.params = .obj kept := by
  -- Parameters with a schema are what it keeps of them.
  unfold validate at valid
  split at valid
  · rename_i validatedData made
    obtain ⟨members, kept, whole, built, same⟩ := Schema.object_made _ _ _ made
    cases same
    cases valid
    have declared : (units "params", Schema.object shape) ∈ schema.shape := by
      simp [RequestSchema.shape, screened]
    have parsed := Schema.property_declared _ _ _ built (shape_distinct schema) _ _ declared
    rw [← Option.some_inj.mp whole, value_params] at parsed
    obtain ⟨params, keeps, given, fields, result⟩ := Schema.object_made _ _ _ parsed
    refine ⟨keeps, ?_, ?_⟩
    · rw [Option.some_inj.mp given]
      exact fields
    · dsimp only
      rw [result]
      rfl
  · cases valid

theorem kept_iff_declared (reads : List Text)
    (present : ∀ name ∈ reads, (request.params.property name).isSome = true)
    (distinct : ∀ shape ∈ schema.params, (shape.map Prod.fst).Nodup)
    (exact : ∀ shape ∈ schema.params, ∀ entry ∈ shape, Schema.Exact entry.2) :
    (∀ name ∈ reads, checked.params.property name = request.params.property name) ↔
      ∀ shape ∈ schema.params, ∀ name ∈ reads, name ∈ shape.map Prod.fst := by
  -- The parameters that are read keep their values exactly if the schema declares each of them.
  cases screened : schema.params with
  | none =>
    have same := validate_unscreened schema request checked valid screened
    simp [same]
  | some shape =>
    obtain ⟨kept, fields, same⟩ := validate_screened schema request checked valid shape screened
    rw [same]
    constructor
    · rintro keeps other ⟨rfl⟩ name read
      by_contra undeclared
      -- The URL had a value for it, and the parsed parameters have none.
      have there := present name read
      rw [← keeps name read, Schema.property_undeclared _ _ _ fields name undeclared] at there
      cases there
    · intro declares name read
      obtain ⟨⟨declared, own⟩, member, rfl⟩ := List.mem_map.mp (declares shape rfl name read)
      have made := Schema.property_declared _ _ _ fields (distinct shape screened) _ _ member
      exact exact shape screened _ member _ _ made

end Request

end Validate

inductive Segment where
  | literal (text : String)
  | param (name : String)
  deriving DecidableEq, Repr

def Segment.name : Segment → Option Text
  | .literal _ => none
  | .param name => some (units name)

def matchPath {φ : Type} (lowerCase : Text → Text) :
    List Segment → List Text → Option (List (Text × Json φ))
  -- The parameters of a URL whose parts, decoded, match the path; literals do so in any case.
  | [], [] => some []
  | .literal text :: path, part :: url =>
    if lowerCase part == lowerCase (units text) then matchPath lowerCase path url else none
  | .param name :: path, part :: url =>
    if part.isEmpty then none
    else (matchPath lowerCase path url).map fun params => (units name, .str part) :: params
  | _, _ => none

theorem matchPath_has {φ : Type} (lowerCase : Text → Text) (path : List Segment) (url : List Text)
    (params : List (Text × Json φ)) (matched : matchPath lowerCase path url = some params)
    (name : Text) (there : name ∈ path.filterMap Segment.name) :
    ((Json.obj params).property name).isSome = true := by
  induction path generalizing url params with
  | nil => cases there
  | cons segment path ih =>
    cases url with
    | nil => cases segment <;> cases matched
    | cons part url =>
      cases segment with
      | literal text =>
        simp only [matchPath] at matched
        split_ifs at matched
        exact ih url params matched (by simpa [Segment.name] using there)
      | param own =>
        simp only [matchPath] at matched
        split_ifs at matched
        obtain ⟨rest, later, rfl⟩ := Option.map_eq_some_iff.mp matched
        have split : (Json.obj ((units own, Json.str part) :: rest)).property name =
            ((Json.obj rest).property name).or
              ((Json.obj [(units own, Json.str part)]).property name) :=
          Schema.property_append name [(units own, .str part)] rest
        rw [split]
        -- Of two parameters of one name the later counts, so that there is a value in any case.
        by_cases same : name = units own
        · subst same
          simp [Json.property]
        · have below : name ∈ path.filterMap Segment.name := by
            simpa [Segment.name, same] using there
          have present := ih url rest later below
          rw [Option.isSome_or, present, Bool.true_or]

/-- The routes with a schema, under the names of their handlers. -/
inductive ValidatedRoute where
  | createOrganization
  | updateOrganization
  | deleteOrganization
  | inviteMemberInOrganization
  | updateMemberFromOrganization
  | createRole
  | updateRole
  | deleteRole
  | createTag
  | createTicket
  | assignTicket
  | updateTicketStatus
  | updateTicket
  | addTicketTag
  | createTicketAttachment
  | createTicketComment
  | updateMyAgentAvailability
  | register
  | login
  | refresh
  | logout
  | updateMyNotificationPreferences
  | getAIConfig
  | createAIConfig
  | updateAIConfig
  | toggleAI
  | overrideDecision
  deriving DecidableEq, Repr

namespace ValidatedRoute

def path : ValidatedRoute → List Segment
  | createOrganization => [.literal "api", .literal "organizations"]
  | updateOrganization | deleteOrganization =>
    [.literal "api", .literal "organizations", .param "orgId"]
  | inviteMemberInOrganization =>
    [.literal "api", .literal "organizations", .param "orgId", .literal "members"]
  | updateMemberFromOrganization =>
    [.literal "api", .literal "organizations", .param "orgId", .literal "members", .param "userId"]
  | createRole => [.literal "api", .literal "organizations", .param "orgId", .literal "roles"]
  | updateRole | deleteRole =>
    [.literal "api", .literal "organizations", .param "orgId", .literal "roles", .param "roleId"]
  | createTag => [.literal "api", .literal "tickets", .literal "tags"]
  | createTicket => [.literal "api", .literal "tickets"]
  | assignTicket => [.literal "api", .literal "tickets", .param "ticketId", .literal "assign"]
  | updateTicketStatus => [.literal "api", .literal "tickets", .param "ticketId", .literal "status"]
  | updateTicket => [.literal "api", .literal "tickets", .param "ticketId"]
  | addTicketTag => [.literal "api", .literal "tickets", .param "ticketId", .literal "tags"]
  | createTicketAttachment =>
    [.literal "api", .literal "tickets", .param "ticketId", .literal "attachments"]
  | createTicketComment =>
    [.literal "api", .literal "tickets", .param "ticketId", .literal "comments"]
  | updateMyAgentAvailability =>
    [.literal "api", .literal "agents", .literal "me", .literal "availability"]
  | register => [.literal "api", .literal "auth", .literal "register"]
  | login => [.literal "api", .literal "auth", .literal "login"]
  | refresh => [.literal "api", .literal "auth", .literal "refresh"]
  | logout => [.literal "api", .literal "auth", .literal "logout"]
  | updateMyNotificationPreferences =>
    [.literal "api", .literal "notifications", .literal "preferences"]
  | getAIConfig | createAIConfig | updateAIConfig =>
    [.literal "api", .literal "ai", .literal "config", .param "orgId"]
  | toggleAI =>
    [.literal "api", .literal "ai", .literal "automation", .literal "toggle", .param "ticketId"]
  | overrideDecision =>
    [.literal "api", .literal "ai", .literal "automation", .literal "override", .param "ticketId"]

def schema {φ : Type} (formats : Formats φ) : ValidatedRoute → RequestSchema φ
  | createOrganization => createOrganizationSchema
  | updateOrganization => updateOrganizationSchema formats
  | deleteOrganization => deleteOrganizationSchema formats
  | inviteMemberInOrganization => inviteMemberSchema formats
  | updateMemberFromOrganization => updateMemberRoleSchema formats
  | createRole => createRoleSchema formats
  | updateRole => updateRoleSchema formats
  | deleteRole => deleteRoleSchema formats
  | createTag => createTagSchema formats
  | createTicket => createTicketSchema formats
  | assignTicket => assignTicketSchema
  | updateTicketStatus => updateTicketStatusSchema formats
  | updateTicket => updateTicketSchema formats
  | addTicketTag => addTicketTagSchema
  | createTicketAttachment => createTicketAttachmentSchema formats
  | createTicketComment => createTicketCommentSchema
  | updateMyAgentAvailability => updateAgentAvailabilitySchema
  | register => registerSchema formats
  | login => loginSchema formats
  | refresh => refreshSchema
  | logout => logoutSchema
  | updateMyNotificationPreferences => updateNotificationPreferencesSchema formats
  | getAIConfig => getAIConfigSchema formats
  | createAIConfig => createAIConfigSchema formats
  | updateAIConfig => updateAIConfigSchema formats
  | toggleAI => toggleAISchema
  | overrideDecision => overrideDecisionSchema formats

def reads : ValidatedRoute → List Text
  -- The path parameters that the handler takes from the request.
  | updateOrganization | deleteOrganization | inviteMemberInOrganization | createRole
  | getAIConfig | createAIConfig | updateAIConfig => [units "orgId"]
  | updateMemberFromOrganization => [units "orgId", units "userId"]
  | updateRole | deleteRole => [units "orgId", units "roleId"]
  | assignTicket | updateTicketStatus | updateTicket | addTicketTag | createTicketAttachment
  | createTicketComment | toggleAI | overrideDecision => [units "ticketId"]
  | createOrganization | createTag | createTicket | updateMyAgentAvailability | register | login
  | refresh | logout | updateMyNotificationPreferences => []

theorem reads_matched (route : ValidatedRoute) :
    ∀ name ∈ route.reads, name ∈ route.path.filterMap Segment.name := by
  cases route <;> decide

def declared : ValidatedRoute → Option (List Text)
  -- The parameters that the schema declares, if it says anything about them.
  | updateOrganization | deleteOrganization | getAIConfig | createAIConfig | updateAIConfig =>
    some [units "orgId"]
  | updateRole | deleteRole => some [units "roleId"]
  | _ => none

section Declared

variable {φ : Type} (formats : Formats φ) (route : ValidatedRoute)

theorem exact_uuid : Schema.Exact (uuid formats) := Schema.exact_text.checked _

theorem params_schema :
    (route.schema formats).params =
      route.declared.map fun names => names.map fun name => (name, uuid formats) := by
  cases route <;> rfl

theorem declares_iff :
    (∀ shape ∈ (route.schema formats).params, ∀ name ∈ route.reads,
      name ∈ shape.map Prod.fst) ↔ route ≠ updateRole ∧ route ≠ deleteRole := by
  have names : (∀ shape ∈ (route.schema formats).params, ∀ name ∈ route.reads,
      name ∈ shape.map Prod.fst) ↔
        ∀ declared ∈ route.declared, ∀ name ∈ route.reads, name ∈ declared := by
    rw [params_schema]
    cases route.declared <;> simp
  rw [names]
  cases route <;> decide

end Declared

end ValidatedRoute

/-- On every route but two, what the handler reads of the path is what the URL had. -/
theorem params_kept_iff {φ : Type} (formats : Formats φ) (route : ValidatedRoute)
    (url : List Text) (params : List (Text × Json φ)) (request checked : Request φ)
    (matched : matchPath formats.lowerCase route.path url = some params)
    (arrived : request.params = .obj params)
    (valid : validate (route.schema formats) request = .ok checked) :
    (∀ name ∈ route.reads, checked.params.property name = request.params.property name) ↔
      route ≠ .updateRole ∧ route ≠ .deleteRole := by
  rw [← route.declares_iff formats]
  apply kept_iff_declared (route.schema formats) request checked valid route.reads
  · intro name read
    rw [arrived]
    exact matchPath_has formats.lowerCase route.path url params matched name
      (route.reads_matched name read)
  · intro shape screened
    rw [ValidatedRoute.params_schema] at screened
    obtain ⟨names, declared, rfl⟩ := Option.map_eq_some_iff.mp screened
    have distinct : ∀ names ∈ route.declared, names.Nodup := by cases route <;> decide
    simpa [Function.comp_def] using distinct names declared
  · intro shape screened entry member
    rw [ValidatedRoute.params_schema] at screened
    obtain ⟨names, declared, rfl⟩ := Option.map_eq_some_iff.mp screened
    obtain ⟨name, -, rfl⟩ := List.mem_map.mp member
    exact ValidatedRoute.exact_uuid formats

def plainFormats : Formats Nat where
  uuid text := text.length == 36
  email text := text.contains 64
  url text := (units "https://").isPrefixOf text
  upperCase text := text.map fun unit => if isLower unit then unit - 32 else unit
  lowerCase text := text.map fun unit => if isUpper unit then unit + 32 else unit
  trim text := ((text.dropWhile (· == 32)).reverse.dropWhile (· == 32)).reverse
  finite _ := true
  integer _ := true
  positive value := 0 < value
  atLeast bound value := bound ≤ value
  atMost bound value := value ≤ bound

def acmeId : Text := units "0b6f0a52-6b1c-4b0e-9d52-0c5a3b9f1d10"

def agentRoleId : Text := units "7c1d8f3e-2a44-4c57-8e1b-5f6a7b8c9d0e"

def newName : Request Nat where
  body := some (.obj [(units "name", .str (units "Acme"))])
  params := .obj [(units "orgId", .str acmeId)]

/-- Of an organisation that is renamed, the handler has the identifier in the URL. -/
theorem renamed_organization_kept :
    ∃ checked, validate (ValidatedRoute.updateOrganization.schema plainFormats) newName =
        .ok checked ∧
      ∀ name ∈ ValidatedRoute.updateOrganization.reads,
        checked.params.property name = newName.params.property name := by
  have accepted : (validate (ValidatedRoute.updateOrganization.schema plainFormats)
      newName).toOption.isSome = true := by decide +kernel
  cases valid : validate (ValidatedRoute.updateOrganization.schema plainFormats) newName with
  | error failure => simp [valid, Except.toOption] at accepted
  | ok checked =>
    refine ⟨checked, rfl, ?_⟩
    exact (params_kept_iff plainFormats .updateOrganization
      [units "api", units "organizations", acmeId] [(units "orgId", .str acmeId)] newName checked
      rfl rfl valid).mpr (by decide)

/-- `DELETE /api/organizations/:orgId/roles/:roleId` -/
def dismissing : Request Nat where
  params := .obj [(units "orgId", .str acmeId), (units "roleId", .str agentRoleId)]

/-- The request is valid, and no organisation is left in it for the handler. -/
theorem role_without_organization :
    ∃ checked, validate (ValidatedRoute.deleteRole.schema plainFormats) dismissing = .ok checked ∧
      checked.params.property (units "orgId") = none ∧
      dismissing.params.property (units "orgId") = some (.str acmeId) ∧
      units "orgId" ∈ ValidatedRoute.deleteRole.reads := by
  have lost : ((validate (ValidatedRoute.deleteRole.schema plainFormats) dismissing).toOption.all
      fun checked => (checked.params.property (units "orgId")).isNone) = true := by decide +kernel
  have accepted : (validate (ValidatedRoute.deleteRole.schema plainFormats)
      dismissing).toOption.isSome = true := by decide +kernel
  cases valid : validate (ValidatedRoute.deleteRole.schema plainFormats) dismissing with
  | error failure => simp [valid, Except.toOption] at accepted
  | ok checked =>
    rw [valid] at lost
    exact ⟨checked, rfl, Option.isNone_iff_eq_none.mp lost, rfl, by decide⟩

end HelpForge.Http
