import HelpForge.Chatbot.Text
import HelpForge.Chatbot.Value
import HelpForge.Lib.Program

set_option autoImplicit false

/-!
# Authentication of internal calls

The hash functions and `ipaddress` are parameters. Time is in microseconds.
-/

namespace HelpForge.Chatbot

open Lib

inductive Exception where
  | httpException (status_code : Nat) (detail : String)
  | typeError
  | valueError
  | overflowError
  | redisError
  deriving DecidableEq, Repr

def forbidden : Exception := .httpException 403 "Forbidden"

/-- A request as the application sees it; the optional fields are headers that may be
absent, and the address of the connection. -/
structure Request where
  method : String
  path : String
  x_service_id : String := ""
  x_internal_token : String := ""
  x_forwarded_for : Option String := none
  x_timestamp : Option String := none
  x_signature : Option String := none
  client : Option String := none
  body : List UInt8 := []
  deriving DecidableEq, Repr

structure SecuritySettings where
  internal_service_secrets : String := ""
  internal_service_token : String := "change-me-in-production"
  internal_allowed_ips : String := ""
  internal_hmac_enabled : Bool := true
  internal_timestamp_tolerance_seconds : Nat := 30

def HexText (text : String) : Prop :=
  text ≠ "" ∧ ∀ char ∈ text.toList, char.isDigit = true ∨ ('a' ≤ char ∧ char ≤ 'f')

instance (text : String) : Decidable (HexText text) :=
  decidable_of_iff
    (text ≠ "" ∧ text.toList.all (fun char => char.isDigit || ('a' ≤ char && char ≤ 'f')) = true)
    (by simp [HexText])

/-- `hashlib.sha256(data).hexdigest()`, and `hexdigest` of the keyed hash of two encoded
strings. -/
structure HashLibrary where
  sha256 : List UInt8 → String
  hmac : String → String → String
  sha256_hex : ∀ data, HexText (sha256 data)
  hmac_hex : ∀ key message, HexText (hmac key message)

/-- `ip_address`, `ip_network(…, strict=False)` and `in` of a network; `none` stands for
`ValueError`. -/
structure IpLibrary (Address Network : Type) where
  ip_address : String → Option Address
  ip_network : String → Option Network
  contains : Network → Address → Bool

/-- The clock in microseconds, and until which millisecond each nonce is kept. -/
structure AuthState where
  now : Nat := 0
  nonces : String → Option Nat := fun _ => none
  redisUp : Bool := true

abbrev AuthCall (α : Type) := Program AuthState Exception α

def getRegistry (settings : SecuritySettings) : Dict String :=
  let raw := stripped settings.internal_service_secrets
  if raw = "" then []
  else
    (splitCommas raw).foldl
      (fun registry entry =>
        let (service_id, secret) := partitionColon (stripped entry)
        if service_id ≠ "" ∧ secret ≠ "" then Dict.put registry service_id secret else registry)
      []

def resolveSecret (settings : SecuritySettings) (service_id : String) : Option String :=
  let registry := getRegistry settings
  if registry ≠ [] then registry.lookup service_id else some settings.internal_service_token

def compareDigest (first second : String) : Except Exception Bool :=
  if isAscii first && isAscii second then .ok (first == second) else .error .typeError

def checkToken (settings : SecuritySettings) (service_id token : String) :
    Except Exception (Bool × Option String) :=
  match resolveSecret settings service_id with
  | none => .ok (false, none)
  | some secret => (compareDigest token secret).map fun same => (same, some secret)

section Address

variable {Address Network : Type}

def getAllowedNetworks (ipaddress : IpLibrary Address Network) (settings : SecuritySettings) :
    Option (List Network) :=
  let raw := stripped settings.internal_allowed_ips
  if raw = "" then some []
  else ((splitCommas raw).map stripped).filter (· ≠ "") |>.mapM ipaddress.ip_network

/-- `raw_ip`. -/
def callerIp (request : Request) : String :=
  let forwarded := request.x_forwarded_for.getD ""
  if forwarded ≠ "" then firstEntry forwarded else request.client.getD ""

def allowsAddress (ipaddress : IpLibrary Address Network) (networks : List Network)
    (raw_ip : String) : Bool :=
  if networks.isEmpty then true
  else if raw_ip = "" then false
  else
    match ipaddress.ip_address raw_ip with
    | none => false
    | some address => networks.any (ipaddress.contains · address)

def checkIp (ipaddress : IpLibrary Address Network) (settings : SecuritySettings)
    (request : Request) : Except Exception Bool :=
  match getAllowedNetworks ipaddress settings with
  | none => .error .valueError
  | some networks => .ok (allowsAddress ipaddress networks (callerIp request))

end Address

def checkFreshness (settings : SecuritySettings) (now : Nat) (timestamp_ms : String) :
    Except Exception Bool :=
  match parseInt timestamp_ms with
  | none => .ok false
  | some timestamp =>
    if floatLimit ≤ timestamp.natAbs then .error .overflowError
    else
      let age := ((now : Int) - 1000 * timestamp).natAbs
      .ok (decide (age ≤ settings.internal_timestamp_tolerance_seconds * 1000000))

def payload (hashes : HashLibrary) (method path service_id timestamp_ms : String)
    (body : List UInt8) : String :=
  method.toUpper ++ "\n" ++ path ++ "\n" ++ service_id ++ "\n" ++ timestamp_ms ++ "\n" ++
    hashes.sha256 body

def nonceKey (service_id signature : String) : String :=
  "nonce:" ++ service_id ++ ":" ++ signature

def nonceTtlMs (settings : SecuritySettings) : Nat :=
  settings.internal_timestamp_tolerance_seconds * 2 * 1000

def AuthState.holds (state : AuthState) (key : String) : Bool :=
  -- A key is kept up to and including the millisecond of its expiry.
  match state.nonces key with
  | none => false
  | some keptUntil => state.now / 1000 ≤ keptUntil

/-- `redis.set(key, 1, nx=True, px=ttl)`. -/
def setNx (key : String) (ttlMs : Nat) (state : AuthState) :
    Except Exception (Bool × AuthState) :=
  if !state.redisUp then .error .redisError
  else if state.holds key then .ok (false, state)
  else
    .ok (true, { state with
      nonces := Function.update state.nonces key (some (state.now / 1000 + ttlMs)) })

def claimNonce (settings : SecuritySettings) (key : String) : AuthCall Bool :=
  -- A cache that cannot be reached does not reject.
  (Program.attempt (setNx key (nonceTtlMs settings))).recover fun _ => pure true

def verifySignature (settings : SecuritySettings) (hashes : HashLibrary) (request : Request)
    (service_id service_secret timestamp_ms signature : String) : AuthCall Bool := do
  let expected := hashes.hmac service_secret
    (payload hashes request.method request.path service_id timestamp_ms request.body)
  let same ← .done (compareDigest expected signature)
  if same then claimNonce settings (nonceKey service_id signature) else pure false

def verifyHmacAndNonce (settings : SecuritySettings) (hashes : HashLibrary) (request : Request)
    (service_id service_secret : String) : AuthCall Bool :=
  -- The body arrives after the clock has been read.
  if !settings.internal_hmac_enabled then pure true
  else
    let timestamp_ms := request.x_timestamp.getD ""
    let signature := request.x_signature.getD ""
    if timestamp_ms = "" ∨ signature = "" then pure false
    else do
      let now ← Program.reads fun state => state.now
      let fresh ← .done (checkFreshness settings now timestamp_ms)
      if fresh then
        verifySignature settings hashes request service_id service_secret timestamp_ms signature
      else pure false

def requireInternalAuth {Address Network : Type} (settings : SecuritySettings)
    (hashes : HashLibrary) (ipaddress : IpLibrary Address Network) (request : Request) :
    AuthCall Unit := do
  let (valid, service_secret) ← .done (checkToken settings request.x_service_id
    request.x_internal_token)
  Program.require valid forbidden
  let inside ← .done (checkIp ipaddress settings request)
  Program.require inside forbidden
  let verified ← verifyHmacAndNonce settings hashes request request.x_service_id
    (service_secret.getD "")
  Program.require verified forbidden

end HelpForge.Chatbot
