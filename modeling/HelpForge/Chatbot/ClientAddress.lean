import HelpForge.Chatbot.InternalAuth
import Mathlib.Data.List.TakeWhile

set_option autoImplicit false

namespace HelpForge.Chatbot

/-- `_get_client_ip` of the widget routes. -/
def getClientIp (request : Request) : String :=
  let xff := request.x_forwarded_for.getD ""
  if xff ≠ "" then firstEntry xff else request.client.getD "unknown"

structure PeerAddress where
  text : String
  nonempty : text ≠ ""
  single : ',' ∉ text.toList
  solid : ∀ char ∈ text.toList, isSpace char = false

inductive Deployment where
  | direct
  | proxied (proxy : String)
  deriving DecidableEq, Repr

/-- The request that arrives when a peer sends it with this text, or none, in
`X-Forwarded-For`. -/
def Deployment.deliver (deployment : Deployment) (peer : PeerAddress) (sent : Option String)
    (request : Request) : Request :=
  match deployment with
  | .direct => { request with client := some peer.text, x_forwarded_for := sent }
  | .proxied proxy =>
    { request with
      client := some proxy
      x_forwarded_for :=
        match sent with
        | none => some peer.text
        | some text => some (text ++ ", " ++ peer.text) }

def Honest (deployment : Deployment) (peer : PeerAddress) (sent : Option String) : Prop :=
  -- The peer sends no header (an empty one counts as none without a proxy), or one that begins with
  -- its own address.
  sent = none ∨ (deployment = .direct ∧ sent = some "") ∨
    ∃ text, sent = some text ∧ firstEntry text = peer.text

theorem takeWhile_cut (chars rest : List Char) :
    (chars ++ ',' :: rest).takeWhile (· != ',') = chars.takeWhile (· != ',') := by
  induction chars with
  | nil => rfl
  | cons char chars ih =>
    by_cases comma : char = ','
    · subst comma
      rfl
    · simp [comma, ih]

theorem firstEntry_forwarded (text peer : String) :
    firstEntry (text ++ ", " ++ peer) = firstEntry text := by
  have separator : ", ".toList = [',', ' '] := rfl
  unfold firstEntry
  rw [String.toList_append, String.toList_append, separator, List.append_assoc, List.cons_append,
    takeWhile_cut]

variable (peer : PeerAddress)

theorem firstEntry_peer : firstEntry peer.text = peer.text := by
  have whole : peer.text.toList.takeWhile (· != ',') = peer.text.toList := by
    rw [List.takeWhile_eq_self_iff]
    intro char member
    have other : char ≠ ',' := fun comma => peer.single (comma ▸ member)
    simpa using other
  unfold firstEntry
  rw [whole, strip_eq_self _ peer.solid, String.ofList_toList]

theorem getClientIp_eq (request : Request) (address : String)
    (connected : request.client = some address) : getClientIp request = callerIp request := by
  simp [getClientIp, callerIp, connected]

theorem deliver_client (deployment : Deployment) (peer : PeerAddress) (sent : Option String)
    (request : Request) : ∃ address, (deployment.deliver peer sent request).client = some address := by
  cases deployment with
  | direct => exact ⟨_, rfl⟩
  | proxied proxy => exact ⟨_, rfl⟩

theorem callerIp_direct (sent : Option String) (request : Request) :
    callerIp (Deployment.direct.deliver peer sent request) = peer.text ↔
      Honest .direct peer sent := by
  cases sent with
  | none => exact iff_of_true rfl (.inl rfl)
  | some text =>
    by_cases blank : text = ""
    · subst blank
      exact iff_of_true rfl (.inr (.inl ⟨rfl, rfl⟩))
    · simp [callerIp, Deployment.deliver, Honest, blank]

theorem callerIp_proxied (proxy : String) (peer : PeerAddress) (sent : Option String)
    (request : Request) :
    callerIp ((Deployment.proxied proxy).deliver peer sent request) = peer.text ↔
      Honest (.proxied proxy) peer sent := by
  cases sent with
  | none =>
    have first : callerIp ((Deployment.proxied proxy).deliver peer none request) = peer.text := by
      simp [callerIp, Deployment.deliver, peer.nonempty, firstEntry_peer]
    exact iff_of_true first (.inl rfl)
  | some text =>
    have written : text ++ ", " ++ peer.text ≠ "" := by
      intro empty
      have chars := congrArg String.toList empty
      simp at chars
    have first : callerIp ((Deployment.proxied proxy).deliver peer (some text) request) =
        firstEntry text := by
      have entry := firstEntry_forwarded text peer.text
      exact (if_pos written).trans entry
    rw [first]
    simp [Honest]

/-- The addresses that the allowlist judges and that the rate limiter keys are the peer's
own exactly when the peer does not write another one, and then the peer's own address
decides about the allowlist. -/
theorem address_is_peer_iff {Address Network : Type} (ipaddress : IpLibrary Address Network)
    (settings : SecuritySettings) (deployment : Deployment) (peer : PeerAddress)
    (sent : Option String) (request : Request) :
    (callerIp (deployment.deliver peer sent request) = peer.text ↔
        Honest deployment peer sent) ∧
      (getClientIp (deployment.deliver peer sent request) = peer.text ↔
        Honest deployment peer sent) ∧
      (Honest deployment peer sent →
        checkIp ipaddress settings (deployment.deliver peer sent request) =
          match getAllowedNetworks ipaddress settings with
          | none => .error .valueError
          | some networks => .ok (allowsAddress ipaddress networks peer.text)) := by
  have judged : callerIp (deployment.deliver peer sent request) = peer.text ↔
      Honest deployment peer sent := by
    cases deployment with
    | direct => exact callerIp_direct peer sent request
    | proxied proxy => exact callerIp_proxied proxy peer sent request
  obtain ⟨address, connected⟩ := deliver_client deployment peer sent request
  refine ⟨judged, ?_, ?_⟩
  · rw [getClientIp_eq _ address connected]
    exact judged
  · intro honest
    have caller := judged.mpr honest
    unfold checkIp
    cases getAllowedNetworks ipaddress settings with
    | none => rfl
    | some networks =>
      have allowed := congrArg (allowsAddress ipaddress networks) caller
      exact congrArg Except.ok allowed

/-- Addresses compared as texts, which is enough for single addresses. -/
def plainAddresses : IpLibrary String String where
  ip_address := some
  ip_network := some
  contains network address := network == address

def outsider : PeerAddress where
  text := "203.0.113.9"
  nonempty := by decide
  single := by decide
  solid := by
    have plain : "203.0.113.9".toList.all (fun char => !isSpace char) = true := by decide
    simpa using plain

/-- An outsider passes for the only address of the allowlist, and for as many clients of
the widget as it likes. -/
theorem outsider_let_in :
    allowsAddress plainAddresses ["10.0.0.1"] outsider.text = false ∧
      checkIp plainAddresses { internal_allowed_ips := "10.0.0.1" }
        (Deployment.direct.deliver outsider (some "10.0.0.1")
          { method := "POST", path := "/internal/embed" }) = .ok true ∧
      getClientIp ((Deployment.proxied "10.0.0.2").deliver outsider (some "10.0.0.1")
        { method := "POST", path := "/widget/chat" }) = "10.0.0.1" := by
  refine ⟨?_, ?_, ?_⟩ <;> rfl

end HelpForge.Chatbot
