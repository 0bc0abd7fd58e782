import HelpForge.Chatbot.InternalAuth
import HelpForge.Lib.Separated
import Mathlib.Data.List.Basic

set_option autoImplicit false

namespace HelpForge.Chatbot

open Lib

structure BridgeConfig where
  internal_token : String := "change-me-shared-secret"
  hmac_enabled : Bool := true

def serviceId : String := "chatbot-bridge-worker"

structure Signature where
  timestampMs : String
  signature : String

/-- `dateNow` is what `Date.now()` returns. -/
def signRequest (hashes : HashLibrary) (config : BridgeConfig) (dateNow : Nat)
    (method path bodyStr : String) : Signature :=
  let timestampMs := toString dateNow
  let bodyHash := hashes.sha256 bodyStr.toUTF8.toList
  let payload := method.toUpper ++ "\n" ++ path ++ "\n" ++ serviceId ++ "\n" ++ timestampMs ++
    "\n" ++ bodyHash
  { timestampMs, signature := hashes.hmac config.internal_token payload }

/-- The request that `callChatbot` sends, as it arrives. -/
def callChatbot (hashes : HashLibrary) (config : BridgeConfig) (dateNow : Nat)
    (path bodyStr : String) : Request :=
  let request : Request :=
    { method := "POST"
      path
      x_service_id := serviceId
      x_internal_token := config.internal_token
      body := bodyStr.toUTF8.toList }
  if config.hmac_enabled then
    let signed := signRequest hashes config dateNow "POST" path bodyStr
    { request with x_timestamp := some signed.timestampMs, x_signature := some signed.signature }
  else request

variable (text : String)

theorem HexText.isAscii (hex : HexText text) : isAscii text = true := by
  unfold Chatbot.isAscii
  rw [List.all_eq_true]
  intro char member
  have range := hex.2 char member
  simp only [Char.isDigit, Bool.and_eq_true, decide_eq_true_eq, ge_iff_le, Char.le_def,
    UInt32.le_iff_toNat_le] at range
  simp only [decide_eq_true_eq]
  change (48 ≤ char.val.toNat ∧ char.val.toNat ≤ 57) ∨
    (97 ≤ char.val.toNat ∧ char.val.toNat ≤ 102) at range
  change char.val.toNat < 128
  omega

theorem HexText.one_line (hex : HexText text) : '\n' ∉ text.toList := by
  intro member
  rcases hex.2 '\n' member with digit | letter
  · exact absurd digit (by decide)
  · exact absurd letter (by decide)

theorem compareDigest_self (ascii : isAscii text = true) : compareDigest text text = .ok true := by
  simp [compareDigest, ascii]

theorem compareDigest_eq (first second : String)
    (same : compareDigest first second = .ok true) : first = second := by
  unfold compareDigest at same
  split_ifs at same
  simpa using same

variable (settings : SecuritySettings)

theorem claimNonce_unseen (key : String) (state : AuthState) (unseen : state.holds key = false) :
    ((claimNonce settings key).run state).1 = .ok true := by
  rw [claimNonce, Program.run_recover, Program.run_attempt]
  unfold setNx
  cases up : state.redisUp <;> simp [unseen]

theorem checkFreshness_within (now dateNow : Nat) (instant : dateNow ≤ 8640000000000000)
    (skew : ((now : Int) - 1000 * dateNow).natAbs ≤
      settings.internal_timestamp_tolerance_seconds * 1000000) :
    checkFreshness settings now (toString dateNow) = .ok true := by
  have digits : (Nat.toDigits 10 dateNow).length ≤ 16 :=
    (Nat.length_toDigits_le_iff (by decide) (by decide)).mpr (by omega)
  have parsed : parseInt (toString dateNow) = some (dateNow : Int) :=
    parseInt_toString dateNow (by omega)
  have limit : 10 ^ 16 ≤ floatLimit := by decide
  unfold checkFreshness
  rw [parsed]
  simp only [Int.natAbs_natCast]
  rw [if_neg (by omega), decide_eq_true skew]

variable (hashes : HashLibrary)

theorem verifySignature_signed (hashes : HashLibrary) (request : Request)
    (service_id service_secret timestamp_ms : String) :
    verifySignature settings hashes request service_id service_secret timestamp_ms
        (hashes.hmac service_secret
          (payload hashes request.method request.path service_id timestamp_ms request.body)) =
      claimNonce settings (nonceKey service_id
        (hashes.hmac service_secret
          (payload hashes request.method request.path service_id timestamp_ms request.body))) := by
  unfold verifySignature
  dsimp only
  rw [compareDigest_self _ (hashes.hmac_hex _ _).isAscii]
  rfl

theorem callChatbot_accepted (config : BridgeConfig) (path bodyStr : String) (dateNow : Nat)
    (state : AuthState) (shared : resolveSecret settings serviceId = some config.internal_token)
    (ascii : isAscii config.internal_token = true)
    (signs : settings.internal_hmac_enabled = true → config.hmac_enabled = true)
    (instant : dateNow ≤ 8640000000000000)
    (skew : ((state.now : Int) - 1000 * dateNow).natAbs ≤
      settings.internal_timestamp_tolerance_seconds * 1000000)
    (unseen : state.holds (nonceKey serviceId
      (signRequest hashes config dateNow "POST" path bodyStr).signature) = false) :
    let request := callChatbot hashes config dateNow path bodyStr
    checkToken settings request.x_service_id request.x_internal_token =
        .ok (true, some config.internal_token) ∧
      ((verifyHmacAndNonce settings hashes request request.x_service_id
        config.internal_token).run state).1 = .ok true := by
  dsimp only
  have service : (callChatbot hashes config dateNow path bodyStr).x_service_id = serviceId := by
    unfold callChatbot
    split_ifs <;> rfl
  have token : (callChatbot hashes config dateNow path bodyStr).x_internal_token =
      config.internal_token := by
    unfold callChatbot
    split_ifs <;> rfl
  rw [service, token]
  constructor
  · rw [checkToken, shared]
    simp only [compareDigest_self _ ascii]
    rfl
  · unfold verifyHmacAndNonce
    cases enabled : settings.internal_hmac_enabled with
    | false => rfl
    | true =>
      have signed := signs enabled
      have present : (signRequest hashes config dateNow "POST" path bodyStr).signature ≠ "" :=
        (hashes.hmac_hex _ _).1
      have dated : toString dateNow ≠ "" := by
        intro empty
        have digits := congrArg String.toList empty
        rw [Nat.toString_eq_ofList_toDigits, String.toList_ofList] at digits
        exact Nat.toDigits_ne_nil digits
      simp only [callChatbot, signed, if_true, Bool.not_true, Bool.false_eq_true, if_false,
        Option.getD_some]
      rw [if_neg (by
        rintro (undated | unsigned)
        · exact dated undated
        · exact present unsigned)]
      rw [Program.run_bind]
      simp only [Program.run_reads, signRequest, checkFreshness_within settings state.now dateNow
        instant skew]
      let request : Request :=
        { method := "POST"
          path
          x_service_id := serviceId
          x_internal_token := config.internal_token
          x_timestamp := some (toString dateNow)
          x_signature := some (signRequest hashes config dateNow "POST" path bodyStr).signature
          body := bodyStr.toUTF8.toList }
      have claims := verifySignature_signed settings hashes request serviceId
        config.internal_token (toString dateNow)
      have accepted := claimNonce_unseen settings _ state unseen
      exact (congrArg (fun program => (Program.run program state).1) claims).trans accepted

def SingleLine (request : Request) : Prop :=
  '\n' ∉ request.method.toList ∧ '\n' ∉ request.x_service_id.toList ∧
    '\n' ∉ (request.x_timestamp.getD "").toList

theorem verifyHmacAndNonce_binds (request : Request) (service_id service_secret : String)
    (state final : AuthState) (enabled : settings.internal_hmac_enabled = true)
    (passed : (verifyHmacAndNonce settings hashes request service_id service_secret).run state =
      (.ok true, final)) :
    request.x_signature.getD "" = hashes.hmac service_secret
      (payload hashes request.method request.path service_id (request.x_timestamp.getD "")
        request.body) := by
  unfold verifyHmacAndNonce at passed
  rw [enabled] at passed
  simp only [Bool.not_true, Bool.false_eq_true, if_false] at passed
  split_ifs at passed with missing
  · cases passed
  · rw [Program.reads_bind_ok] at passed
    cases fresh : checkFreshness settings state.now (request.x_timestamp.getD "") with
    | error failure =>
      rw [fresh] at passed
      cases passed
    | ok fresh_ =>
      rw [fresh] at passed
      cases fresh_ with
      | false => cases passed
      | true =>
        change (verifySignature settings hashes request service_id service_secret _ _).run state = _
          at passed
        unfold verifySignature at passed
        dsimp only at passed
        cases same : compareDigest (hashes.hmac service_secret
            (payload hashes request.method request.path service_id (request.x_timestamp.getD "")
              request.body)) (request.x_signature.getD "") with
        | error failure =>
          rw [same] at passed
          cases passed
        | ok equal =>
          rw [same] at passed
          cases equal with
          | false => cases passed
          | true => exact (compareDigest_eq _ _ same).symm

theorem toUpper_ne_newline (char : Char) (other : char ≠ '\n') : char.toUpper ≠ '\n' := by
  unfold Char.toUpper
  split_ifs with lower
  · intro newline
    have code := congrArg Char.val newline
    simp only [UInt32.le_iff_toNat_le] at lower
    have shifted := congrArg UInt32.toNat code
    rw [UInt32.toNat_add] at shifted
    have small : ('a'.val).toNat = 97 := rfl
    have large : ('z'.val).toNat = 122 := rfl
    have offset : ('A'.val - 'a'.val).toNat = 4294967264 := rfl
    have feed : ('\n'.val).toNat = 10 := rfl
    omega
  · exact other

theorem toUpper_one_line (text : String) (line : '\n' ∉ text.toList) :
    '\n' ∉ text.toUpper.toList := by
  rw [String.toUpper, String.toList_map]
  intro member
  obtain ⟨char, there, upper⟩ := List.mem_map.mp member
  have other : char ≠ '\n' := fun same => line (same ▸ there)
  exact toUpper_ne_newline char other upper

theorem payload_injective (first second : Request) (injective : Function.Injective hashes.sha256)
    (line : SingleLine first) (line' : SingleLine second)
    (same : payload hashes first.method first.path first.x_service_id
        (first.x_timestamp.getD "") first.body =
      payload hashes second.method second.path second.x_service_id
        (second.x_timestamp.getD "") second.body) :
    first.method.toUpper = second.method.toUpper ∧ first.path = second.path ∧
      first.x_service_id = second.x_service_id ∧
      first.x_timestamp.getD "" = second.x_timestamp.getD "" ∧ first.body = second.body := by
  obtain ⟨method, service, stamp⟩ := line
  obtain ⟨method', service', stamp'⟩ := line'
  have chars := congrArg String.toList same
  have newline : "\n".toList = ['\n'] := rfl
  simp only [payload, String.toList_append, newline, List.append_assoc, List.cons_append,
    List.nil_append] at chars
  -- the method ends at the first newline
  obtain ⟨methods, chars⟩ := cut_at_first _ _ _ _ _ (toUpper_one_line _ method)
    (toUpper_one_line _ method') chars
  -- the path may contain newlines, but nothing after it does
  have four : ∀ path service stamp hash : List Char,
      path ++ '\n' :: (service ++ '\n' :: (stamp ++ '\n' :: hash)) =
        (path ++ '\n' :: (service ++ '\n' :: stamp)) ++ '\n' :: hash := by simp
  have three : ∀ path service stamp : List Char,
      path ++ '\n' :: (service ++ '\n' :: stamp) =
        (path ++ '\n' :: service) ++ '\n' :: stamp := by simp
  rw [four, four] at chars
  obtain ⟨chars, digests⟩ := cut_at_last _ _ _ _ _ (hashes.sha256_hex _).one_line
    (hashes.sha256_hex _).one_line chars
  rw [three, three] at chars
  obtain ⟨chars, stamps⟩ := cut_at_last _ _ _ _ _ stamp stamp' chars
  obtain ⟨paths, services⟩ := cut_at_last _ _ _ _ _ service service' chars
  exact ⟨String.toList_inj.mp methods, String.toList_inj.mp paths, String.toList_inj.mp services,
    String.toList_inj.mp stamps, injective (String.toList_inj.mp digests)⟩

/-- Signer and verifier agree, and one signature belongs to one request. -/
theorem signer_and_verifier_agree (settings : SecuritySettings) (hashes : HashLibrary)
    (enabled : settings.internal_hmac_enabled = true)
    (sha256_injective : Function.Injective hashes.sha256)
    (hmac_injective : ∀ key, Function.Injective (hashes.hmac key)) :
    (∀ (config : BridgeConfig) (path bodyStr : String) (dateNow : Nat) (state : AuthState),
      config.hmac_enabled = true →
      resolveSecret settings serviceId = some config.internal_token →
      isAscii config.internal_token = true →
      dateNow ≤ 8640000000000000 →
      ((state.now : Int) - 1000 * dateNow).natAbs ≤
        settings.internal_timestamp_tolerance_seconds * 1000000 →
      state.holds (nonceKey serviceId
        (signRequest hashes config dateNow "POST" path bodyStr).signature) = false →
      let request := callChatbot hashes config dateNow path bodyStr
      checkToken settings request.x_service_id request.x_internal_token =
          .ok (true, some config.internal_token) ∧
        ((verifyHmacAndNonce settings hashes request request.x_service_id
          config.internal_token).run state).1 = .ok true) ∧
      ∀ (service_secret : String) (first second : Request) (state state' : AuthState),
        SingleLine first → SingleLine second →
        first.x_signature.getD "" = second.x_signature.getD "" →
        ((verifyHmacAndNonce settings hashes first first.x_service_id service_secret).run
          state).1 = .ok true →
        ((verifyHmacAndNonce settings hashes second second.x_service_id service_secret).run
          state').1 = .ok true →
        first.method.toUpper = second.method.toUpper ∧ first.path = second.path ∧
          first.x_service_id = second.x_service_id ∧
          first.x_timestamp.getD "" = second.x_timestamp.getD "" ∧ first.body = second.body := by
  constructor
  · intro config path bodyStr dateNow state signs shared ascii instant skew unseen
    exact callChatbot_accepted settings hashes config path bodyStr dateNow state shared ascii
      (fun _ => signs) instant skew unseen
  · intro service_secret first second state state' line line' signature passed passed'
    have binds := verifyHmacAndNonce_binds settings hashes first _ service_secret state _ enabled
      (Prod.ext passed rfl)
    have binds' := verifyHmacAndNonce_binds settings hashes second _ service_secret state' _ enabled
      (Prod.ext passed' rfl)
    have digests := (binds.symm.trans signature).trans binds'
    exact payload_injective hashes first second sha256_injective line line'
      (hmac_injective service_secret digests)

def spell : List Nat → List Char
  | [] => []
  | code :: rest => List.replicate code '1' ++ '0' :: spell rest

theorem spell_injective : Function.Injective spell := by
  intro codes
  induction codes with
  | nil =>
    intro other same
    cases other with
    | nil => rfl
    | cons code rest => simp [spell] at same
  | cons code rest ih =>
    intro other same
    cases other with
    | nil => simp [spell] at same
    | cons code' rest' =>
      obtain ⟨ones, spelled⟩ := cut_at_first '0' _ _ _ _ (by simp) (by simp) same
      have codes := congrArg List.length ones
      rw [List.length_replicate, List.length_replicate] at codes
      rw [codes, ih spelled]

theorem spell_digits (codes : List Nat) : ∀ char ∈ spell codes, char.isDigit = true := by
  induction codes with
  | nil => nofun
  | cons code rest ih =>
    intro char member
    rcases List.mem_append.mp member with one | member
    · rw [List.eq_of_mem_replicate one]
      decide
    · rcases List.mem_cons.mp member with rfl | later
      · decide
      · exact ih char later

def digest {α : Type} [DecidableEq α] (codes : α → List Nat) (first : Char) (known : α)
    (value : String) (input : α) : String :=
  -- The known digest of one input; any other input is spelled out after a first letter that the
  -- known digest does not begin with.
  if input = known then value else String.ofList (first :: spell (codes input))

theorem digest_injective {α : Type} [DecidableEq α] (codes : α → List Nat) (first : Char)
    (known : α) (value : String) (injective : Function.Injective codes)
    (apart : value.toList.head? ≠ some first) :
    Function.Injective (digest codes first known value) := by
  have other : ∀ input, value ≠ String.ofList (first :: spell (codes input)) := by
    intro input same
    rw [same, String.toList_ofList] at apart
    exact apart rfl
  intro one two same
  unfold digest at same
  split_ifs at same with one_known two_known two_known
  · exact one_known.trans two_known.symm
  · exact absurd same (other two)
  · exact absurd same.symm (other one)
  · have chars := String.ofList_inj.mp same
    exact injective (spell_injective (List.cons.inj chars).2)

theorem digest_hex {α : Type} [DecidableEq α] (codes : α → List Nat) (first : Char)
    (known : α) (value : String) (input : α) (hex : HexText value)
    (letter : 'a' ≤ first ∧ first ≤ 'f') : HexText (digest codes first known value input) := by
  unfold digest
  split_ifs
  · exact hex
  · constructor
    · intro empty
      have chars := congrArg String.toList empty
      rw [String.toList_ofList] at chars
      cases chars
    · rw [String.toList_ofList]
      intro char member
      rcases List.mem_cons.mp member with rfl | spelled
      · exact .inr letter
      · exact .inl (spell_digits _ char spelled)

def knownHashes : HashLibrary where
  sha256 := digest (fun data => data.map UInt8.toNat) 'f' "{}".toUTF8.toList
    "44136fa355b3678a1146ad16f7e8649e94fb4fc21fe77e8310c060f61caaff8a"
  hmac key := digest (fun message => message.toList.map Char.toNat) 'f'
    ("POST\n/internal/embed\nchatbot-bridge-worker\n1000\n" ++
      "44136fa355b3678a1146ad16f7e8649e94fb4fc21fe77e8310c060f61caaff8a")
    "1e3e3c374198d6f7e8bb39cbf394f6cc876754977dc2f004c4a361b13bd2b11e"
  sha256_hex data := digest_hex _ _ _ _ data (by decide) (by decide)
  hmac_hex _ message := digest_hex _ _ _ _ message (by decide) (by decide)

theorem embed_request_accepted :
    checkToken {} serviceId "change-me-in-production" =
        .ok (true, some "change-me-in-production") ∧
      ((verifyHmacAndNonce {} knownHashes
        (callChatbot knownHashes { internal_token := "change-me-in-production" } 1000
          "/internal/embed" "{}") serviceId "change-me-in-production").run
        { now := 5000000 }).1 = .ok true := by
  have agree := signer_and_verifier_agree {} knownHashes rfl
    (digest_injective _ _ _ _ (List.map_injective_iff.mpr fun _ _ => UInt8.toNat_inj.mp) (by decide))
    (fun _ => digest_injective _ _ _ _
      ((List.map_injective_iff.mpr fun _ _ => Char.toNat_inj.mp).comp
        fun _ _ => String.toList_inj.mp) (by decide))
  exact agree.1 { internal_token := "change-me-in-production" } "/internal/embed" "{}" 1000
    { now := 5000000 } rfl rfl (by decide) (by decide) (by decide) rfl

end HelpForge.Chatbot
