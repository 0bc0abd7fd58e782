import HelpForge.Lib.Bitwise
import HelpForge.Lib.Json

set_option autoImplicit false

/-!
# What the scraper may fetch

The parser of URLs is a parameter. Hosts are ASCII once they are parsed.
-/

namespace HelpForge.Scraper

open Lib

def maxUrlLength : Nat := 2048

structure Url where
  href : String
  protocol : String
  username : String := ""
  password : String := ""
  hostname : String
  deriving DecidableEq, Repr

/-- A host that is an IPv6 address comes in brackets, and no other host does. -/
structure UrlParser where
  parse : String → Option Url
  bracketed : ∀ text url, parse text = some url → url.hostname.toList.head? = some '[' →
    ':' ∈ (url.hostname.toList.drop 1).dropLast

/-- The records of each host, or why there are none. -/
structure Dns where
  a : String → Except String (List String)
  aaaa : String → List String

-- `Number` also reads other spellings, in which no address is written.
def number (part : List Char) : Option Nat :=
  if part.all Char.isDigit then some (Nat.ofDigitChars 10 part 0) else none

def joinOctets (a b c d : Int) : Int :=
  Bitwise.shiftRightUnsigned
    (Bitwise.or (Bitwise.or (Bitwise.or (Bitwise.shiftLeft a 24) (Bitwise.shiftLeft b 16))
      (Bitwise.shiftLeft c 8)) d) 0

def parseIPv4 (addr : String) : Option Int :=
  match (addr.toList.splitOn '.').mapM number with
  | some [a, b, c, d] =>
    if [a, b, c, d].all (· ≤ 255) then some (joinOctets a b c d) else none
  | _ => none

structure AddressRange where
  net : Int
  mask : Int

-- The network keeps the sign of `&`, and so does the address that it is compared with.
def v4range (a b c d prefixLen : Nat) : AddressRange :=
  let mask :=
    if prefixLen = 0 then 0
    else Bitwise.shiftRightUnsigned (Bitwise.shiftLeft 0xffffffff (32 - prefixLen)) 0
  { net := Bitwise.and (joinOctets a b c d) mask, mask }

def privateV4Ranges : List AddressRange :=
  [v4range 10 0 0 0 8, v4range 172 16 0 0 12, v4range 192 168 0 0 16, v4range 127 0 0 0 8,
    v4range 169 254 0 0 16, v4range 0 0 0 0 8, v4range 100 64 0 0 10, v4range 192 0 2 0 24,
    v4range 198 51 100 0 24, v4range 203 0 113 0 24, v4range 240 0 0 0 4,
    v4range 255 255 255 255 32]

def isPrivateIPv4 (addr : String) : Bool :=
  match parseIPv4 addr with
  | none => false
  | some ip => privateV4Ranges.any fun range => Bitwise.and ip range.mask == range.net

def isDotted (host : List Char) : Bool :=
  -- Four numbers with dots between them.
  let parts := host.splitOn '.'
  parts.length == 4 && parts.all fun part => !part.isEmpty && part.all Char.isDigit

def lowerCase (text : String) : List Char := text.toList.map Char.toLower

def isPrivateIPv6 (addr : String) : Bool :=
  let text := lowerCase addr
  let mapped := "::ffff:".toList
  let lower := if mapped.isPrefixOf text then text.drop mapped.length else text
  if isDotted lower then isPrivateIPv4 (String.ofList lower)
  else
    lower == "::1".toList || "fc".toList.isPrefixOf lower || "fd".toList.isPrefixOf lower ||
      "fe80".toList.isPrefixOf lower || "fe9".toList.isPrefixOf lower ||
      "fea".toList.isPrefixOf lower || "feb".toList.isPrefixOf lower || lower == "::".toList

def isPrivateIP (addr : String) : Bool :=
  if ':' ∈ addr.toList then isPrivateIPv6 addr else isPrivateIPv4 addr

structure ScraperValidationError where
  message : String
  deriving DecidableEq, Repr

def blockedDomains : List String :=
  [".local", ".internal", ".localdomain", ".example", ".test", ".invalid"]

-- A dot of the pattern matches no line terminator.
def isBlockedHostname (hostname : List Char) : Bool :=
  hostname == "localhost".toList ||
    blockedDomains.any fun domain =>
      domain.toList.isSuffixOf hostname &&
        (hostname.take (hostname.length - domain.length)).all
          fun char => !("\n\r\u2028\u2029".toList.contains char)

def unbracketed (hostname : String) : String :=
  String.ofList (hostname.toList.drop 1).dropLast

section Validation

variable (parser : UrlParser) (dns : Dns)

def refuse {α : Type} (message : String) : Except ScraperValidationError α := .error ⟨message⟩

def validateRecords (hostname : String) : Except ScraperValidationError Unit :=
  -- DNS is asked for the A records only.
  match dns.a hostname with
  | .error message => refuse s!"Cannot resolve hostname \"{hostname}\": {message}"
  | .ok records =>
    if records.any isPrivateIP then
      refuse s!"Hostname \"{hostname}\" resolves to a private/reserved IP address"
    else .ok ()

def validateHost (url : Url) : Except ScraperValidationError Unit :=
  let hostname := String.ofList (lowerCase url.hostname)
  if isBlockedHostname hostname.toList then refuse s!"Hostname \"{hostname}\" is blocked"
  else if isDotted hostname.toList then
    if isPrivateIPv4 hostname then
      refuse s!"IP address \"{hostname}\" is in a private/reserved range"
    else .ok ()
  else if url.hostname.toList.head? = some '[' then
    let v6 := unbracketed url.hostname
    if isPrivateIPv6 v6 then refuse s!"IPv6 address \"{v6}\" is in a private/reserved range"
    else .ok ()
  else validateRecords dns hostname

def validateUrl (url : String) : Except ScraperValidationError Url :=
  if url = "" then refuse "URL must be a non-empty string"
  else if maxUrlLength < (Json.units url).length then
    refuse s!"URL exceeds maximum length of {maxUrlLength} characters"
  else
    match parser.parse url with
    | none => refuse s!"Malformed URL: {url}"
    | some parsed =>
      if parsed.protocol ∉ ["http:", "https:"] then
        refuse
          s!"Scheme \"{parsed.protocol}\" is not allowed. Only http and https are permitted."
      else if parsed.username ≠ "" ∨ parsed.password ≠ "" then
        refuse "URLs with credentials (user:pass@host) are not allowed"
      else (validateHost dns parsed).map fun _ => parsed

end Validation

def Dns.addresses (dns : Dns) (hostname : String) : List String :=
  -- The addresses that a connection to the host may go to.
  let lower := String.ofList (lowerCase hostname)
  if isDotted lower.toList then [lower]
  else if hostname.toList.head? = some '[' then [unbracketed hostname]
  else (dns.a lower).toOption.getD [] ++ dns.aaaa lower

end HelpForge.Scraper
