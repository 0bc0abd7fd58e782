import HelpForge.Scraper.Validator

set_option autoImplicit false

/-!
# Fetching a page

The hosts that it connects to are kept beside what it returns.
-/

namespace HelpForge.Scraper

structure Response where
  status : Nat
  statusText : String := ""
  contentType : Option String := none
  body : List (List UInt8) := []
  -- Why the body breaks off after these chunks.
  interrupted : Option String := none
  deriving DecidableEq, Repr

inductive Reply where
  | respond (response : Response)
  | redirect (location : String)
  | failed (message : String)
  deriving DecidableEq, Repr

structure Rendered where
  html : String
  byteLength : Nat
  deriving DecidableEq, Repr

structure Web where
  dns : Dns
  -- Where a `Location` leads from a URL; none if `fetch` does not go there.
  redirectTarget : Url → String → Option Url
  -- The answer to the first URL of the list, which the later ones have led to.
  reply : List Url → Reply
  -- The page as the browser renders it.
  puppeteerFetchPage : String → Except String Rendered

structure FetchedPage where
  html : String
  contentType : String
  byteLength : Nat
  deriving DecidableEq, Repr

def maxRedirects : Nat := 20

section Fetch

variable (web : Web)

inductive Hop where
  | unresolved
  | last (result : Except String Response)
  | next (url : Url)

def hop (earlier : List Url) (url : Url) : Hop :=
  if web.dns.addresses url.hostname = [] then .unresolved
  else
    match web.reply (url :: earlier) with
    | .failed message => .last (.error message)
    | .respond response => .last (.ok response)
    | .redirect location =>
      match web.redirectTarget url location with
      | none => .last (.error "fetch failed")
      | some next => .next next

def follow : Nat → List Url → Url → List Url × Except String Response
  -- The URLs that are connected to, and the last one's response.
  | 0, earlier, url =>
    match hop web earlier url with
    | .unresolved => ([], .error "fetch failed")
    | .last result => ([url], result)
    | .next _ => ([url], .error "fetch failed")
  | redirects + 1, earlier, url =>
    match hop web earlier url with
    | .unresolved => ([], .error "fetch failed")
    | .last result => ([url], result)
    | .next next =>
      let rest := follow redirects (url :: earlier) next
      (url :: rest.1, rest.2)

variable (maxPageBytes : Nat) (decode : List UInt8 → String)

def readBody : List (List UInt8) → List UInt8 → Except String (List UInt8)
  -- The chunks are put together as long as they fit.
  | [], read => .ok read
  | chunk :: chunks, read =>
    if maxPageBytes < read.length + chunk.length then
      .error s!"Page exceeds size limit of {maxPageBytes} bytes"
    else readBody chunks (read ++ chunk)

def readPage (url : String) (response : Response) : Except String FetchedPage := do
  if !(200 ≤ response.status && response.status ≤ 299) then
    throw s!"HTTP {response.status} {response.statusText} for {url}"
  let contentType := response.contentType.getD ""
  if !decide ("html".toList <:+: contentType.toList) then
    throw s!"Non-HTML content type \"{contentType}\" for {url}"
  let combined ← readBody maxPageBytes response.body []
  match response.interrupted with
  | some message => throw message
  | none => return { html := decode combined, contentType, byteLength := combined.length }

def fetchPage (parser : UrlParser) (url : String) : List Url × Except String FetchedPage :=
  match parser.parse url with
  | none => ([], .error s!"Failed to parse URL from {url}")
  | some parsed =>
    let fetched := follow web maxRedirects [] parsed
    (fetched.1, fetched.2 >>= readPage maxPageBytes decode url)

end Fetch

end HelpForge.Scraper
