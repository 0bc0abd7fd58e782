import HelpForge.Lib.Json
import HelpForge.Lib.Whitespace

set_option autoImplicit false

/-!
# From a document to its text

Strings are code units. The letters of the tree may be any that stand for code units.
-/

namespace HelpForge.Scraper

open Lib

/-- Letters that stand for code units; `written` is one that the program writes itself. -/
structure Letters (α : Type) where
  unit : α → UInt16
  written : UInt16 → α
  written_unit : ∀ code, unit (written code) = code

def codeUnits : Letters UInt16 := ⟨id, id, fun _ => rfl⟩

/-- The nodes at one place of a document. A node stands before those that follow it. -/
inductive Nodes (α : Type) where
  | done
  | text (content : List α) (next : Nodes α)
  | element (tag : String) (attributes : List (String × String)) (children next : Nodes α)

structure Element (α : Type) where
  tag : String
  attributes : List (String × String)
  children : Nodes α

namespace Nodes

variable {α β : Type}

def textContent : Nodes α → List α
  -- The text of all nodes, at any depth.
  | done => []
  | text content next => content ++ next.textContent
  | element _ _ children next => children.textContent ++ next.textContent

def elements : Nodes α → List (Element α)
  -- Every element, before those within it.
  | done => []
  | text _ next => next.elements
  | element tag attributes children next =>
    ⟨tag, attributes, children⟩ :: (children.elements ++ next.elements)

end Nodes

inductive Selector where
  | tag (name : String)
  | className (name : String)
  | ident (name : String)
  | attribute (name value : String)
  | contains (name part : String)
  | tagWith (tag name value : String)
  deriving DecidableEq, Repr

def classNames (value : String) : List (List Char) :=
  Whitespace.words (fun char => "\t\n\x0c\r ".toList.contains char) value.toList

def Selector.selects (tag : String) (attributes : List (String × String)) : Selector → Bool
  | .tag name => tag == name
  | .className name => (attributes.lookup "class").any fun value =>
      (classNames value).contains name.toList
  | .ident name => attributes.lookup "id" == some name
  | .attribute name value => attributes.lookup name == some value
  | .contains name part => (attributes.lookup name).any fun value =>
      decide (part.toList <:+: value.toList)
  | .tagWith name attr value => tag == name && attributes.lookup attr == some value

section Nodes

variable {α : Type}

def Nodes.select (selectors : List Selector) (nodes : Nodes α) : List (Element α) :=
  nodes.elements.filter fun element =>
    selectors.any (Selector.selects element.tag element.attributes)

def Nodes.remove (selectors : List Selector) : Nodes α → Nodes α
  | .done => .done
  | .text content next => .text content (next.remove selectors)
  | .element tag attributes children next =>
    if selectors.any (Selector.selects tag attributes) then next.remove selectors
    else .element tag attributes (children.remove selectors) (next.remove selectors)

end Nodes

def noiseSelectors : List Selector :=
  ["script", "style", "noscript", "svg", "iframe", "object", "embed", "canvas", "template"].map
      .tag ++
    [.tagWith "link" "rel" "stylesheet"] ++ ["nav", "header", "footer", "aside"].map .tag ++
    ["navigation", "banner", "contentinfo", "complementary"].map (.attribute "role") ++
    ["nav", "navbar", "navigation", "menu", "mega-menu", "sidebar", "side-bar", "side-nav",
      "header", "footer", "site-header", "site-footer", "page-header", "page-footer", "ad", "ads",
      "advert", "advertisement", "ad-banner", "ad-slot"].map .className ++
    [.contains "class" "adsbygoogle"] ++
    ["cookie-banner", "cookie-notice", "cookie-consent", "cookie-bar", "cookie-popup"].map
      .className ++
    ["cookie-banner", "cookieConsent", "cookie-notice", "gdpr"].map .ident ++
    ["modal", "overlay", "popup", "lightbox"].map .className ++
    [.attribute "aria-modal" "true"] ++
    ["skip-link", "sr-only", "visually-hidden", "screen-reader-text", "social-share",
      "share-buttons", "social-links"].map .className ++
    ["nav", "navbar", "navigation", "header", "footer", "sidebar", "menu", "cookie-banner"].map
      .ident

def contentSelectors : List Selector :=
  [.tag "main", .attribute "role" "main", .tag "article", .className "main-content",
    .className "page-content", .className "content-area", .className "entry-content",
    .className "post-content", .className "article-content", .className "article-body",
    .ident "content", .ident "main-content", .ident "main", .ident "page-content"]

def blockTags : List String := ["p", "li", "td", "th", "dt", "dd", "blockquote", "pre", "code"]

def maxBodyChars : Nat := 100000

/-- What `\s` matches, and `trim` takes away. -/
def isSpaceUnit (code : UInt16) : Bool :=
  (9 ≤ code && code ≤ 13) || code == 32 || code == 0xa0 || code == 0x1680 ||
    (0x2000 ≤ code && code ≤ 0x200a) || code == 0x2028 || code == 0x2029 || code == 0x202f ||
    code == 0x205f || code == 0x3000 || code == 0xfeff

section Text

variable {α : Type} (letters : Letters α)

def space (letter : α) : Bool := isSpaceUnit (letters.unit letter)

def write (text : String) : List α := (Json.units text).map letters.written

/-- `replace(/\n{3,}/g, "\n\n")`, where so many line feeds have been read. -/
def squeeze : Nat → List α → List α
  | read, [] => lineFeeds read
  | read, letter :: rest =>
    if letters.unit letter = 10 then squeeze (read + 1) rest
    else lineFeeds read ++ letter :: squeeze 0 rest
where
  lineFeeds (read : Nat) : List α := List.replicate (min read 2) (letters.written 10)

def cleanText (text : List α) : List α :=
  Whitespace.trim (space letters)
    (squeeze letters 0 (Whitespace.collapse (space letters) (letters.written 32) text))

def paragraphs (content : Nodes α) : List (List α) :=
  -- The paragraph-level blocks of the content, with what there is of each.
  ((content.select (blockTags.map .tag)).map fun block =>
    cleanText letters block.children.textContent).filter fun text => 20 ≤ text.length

def limited (body : List α) : List α :=
  if maxBodyChars < body.length then
    body.take maxBodyChars ++ write letters "\n…[content truncated]"
  else body

def bodyOf (content : Nodes α) : List α :=
  let blocks := paragraphs letters content
  limited letters
    (if blocks = [] then cleanText letters content.textContent
    else (write letters "\n\n").intercalate blocks)

def candidate (document : Nodes α) (selector : Selector) : Option (Nodes α) :=
  -- The first element that is selected, if it has something to say.
  match document.select [selector] with
  | [] => none
  | element :: _ =>
    if 200 < (cleanText letters element.children.textContent).length then some element.children
    else none

def selectContent (document : Nodes α) : Option (Nodes α) :=
  contentSelectors.findSome? (candidate letters document)

-- A document has one `body` at most.
def contentOf (document : Nodes α) : Nodes α :=
  match selectContent letters document with
  | some content => content
  | none =>
    match document.select [.tag "body"] with
    | [] => .done
    | body :: _ => body.children

end Text

structure MetaTags where
  description : Option (List UInt16) := none
  keywords : Option (List UInt16) := none
  author : Option (List UInt16) := none
  og_image : Option (List UInt16) := none
  deriving DecidableEq, Repr

structure ParsedHtml where
  title : List UInt16
  headings : List (List UInt16)
  body : List UInt16
  metadata : MetaTags
  wordCount : Nat
  charCount : Nat
  deriving DecidableEq, Repr

section Page

variable (document : Nodes UInt16)

def firstText (selectors : List Selector) : List UInt16 :=
  ((document.select selectors).head?.map fun element => element.children.textContent).getD []

def metaContent (name value : String) : Option (List UInt16) :=
  (document.select [.tagWith "meta" name value]).head?.bind fun element =>
    (element.attributes.lookup "content").map Json.units

def orElse (first : Option (List UInt16)) (other : Option (List UInt16)) : Option (List UInt16) :=
  -- A missing or empty text gives way to the next one.
  match first with
  | none | some [] => other
  | some text => some text

def titleOf : List UInt16 :=
  (cleanText codeUnits
    ((orElse (some (firstText document [.tag "title"]))
      (orElse (metaContent document "property" "og:title")
        (orElse (some (firstText document [.tag "h1"])) (some [])))).getD [])).take 200

def extractMeta (name : String) : Option (List UInt16) :=
  orElse (metaContent document "name" name)
    (orElse (metaContent document "property" ("og:" ++ name))
      (orElse (metaContent document "property" ("twitter:" ++ name)) none))

def metadataOf : MetaTags where
  description := (extractMeta document "description").map (List.take 500)
  keywords := (extractMeta document "keywords").map (List.take 200)
  author := (extractMeta document "author").map (List.take 100)
  og_image := metaContent document "property" "og:image"

def headingsOf : List (List UInt16) :=
  ((document.select (["h1", "h2", "h3", "h4"].map .tag)).map fun heading =>
    (cleanText codeUnits heading.children.textContent).take 300).foldl
      (fun seen text => if text = [] ∨ text ∈ seen then seen else seen ++ [text]) []

end Page

def parseHtml (html : Nodes UInt16) : ParsedHtml :=
  let document := html.remove noiseSelectors
  let body := bodyOf codeUnits (contentOf codeUnits document)
  { title := titleOf document
    headings := headingsOf document
    body
    metadata := metadataOf document
    wordCount := (Whitespace.words isSpaceUnit body).length
    charCount := body.length }

end HelpForge.Scraper
