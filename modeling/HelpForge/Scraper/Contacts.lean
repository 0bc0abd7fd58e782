import HelpForge.Lib.Separated
import HelpForge.Scraper.Effects

set_option autoImplicit false

namespace HelpForge.Scraper

open Lib Program

def Dns.Public (dns : Dns) (hostname : String) : Prop :=
  -- No address that a connection to the host may go to is private.
  ∀ addr ∈ dns.addresses hostname, isPrivateIP addr = false

instance (dns : Dns) (hostname : String) : Decidable (dns.Public hostname) :=
  inferInstanceAs (Decidable (∀ _ ∈ _, _))

def IsLiteral (hostname : String) : Prop :=
  -- The host is an address itself.
  isDotted (lowerCase hostname) = true ∨ hostname.toList.head? = some '['

def Dns.PublicAaaa (dns : Dns) (hostname : String) : Prop :=
  -- A host that is a name has no private AAAA record.
  ¬IsLiteral hostname →
    ∀ addr ∈ dns.aaaa (String.ofList (lowerCase hostname)), isPrivateIP addr = false

inductive Web.Leads (web : Web) (first : Url) : List Url → Prop where
  | first : web.Leads first [first]
  | hop {url next : Url} {earlier : List Url} :
    web.Leads first (url :: earlier) → hop web earlier url = .next next →
    web.Leads first (next :: url :: earlier)

/-- Every host that `fetch` is redirected to is public. -/
def Web.RedirectsPublic (web : Web) (first : Url) : Prop :=
  ∀ next earlier, web.Leads first (next :: earlier) → earlier ≠ [] →
    earlier.length ≤ maxRedirects → web.dns.Public next.hostname

section Follow

variable {web : Web} {first url : Url} {earlier : List Url}

theorem Web.Leads.hop_of {next : Url} {rest : List Url} (leads : web.Leads first (next :: rest))
    (through : (url :: earlier) <:+ rest) :
    ∃ hopped, Scraper.hop web earlier url = .next hopped ∧
      (hopped :: url :: earlier) <:+ next :: rest := by
  -- A chain that goes on from a URL goes on with the answer to it.
  generalize chain : next :: rest = path at leads
  induction leads generalizing next rest with
  | first =>
    cases chain
    simp at through
  | @hop last onward before leads hops ih =>
    cases chain
    rcases List.suffix_cons_iff.mp through with same | inside
    · cases same
      exact ⟨_, hops, List.suffix_rfl⟩
    · obtain ⟨hopped, replied, further⟩ := ih inside rfl
      exact ⟨hopped, replied, further.trans (List.suffix_cons ..)⟩

theorem mem_follow_self (redirects : Nat) (resolves : web.dns.addresses url.hostname ≠ []) :
    url ∈ (follow web redirects earlier url).1 := by
  cases hops : hop web earlier url with
  | last result => cases redirects <;> simp [follow, hops]
  | next next => cases redirects <;> simp [follow, hops]
  | unresolved =>
    unfold hop at hops
    rw [if_neg resolves] at hops
    cases replied : web.reply (url :: earlier) with
    | failed message => simp [replied] at hops
    | respond response => simp [replied] at hops
    | redirect location =>
      cases target : web.redirectTarget url location <;> simp [replied, target] at hops

theorem leads_of_mem_follow {met : Url} (redirects : Nat) {bound : Nat}
    (leads : web.Leads first (url :: earlier)) (left : earlier.length + redirects = bound)
    (connected : met ∈ (follow web redirects earlier url).1) :
    ∃ before, web.Leads first (met :: before) ∧ before.length ≤ bound := by
  -- What is connected to is reached by redirects.
  induction redirects generalizing url earlier with
  | zero =>
    have same : met = url := by
      cases hops : hop web earlier url with
      | unresolved => simp [follow, hops] at connected
      | last result => simpa [follow, hops] using connected
      | next next => simpa [follow, hops] using connected
    exact ⟨earlier, same ▸ leads, by omega⟩
  | succ redirects ih =>
    cases hops : hop web earlier url with
    | unresolved => simp [follow, hops] at connected
    | last result =>
      have same : met = url := by simpa [follow, hops] using connected
      exact ⟨earlier, same ▸ leads, by omega⟩
    | next next =>
      have either : met = url ∨ met ∈ (follow web redirects (url :: earlier) next).1 := by
        simpa [follow, hops] using connected
      rcases either with same | later
      · exact ⟨earlier, same ▸ leads, by omega⟩
      · have still : (url :: earlier).length + redirects = bound := by
          simp only [List.length_cons]
          omega
        exact ih (.hop leads hops) still later

theorem mem_follow_of_leads {met : Url} {before : List Url} (redirects : Nat) {bound : Nat}
    (left : earlier.length + redirects = bound)
    (leads : web.Leads first (met :: before)) (short : before.length ≤ bound)
    (through : (url :: earlier) <:+ met :: before)
    (resolves : web.dns.addresses met.hostname ≠ []) :
    met ∈ (follow web redirects earlier url).1 := by
  -- And what is reached by few redirects is connected to, if it resolves.
  induction redirects generalizing url earlier with
  | zero =>
    rcases List.suffix_cons_iff.mp through with same | inside
    · cases same
      exact mem_follow_self 0 resolves
    · have longer := inside.length_le
      simp only [List.length_cons] at longer
      omega
  | succ redirects ih =>
    rcases List.suffix_cons_iff.mp through with same | inside
    · cases same
      exact mem_follow_self _ resolves
    · obtain ⟨hopped, hops, further⟩ := leads.hop_of inside
      have still : (url :: earlier).length + redirects = bound := by
        simp only [List.length_cons]
        omega
      have later := ih still further
      simp [follow, hops, later]

theorem Web.Leads.ends {path : List Url} (leads : web.Leads first path) : [first] <:+ path := by
  induction leads with
  | first => exact List.suffix_rfl
  | hop _ _ ih => exact ih.trans (List.suffix_cons ..)

theorem follow_public (web : Web) (first : Url) :
    (∀ met ∈ (follow web maxRedirects [] first).1, web.dns.Public met.hostname) ↔
      web.dns.Public first.hostname ∧ web.RedirectsPublic first := by
  have reached : ∀ met before, web.Leads first (met :: before) → before.length ≤ maxRedirects →
      (∀ met ∈ (follow web maxRedirects [] first).1, web.dns.Public met.hostname) →
      web.dns.Public met.hostname := by
    intro met before leads short all
    by_cases nowhere : web.dns.addresses met.hostname = []
    · simp [Dns.Public, nowhere]
    · exact all met (mem_follow_of_leads maxRedirects (Nat.zero_add _) leads short leads.ends nowhere)
  constructor
  · intro all
    exact ⟨reached first [] .first (Nat.zero_le _) all,
      fun next earlier leads _ short => reached next earlier leads short all⟩
  · rintro ⟨own, others⟩ met connected
    obtain ⟨before, leads, short⟩ :=
      leads_of_mem_follow maxRedirects .first (Nat.zero_add _) connected
    cases before with
    | nil =>
      cases leads
      exact own
    | cons url earlier => exact others met (url :: earlier) leads (by simp) short

end Follow

section Validated

variable {parser : UrlParser} {dns : Dns} {host : List Char}

theorem digit_of_dotted (dotted : isDotted host = true) {char : Char} (member : char ∈ host)
    (other : char ≠ '.') : char.isDigit = true := by
  obtain ⟨part, found, inside⟩ := mem_splitOn member other
  simp only [isDotted, Bool.and_eq_true, List.all_eq_true] at dotted
  exact (dotted.2 part found).2 char inside

theorem no_colon_of_dotted (dotted : isDotted host = true) : ':' ∉ host := by
  intro colon
  exact absurd (digit_of_dotted dotted colon (by decide)) (by decide)

theorem isPrivateIP_of_dotted {host : String} (dotted : isDotted host.toList = true) :
    isPrivateIP host = isPrivateIPv4 host := by
  rw [isPrivateIP, if_neg (no_colon_of_dotted dotted)]

theorem public_of_validated {url : Url} (validated : validateHost dns url = .ok ())
    (bracketed : url.hostname.toList.head? = some '[' →
      ':' ∈ (url.hostname.toList.drop 1).dropLast) :
    dns.Public url.hostname ↔ dns.PublicAaaa url.hostname := by
  -- The AAAA records are what the validation of a host does not see.
  unfold validateHost at validated
  simp only [String.toList_ofList, refuse] at validated
  split_ifs at validated with blocked dotted private4 bracket private6
  · have known : isPrivateIP (String.ofList (lowerCase url.hostname)) = false := by
      rw [isPrivateIP_of_dotted (by simpa using dotted)]
      simpa using private4
    simp [Dns.Public, Dns.addresses, dotted, known, Dns.PublicAaaa, IsLiteral]
  · have known : isPrivateIP (unbracketed url.hostname) = false := by
      have colon : ':' ∈ (unbracketed url.hostname).toList := by
        simpa [unbracketed] using bracketed bracket
      rw [isPrivateIP, if_pos colon]
      simpa using private6
    simp [Dns.Public, Dns.addresses, dotted, bracket, known, Dns.PublicAaaa, IsLiteral]
  · unfold validateRecords at validated
    cases records : dns.a (String.ofList (lowerCase url.hostname)) with
    | error message => simp [records, refuse] at validated
    | ok found =>
      have known : ∀ addr ∈ found, isPrivateIP addr = false := by
        simpa [records, refuse] using validated
      simp only [Dns.Public, Dns.addresses, String.toList_ofList, dotted, bracket, records,
        Except.toOption, Option.getD_some, Dns.PublicAaaa, IsLiteral]
      constructor
      · intro all _ addr member
        exact all addr (by simpa using .inr member)
      · intro others addr member
        have either : addr ∈ found ∨
            addr ∈ dns.aaaa (String.ofList (lowerCase url.hostname)) := by simpa using member
        rcases either with four | six
        · exact known addr four
        · exact others (by simp) addr six

theorem validateUrl_ok {text : String} {parsed : Url}
    (validated : validateUrl parser dns text = .ok parsed) :
    parser.parse text = some parsed ∧ validateHost dns parsed = .ok () := by
  unfold validateUrl at validated
  simp only [refuse] at validated
  split_ifs at validated with empty long
  cases parses : parser.parse text with
  | none => simp [parses] at validated
  | some url =>
    simp only [parses] at validated
    split_ifs at validated with scheme credentials
    cases host : validateHost dns url with
    | error failure => simp [host, Except.map] at validated
    | ok done =>
      have same : url = parsed := by simpa [host, Except.map] using validated
      exact ⟨same ▸ rfl, same ▸ host⟩

end Validated

section Jobs

variable (setup : ScraperSetup) (job : ScrapeJobData) (world : ScrapeWorld)

theorem connected_finishScrape :
    ((finishScrape setup job).run world).2.connected = world.connected ++
      (fetchPage world.web setup.maxPageBytes setup.decode setup.parser job.url).1 := by
  rw [run_finishScrape]
  have kept (left : List Url) (fetched : Except String FetchedPage) :
      Keeps (fun reached => reached.connected = left) (afterFetch setup job fetched) :=
    keeps_afterFetch (fun world data _ holds => (upsert_frame world _ _ _ data).1.trans holds)
      (fun _ _ holds => holds) (fun _ _ holds => holds) fetched
  exact kept _ _ _ rfl

def contacts (world : ScrapeWorld) : List Url :=
  -- What a job connects to.
  ((processScrapeJob setup job).run { world with connected := [] }).2.connected

def ContactsPublic (world : ScrapeWorld) : Prop :=
  -- Every host that the job's static fetch connects to has public addresses only.
  ∀ url ∈ contacts setup job world, world.web.dns.Public url.hostname

instance (world : ScrapeWorld) : Decidable (ContactsPublic setup job world) :=
  inferInstanceAs (Decidable (∀ _ ∈ _, _))

theorem contacts_eq :
    contacts setup job world =
      match validateUrl setup.parser world.web.dns job.url with
      | .error _ => []
      | .ok _ =>
        if world.fails .markProcessing then []
        else (fetchPage world.web setup.maxPageBytes setup.decode setup.parser job.url).1 := by
  unfold contacts processScrapeJob
  rw [run_bind, run_startScrape]
  cases validateUrl setup.parser world.web.dns job.url with
  | error failure => rfl
  | ok parsed =>
    by_cases fails : world.fails .markProcessing = true
    · simp [fails]
    · have same := upsert_frame { world with connected := [] } job.org_id job.url job.url_hash
        fun page => { page with status := .PROCESSING }
      simp only [fails, Bool.false_eq_true, if_false, connected_finishScrape, ScrapeWorld.taken, same.1, same.2.1, List.nil_append]

/-- A job contacts public hosts only, exactly if it does not get as far as to fetch, or its host has
no private AAAA record and the servers redirect it to public hosts only. -/
theorem contacts_public_iff (world : ScrapeWorld) :
    ContactsPublic setup job world ↔
      ∀ parsed, validateUrl setup.parser world.web.dns job.url = .ok parsed →
        world.fails .markProcessing = false →
        world.web.dns.PublicAaaa parsed.hostname ∧ world.web.RedirectsPublic parsed := by
  unfold ContactsPublic
  rw [contacts_eq]
  cases validated : validateUrl setup.parser world.web.dns job.url with
  | error failure => simp
  | ok parsed =>
    obtain ⟨parses, host⟩ := validateUrl_ok validated
    by_cases fails : world.fails .markProcessing = true
    · simp [fails]
    · have seen := public_of_validated host (setup.parser.bracketed _ _ parses)
      have first := follow_public world.web parsed
      rw [seen] at first
      simp [fails, fetchPage, parses, first]

theorem redirected_inside :
    ¬ContactsPublic shopSetup { org_id := 1, url := shopUrl.href, url_hash := shopUrl.href }
      { web := shopWeb } := by
  decide +kernel

end Jobs

end HelpForge.Scraper
