import SteelProxy.K8s.Requests

/-!
# The credentials of the two clients

The requests of the `start_pr` calls and of the loop as they go over the wire: first the request
that the code builds, then one for each redirect that reqwest follows before `send` returns. The
addresses that Jenkins names are taken from its answers as they are, and the requests to them carry
its credentials; a redirect is followed with the credentials as long as it keeps to the host and the
port. The credentials stay where they belong as long as Jenkins names no other addresses, and no
redirect leads away from them within a host (`credentials_contained`).
-/

set_option autoImplicit false

namespace SteelProxy

open SteelProxy.Library SteelProxy.Library.Transition

/-! ## Redirects -/

/-- The redirects of `reqwest::Client::new()`: whether two addresses have one host and port, and the
request that follows an answer with this status and `Location`, if one does. -/
structure Redirects where
  SameOrigin : String → String → Prop
  follow : HttpRequest → UInt16 → String → Option HttpRequest

/-- A header with a token. -/
def HttpRequest.Authorized (request : HttpRequest) : Prop :=
  ∃ value, ("Authorization", value) ∈ request.headers

/-- A redirect adds no credentials, and keeps those of the request only at the same host and
port. -/
structure Redirects.DropsCredentials (d : Redirects) : Prop where
  basicAuth : ∀ request status location next, d.follow request status location = some next →
    next.basicAuth ≠ none → request.basicAuth ≠ none ∧ d.SameOrigin request.url next.url
  authorized : ∀ request status location next, d.follow request status location = some next →
    next.Authorized → request.Authorized ∧ d.SameOrigin request.url next.url

/-- The task that waits for the answer to a request: a `start_pr` call, or the loop. -/
inductive Requester where
  | call (id : Nat)
  | loop
  deriving DecidableEq, Repr

/-- The task of a label. -/
def Label.requester : Label → Requester
  | .start id _ => .call id
  | _ => .loop

/-- The stores, the calls and the loop, with the requests under way. -/
structure Requesting where
  world : World
  underWay : Requester → Option HttpRequest

/-- A task goes on, or its request is answered with a redirect. -/
inductive RequestLabel where
  | goes (label : Label)
  | redirected (requester : Requester) (status : UInt16) (location : String)

/-- An event of the calls and the loop, or a request on the wire. -/
inductive RequestEvent where
  | service (event : ServiceEvent)
  | sends (requester : Requester) (request : HttpRequest)
  deriving DecidableEq, Repr

/-- The event of the calls and the loop. -/
def RequestEvent.ofService : RequestEvent → Option ServiceEvent
  | .service event => some event
  | _ => none

namespace Requests

/-- One step of the calls and the loop with the requests on the wire. -/
def stepSending (setup : Setup) (accounts : Accounts) (d : Redirects) (s : Requesting) :
    RequestLabel → Option (Requesting × List RequestEvent)
  | .goes label =>
      ((system setup).step s.world label).map fun result =>
        let request := (sent result.1 label).map (ServiceRequest.http setup accounts)
        (⟨result.1, Function.update s.underWay label.requester request⟩,
          result.2.map .service ++ request.toList.map (.sends label.requester))
  | .redirected requester status location =>
      match s.underWay requester with
      | none => none
      | some request =>
          -- an answer that is not followed is the answer of `send`
          (d.follow request status location).map fun next =>
            (⟨s.world, Function.update s.underWay requester (some next)⟩, [.sends requester next])

/-- The calls and the loop with the requests on the wire, as a transition system. -/
def sending (setup : Setup) (accounts : Accounts) (d : Redirects) :
    System Requesting RequestLabel RequestEvent :=
  ⟨stepSending setup accounts d⟩

/-- No request is under way. -/
def silent (w : World) : Requesting := ⟨w, fun _ => none⟩

/-! ## Trust -/

/-- Jenkins names only addresses that are trusted with a request. -/
def NamesTrusted (T : String → Prop) : Label → Prop
  | .start _ (.jenkinsAnswered (.ok (some url)) _) => T (JenkinsClient.apiUrl url)
  | .resume (.queueItem (.ok (some url))) => T (JenkinsClient.apiUrl url)
  | _ => True

/-- Jenkins names only trusted addresses, and a redirect leads away from the addresses that `T` or
`G` trusts only to another host or port. -/
def StaysTrusted (d : Redirects) (T G : String → Prop) (s : Requesting) : RequestLabel → Prop
  | .goes label => NamesTrusted T label
  | .redirected requester status location =>
      ∀ request next, s.underWay requester = some request →
        d.follow request status location = some next → d.SameOrigin request.url next.url →
          (T request.url → T next.url) ∧ (G request.url → G next.url)

/-- The addresses that an event names are trusted. -/
def TrustedEvent (T : String → Prop) : ServiceEvent → Prop
  | .queued _ _ (some url) => T (JenkinsClient.apiUrl url)
  | .buildNamed _ _ url => T (JenkinsClient.apiUrl url)
  | _ => True

/-- The credentials for Jenkins go to addresses that `T` trusts, and the token for GitHub, which is
in a header, to those that `G` trusts. -/
structure Contained (T G : String → Prop) (request : HttpRequest) : Prop where
  jenkins : request.basicAuth ≠ none → T request.url
  github : request.Authorized → G request.url

/-- All requests on the wire are contained. -/
def CredentialsContained (T G : String → Prop) (tr : List RequestEvent) : Prop :=
  ∀ requester request, .sends requester request ∈ tr → Contained T G request

section Trust

variable {setup : Setup} {accounts : Accounts} {d : Redirects} {T G : String → Prop}

theorem trustedEvent_heard {w : World} {label : Label} (h : NamesTrusted T label) :
    ∀ e ∈ heard w label, TrustedEvent T e := by
  cases label with
  | start id label =>
      have hheard := heard_start w id label
      generalize heard w (.start id label) = t at hheard
      cases hheard with
      | nothing => simp
      | called n hcall => simp [TrustedEvent]
      | head n commitHash hcall => simp [TrustedEvent]
      | queued n commitHash commitHashShort answer now location hcall haccepted =>
          rw [List.forall_mem_singleton]
          cases location with
          | none => trivial
          | some url =>
              cases answer with
              | ok location =>
                  cases haccepted
                  exact h
              | badBody error => cases haccepted
              | _ => cases haccepted
  | tick snapshot => simp [heard]
  | advance now => simp [heard]
  | resume answer =>
      unfold heard
      split
      · rename_i heq
        cases heq
      · rename_i heq
        cases heq
      · rename_i heq
        cases heq
      · rename_i url heq
        cases heq
        split
        · rw [List.forall_mem_singleton]
          exact h
        · simp
      · simp

/-- Requests name no addresses. -/
theorem trustedEvent_observe {w : World} {label : Label} (h : NamesTrusted T label) :
    ∀ e ∈ observe setup w label, TrustedEvent T e := by
  intro e he
  rcases List.mem_append.1 he with he | he
  · exact trustedEvent_heard h e he
  · split at he
    · cases he
    · obtain ⟨r, -, rfl⟩ := List.mem_map.1 he
      trivial

/-- An accounted request after trusted events is contained. -/
theorem contained_of_accounted {pre : List ServiceEvent} {r : ServiceRequest}
    (hjob : T (JenkinsClient.jobUrl setup.jenkins accounts.jenkins))
    (hqueue : T (JenkinsClient.apiUrl (JenkinsClient.defaultQueueUrl setup.jenkins)))
    (hpulls : ∀ n, G (GitHubClient.pullUrl accounts.github n))
    (htrusted : ∀ e ∈ pre, TrustedEvent T e) (h : Accounted setup pre (.asked r)) :
    Contained T G (r.http setup accounts) := by
  cases r with
  | prHead id n => exact ⟨fun hauth => absurd rfl hauth, fun _ => hpulls n⟩
  | triggerBuild id n commitHashShort =>
      exact ⟨fun _ => hjob, fun ⟨_, hmem⟩ => (by cases hmem)⟩
  | buildUrl n queueUrl =>
      obtain ⟨id, location, hmem, rfl⟩ := h
      refine ⟨fun _ => ?_, fun ⟨_, hmem⟩ => (by cases hmem)⟩
      cases location with
      | none => exact hqueue
      | some url => exact htrusted _ hmem
  | buildStatus n queueUrl url =>
      exact ⟨fun _ => htrusted _ h, fun ⟨_, hmem⟩ => (by cases hmem)⟩

/-- A redirect of a contained request is contained: it keeps its credentials only at the same host
and port, and does not lead away from the trusted addresses there. -/
theorem Contained.follow {request next : HttpRequest} {status : UInt16} {location : String}
    (h : Contained T G request) (hdrops : d.DropsCredentials)
    (hfollow : d.follow request status location = some next)
    (hstays : d.SameOrigin request.url next.url →
      (T request.url → T next.url) ∧ (G request.url → G next.url)) : Contained T G next where
  jenkins hauth := by
    obtain ⟨hbefore, hsame⟩ := hdrops.basicAuth request status location next hfollow hauth
    exact (hstays hsame).1 (h.jenkins hbefore)
  github hauth := by
    obtain ⟨hbefore, hsame⟩ := hdrops.authorized request status location next hfollow hauth
    exact (hstays hsame).2 (h.github hbefore)

/-- The events account for the world, they name trusted addresses, and the requests under way and
those sent before are contained. -/
structure Containment (setup : Setup) (T G : String → Prop) (s : Requesting)
    (tr : List RequestEvent) : Prop where
  accounting : Accounting setup s.world (tr.filterMap RequestEvent.ofService)
  trusted : ∀ e ∈ tr.filterMap RequestEvent.ofService, TrustedEvent T e
  underWay : ∀ requester request, s.underWay requester = some request → Contained T G request
  sent : CredentialsContained T G tr

/-- A task has a new request under way, or none. -/
theorem contained_update {underWay : Requester → Option HttpRequest} {requester : Requester}
    {request : Option HttpRequest}
    (h : ∀ requester request, underWay requester = some request → Contained T G request)
    (hnew : ∀ next, request = some next → Contained T G next) :
    ∀ requester' request', Function.update underWay requester request requester' = some request' →
      Contained T G request' := by
  intro requester' request' hrequest
  by_cases hr : requester' = requester
  · rw [hr, Function.update_self] at hrequest
    exact hnew request' hrequest
  · rw [Function.update_of_ne hr] at hrequest
    exact h requester' request' hrequest

/-- Requests go over the wire. -/
theorem CredentialsContained.append {tr t : List RequestEvent} (h : CredentialsContained T G tr)
    (ht : CredentialsContained T G t) : CredentialsContained T G (tr ++ t) := by
  intro requester request hmem
  rcases List.mem_append.1 hmem with hmem | hmem
  · exact h requester request hmem
  · exact ht requester request hmem

theorem filterMap_ofService (t : List ServiceEvent) (requester : Requester)
    (requests : List HttpRequest) :
    (t.map RequestEvent.service ++ requests.map (RequestEvent.sends requester)).filterMap
      RequestEvent.ofService = t := by
  rw [List.filterMap_append, List.filterMap_map, List.filterMap_map]
  have hservice : t.filterMap (RequestEvent.ofService ∘ RequestEvent.service) = t :=
    List.filterMap_some
  have hsends : requests.filterMap (RequestEvent.ofService ∘ RequestEvent.sends requester) = [] :=
    List.filterMap_eq_nil_iff.2 fun _ _ => rfl
  rw [hservice, hsends, List.append_nil]

/-- A task goes on: the request that it sends is accounted for. -/
theorem Containment.goes {s : Requesting} {tr : List RequestEvent} {label : Label} {w' : World}
    {t : List ServiceEvent} (h : Containment setup T G s tr)
    (hjob : T (JenkinsClient.jobUrl setup.jenkins accounts.jenkins))
    (hqueue : T (JenkinsClient.apiUrl (JenkinsClient.defaultQueueUrl setup.jenkins)))
    (hpulls : ∀ n, G (GitHubClient.pullUrl accounts.github n)) (hnames : NamesTrusted T label)
    (hstep : (system setup).step s.world label = some (w', t)) :
    Containment setup T G
      ⟨w', Function.update s.underWay label.requester
        ((Requests.sent w' label).map (ServiceRequest.http setup accounts))⟩
      (tr ++ (t.map .service ++ ((Requests.sent w' label).map
        (ServiceRequest.http setup accounts)).toList.map (.sends label.requester))) := by
  obtain ⟨⟨t₀, hlifecycle⟩, rfl⟩ := (System.step_observed_iff _).1 hstep
  have haccounting := accounting_step h.accounting hlifecycle
  have htrusted : ∀ e ∈ tr.filterMap RequestEvent.ofService ++ observe setup s.world label,
      TrustedEvent T e := by
    rw [List.forall_mem_append]
    exact ⟨h.trusted, trustedEvent_observe hnames⟩
  have hcontained : ∀ request,
      (Requests.sent w' label).map (ServiceRequest.http setup accounts) = some request →
        Contained T G request := by
    intro request hrequest
    obtain ⟨r, hr, rfl⟩ := Option.map_eq_some_iff.1 hrequest
    have hasked : .asked r ∈ observe setup s.world label := by
      rw [observe_of_step hlifecycle, hr]
      exact List.mem_append_right _ (List.mem_singleton_self _)
    obtain ⟨pre, post, heq⟩ := List.append_of_mem (List.mem_append_right
      (tr.filterMap RequestEvent.ofService) hasked)
    have hpre : ∀ e ∈ pre, TrustedEvent T e := fun e he =>
      htrusted e (by rw [heq]; exact List.mem_append_left _ he)
    exact contained_of_accounted hjob hqueue hpulls hpre
      (haccounting.justified pre (.asked r) post heq)
  constructor
  · rw [List.filterMap_append, filterMap_ofService]
    exact haccounting
  · rw [List.filterMap_append, filterMap_ofService]
    exact htrusted
  · exact contained_update h.underWay hcontained
  · refine h.sent.append ?_
    intro requester request hmem
    rcases List.mem_append.1 hmem with hmem | hmem
    · obtain ⟨e, -, heq⟩ := List.mem_map.1 hmem
      cases heq
    · obtain ⟨request', hrequest, heq⟩ := List.mem_map.1 hmem
      cases heq
      exact hcontained request (Option.mem_toList.1 hrequest)

/-- The request of a task is redirected. -/
theorem Containment.redirected {s : Requesting} {tr : List RequestEvent} {requester : Requester}
    {next : HttpRequest} (h : Containment setup T G s tr) (hnext : Contained T G next) :
    Containment setup T G ⟨s.world, Function.update s.underWay requester (some next)⟩
      (tr ++ [.sends requester next]) := by
  -- nothing of the redirect is an event of the calls and the loop
  have hservice : (tr ++ [RequestEvent.sends requester next]).filterMap RequestEvent.ofService =
      tr.filterMap RequestEvent.ofService := by
    rw [List.filterMap_append]
    exact List.append_nil _
  constructor
  · rw [hservice]
    exact h.accounting
  · rw [hservice]
    exact h.trusted
  · refine contained_update h.underWay ?_
    rintro _ ⟨⟩
    exact hnext
  · refine h.sent.append ?_
    intro requester' request' hmem
    cases List.mem_singleton.1 hmem
    exact hnext

/-- One step keeps the containment. -/
theorem containment_step {s s' : Requesting} {tr t : List RequestEvent} {label : RequestLabel}
    (h : Containment setup T G s tr)
    (hjob : T (JenkinsClient.jobUrl setup.jenkins accounts.jenkins))
    (hqueue : T (JenkinsClient.apiUrl (JenkinsClient.defaultQueueUrl setup.jenkins)))
    (hpulls : ∀ n, G (GitHubClient.pullUrl accounts.github n)) (hdrops : d.DropsCredentials)
    (hstays : StaysTrusted d T G s label)
    (hstep : (sending setup accounts d).step s label = some (s', t)) :
    Containment setup T G s' (tr ++ t) := by
  cases label with
  | goes label =>
      obtain ⟨⟨w', t₀⟩, hgoes, heq⟩ := Option.map_eq_some_iff.1 hstep
      cases heq
      exact h.goes hjob hqueue hpulls hstays hgoes
  | redirected requester status location =>
      simp only [sending, stepSending] at hstep
      cases hrequest : s.underWay requester with
      | none =>
          rw [hrequest] at hstep
          cases hstep
      | some request =>
          rw [hrequest] at hstep
          obtain ⟨next, hfollow, heq⟩ := Option.map_eq_some_iff.1 hstep
          cases heq
          exact h.redirected ((h.underWay requester request hrequest).follow hdrops hfollow
            (hstays request next hrequest hfollow))

end Trust

/-! ## Runs -/

/-- As long as Jenkins names only trusted addresses, and no redirect leads away from the trusted
addresses within a host and port, every request on the wire with the credentials for Jenkins goes to
an address that is trusted with them, and so does every one with the token for GitHub. -/
theorem credentials_contained (setup : Setup) (accounts : Accounts) (d : Redirects)
    (T G : String → Prop) (staticBackends : KeyedMap String BackendServer) (builds : PrBuilds)
    (deployments : KeyedMap String String) (services : KeyedMap String (Option Int32))
    (loadError : Option String) (answers : PrBuild → RowAnswers) (sh : Shared)
    (result : Except String Nat) (labels : List RequestLabel) (s : Requesting)
    (tr : List RequestEvent)
    (hjob : T (JenkinsClient.jobUrl setup.jenkins accounts.jenkins))
    (hqueue : T (JenkinsClient.apiUrl (JenkinsClient.defaultQueueUrl setup.jenkins)))
    (hpulls : ∀ n, G (GitHubClient.pullUrl accounts.github n)) (hdrops : d.DropsCredentials)
    (hrec : Recovery.recoverFromDb setup.kubernetes loadError answers
      (Shared.startUp staticBackends builds deployments services) = some (sh, result))
    (hmeets : (sending setup accounts d).Meets (StaysTrusted d T G)
      (silent (Lifecycle.started sh)) labels)
    (hrun : (sending setup accounts d).exec (silent (Lifecycle.started sh)) labels =
      some (s, tr)) : CredentialsContained T G tr := by
  have hready : Recovery.AllReady sh.instances :=
    Recovery.allReady_recoverFromDb (fun n i hi => by cases hi) hrec
  have h0 : Containment setup T G (silent (Lifecycle.started sh)) [] :=
    ⟨accounting_started hready, by simp, fun _ _ h => (by cases h), fun _ _ h => (by cases h)⟩
  have hinv := (sending setup accounts d).exec_invariant
    (fun s tr label s' t h hstays hstep =>
      containment_step h hjob hqueue hpulls hdrops hstays hstep) h0 hmeets hrun
  exact hinv.sent

/-- A job and an account on this Jenkins, and a repository with a token. -/
def sampleAccounts : Accounts := ⟨⟨"steel", "proxy", "secret"⟩, ⟨"octocat", "steel", some "token"⟩⟩

/-- The scheme, the host and the port of an `https` address. -/
def originOf (url : String) : List Char :=
  url.toList.take 8 ++ (url.toList.drop 8).takeWhile (· ≠ '/')

/-- The request to another absolute `https` address: credentials are dropped at another origin. -/
def moved (request : HttpRequest) (location : String) : HttpRequest :=
  if originOf request.url = originOf location then
    { request with url := location }
  else
    { request with
      url := location
      headers := request.headers.filter fun header => header.1 ≠ "Authorization"
      basicAuth := none }

/-- 301, 302 and 303 are followed with GET, 307 and 308 with the request as it was. -/
def sampleRedirects : Redirects where
  SameOrigin url url' := originOf url = originOf url'
  follow request status location :=
    if status ∈ [301, 302, 303] then
      some { moved request location with method := .get, form := [] }
    else if status ∈ [307, 308] then
      some (moved request location)
    else
      none

theorem dropsCredentials_sampleRedirects : sampleRedirects.DropsCredentials := by
  have hfollow : ∀ request status location next,
      sampleRedirects.follow request status location = some next →
        next.basicAuth = (moved request location).basicAuth ∧
          next.headers = (moved request location).headers ∧ next.url = location := by
    intro request status location next hfollow
    have hurl : (moved request location).url = location := by
      simp only [moved]
      split <;> rfl
    simp only [sampleRedirects] at hfollow
    split at hfollow
    · cases hfollow
      exact ⟨rfl, rfl, hurl⟩
    · split at hfollow
      · cases hfollow
        exact ⟨rfl, rfl, hurl⟩
      · cases hfollow
  constructor
  · intro request status location next hnext hauth
    obtain ⟨hbasic, -, hurl⟩ := hfollow request status location next hnext
    rw [hbasic, moved] at hauth
    split at hauth
    · rename_i hsame
      exact ⟨hauth, by rw [hurl]; exact hsame⟩
    · exact absurd rfl hauth
  · rintro request status location next hnext ⟨value, hmem⟩
    obtain ⟨-, hheaders, hurl⟩ := hfollow request status location next hnext
    rw [hheaders, moved] at hmem
    split at hmem
    · rename_i hsame
      exact ⟨⟨value, hmem⟩, by rw [hurl]; exact hsame⟩
    · simp at hmem

/-- The address is one of this host. -/
def At (host url : String) : Prop := originOf url = originOf host

instance (host url : String) : Decidable (At host url) :=
  inferInstanceAs (Decidable (originOf url = originOf host))

/-- What follows a `/` after the host is not part of it. -/
theorem originOf_append {base : String} (hpath : '/' ∈ base.toList.drop 8) (path : String) :
    originOf (base ++ path) = originOf base := by
  have hlength : 8 ≤ base.toList.length := by
    by_contra hshort
    rw [List.drop_eq_nil_of_le (by omega)] at hpath
    cases hpath
  have hends : ((base.toList.drop 8).takeWhile (· ≠ '/')).length ≠ (base.toList.drop 8).length := by
    intro heq
    rw [← (List.takeWhile_prefix _).eq_of_length heq] at hpath
    have hslash := List.all_eq_true.1 List.all_takeWhile '/' hpath
    simp at hslash
  rw [originOf, originOf, String.toList_append, List.take_append_of_le_length hlength,
    List.drop_append_of_le_length hlength, List.takeWhile_append, if_neg hends]

theorem at_pullUrl (config : GitHubConfig) (n : UInt32) :
    At "https://api.github.com" (GitHubClient.pullUrl config n) := by
  have hbase : At "https://api.github.com" "https://api.github.com/repos/" := by decide +kernel
  have hurl : GitHubClient.pullUrl config n = "https://api.github.com/repos/" ++ config.owner ++
      "/" ++ config.repo ++ "/pulls/" ++ toString n := rfl
  simp only [String.append_assoc] at hurl
  rw [hurl]
  exact (originOf_append (by decide +kernel) _).trans hbase

/-- The run that has PR 7 built, in which GitHub redirects to the repository by its number, and
Jenkins to a login elsewhere. -/
def redirectSample : List RequestLabel :=
  (buildSample.take 2).map .goes ++
    [.redirected (.call 0) 301 "https://api.github.com/repositories/1/pulls/7"] ++
    ((buildSample.drop 2).take 6).map .goes ++
    [.redirected .loop 302 "https://login.example.com/"] ++ (buildSample.drop 8).map .goes

/-- The address of a request on the wire, and whether it carries the credentials for Jenkins. -/
def addressOf : RequestEvent → Option (String × Bool)
  | .sends _ request => some (request.url, request.basicAuth.isSome)
  | .service _ => none

/-- The requests of this run. -/
def redirectAddresses : List (String × Bool) :=
  [("https://api.github.com/repos/octocat/steel/pulls/7", false),
    ("https://api.github.com/repositories/1/pulls/7", false),
    ("https://jenkins.example.com/job/steel/buildWithParameters", true),
    ("https://jenkins.example.com/queue/item/1/api/json", true),
    ("https://login.example.com/", false),
    ("https://jenkins.example.com/job/steel/1/api/json", true)]

theorem credentials_contained_redirectSample :
    ∃ s tr, (sending Lifecycle.sampleSetup sampleAccounts sampleRedirects).exec
        (silent (Lifecycle.started emptyStart)) redirectSample = some (s, tr) ∧
      tr.filterMap addressOf = redirectAddresses ∧
      CredentialsContained (At "https://jenkins.example.com") (At "https://api.github.com") tr := by
  have hsent : ((sending Lifecycle.sampleSetup sampleAccounts sampleRedirects).exec
      (silent (Lifecycle.started emptyStart)) redirectSample).map
        (fun result => result.2.filterMap addressOf) = some redirectAddresses := by
    decide +kernel
  obtain ⟨⟨s, tr⟩, hrun, haddresses⟩ := Option.map_eq_some_iff.1 hsent
  have hrec : Recovery.recoverFromDb Lifecycle.sampleSetup.kubernetes none
      (fun _ => Recovery.unreachable) (Shared.startUp ∅ .empty ∅ ∅) =
        some (emptyStart, .ok 0) := by rfl
  refine ⟨s, tr, hrun, haddresses, ?_⟩
  refine credentials_contained Lifecycle.sampleSetup sampleAccounts sampleRedirects
    (At "https://jenkins.example.com") (At "https://api.github.com") ∅ .empty ∅ ∅ none
    (fun _ => Recovery.unreachable) emptyStart (.ok 0) redirectSample s tr (by decide +kernel)
    (by decide +kernel) (at_pullUrl sampleAccounts.github) dropsCredentials_sampleRedirects hrec ?_
    hrun
  · refine System.meets_of_forall _ ?_ _
    have hstays : ∀ (s : Requesting) requester status location, StaysTrusted sampleRedirects
        (At "https://jenkins.example.com") (At "https://api.github.com") s
          (.redirected requester status location) := by
      intro s requester status location request next _ _ hsame
      exact ⟨fun htrusted => hsame.symm.trans htrusted, fun htrusted => hsame.symm.trans htrusted⟩
    intro s label hlabel
    simp only [redirectSample, buildSample, Lifecycle.sampleChecks, Lifecycle.sampleTrigger,
      List.cons_append, List.nil_append, List.take_succ_cons, List.take_zero, List.drop_succ_cons,
      List.drop_zero, List.map_cons, List.map_nil, List.mem_cons, List.not_mem_nil,
      or_false] at hlabel
    rcases hlabel with rfl | rfl | rfl | rfl | rfl | rfl | rfl | rfl | rfl | rfl | rfl
    · trivial
    · trivial
    · exact hstays s _ _ _
    · trivial
    · trivial
    · trivial
    -- Jenkins names the queue item, and in the last step the build
    · show At _ _
      decide +kernel
    · trivial
    · trivial
    · exact hstays s _ _ _
    · show At _ _
      decide +kernel

end Requests

end SteelProxy
