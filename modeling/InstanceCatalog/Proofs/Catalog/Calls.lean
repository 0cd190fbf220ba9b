import InstanceCatalog.Catalog.Fetch
import InstanceCatalog.Proofs.Catalog.OfForest
import InstanceCatalog.Proofs.Http.Exchange
import Mathlib.Data.List.Forall2

/-! # Calls one after the other

Calls share a script: each takes from it what the calls before it left.  A call that makes its own
client comes to the same as a call that is given a client made from the same settings; all it does
besides is to make that client before its first request and to close it after its last one. -/

namespace InstanceCatalog

open Http

/-! ## What a visit did -/

@[simp] theorem Event.filterMap_request? (rs : List Request) :
    (rs.map Event.sent).filterMap Event.request? = rs := by
  rw [List.filterMap_map]
  exact List.filterMap_some

namespace Visit

variable {α : Type}

@[simp] theorem requests_making (c : Client) (v : Visit α) :
    (v.making c).requests = v.requests := rfl

@[simp] theorem requests_closing (v : Visit α) : v.closing.requests = v.requests := by
  simp [requests, closing, Event.request?]

/-- The visit did not end for want of a scheme in an address. -/
def Schemed (v : Visit α) : Prop :=
  ∀ text, v.logged.result ≠ .error (.mistaken (.noScheme text))

/-- Two visits of which the first made its own client and the second was given one: they came to the
same, and only the first made a client and closed one, around all of its requests. -/
structure Agree (retries : Int) (own given : Visit α) : Prop where
  logged : own.logged = given.logged
  requests : own.requests = given.requests
  rest : own.rest = given.rest
  events_own : own.events = .made retries :: own.requests.map .sent ++ [.closed]
  events_given : given.events = given.requests.map .sent

end Visit

namespace Catalog

variable {s : Settings} {c : Client}

/-- With a client of the caller's, requests are sent and nothing else is done. -/
theorem events_fetchWith (c : Client) (url : String) (script : Script) :
    (fetchWith c url script).events = (fetchWith c url script).requests.map .sent := by
  simp only [fetchWith, Page.fetch, Visit.requests, Event.filterMap_request?]

theorem rest_fetchWith (c : Client) (url : String) (script : Script) :
    (fetchWith c url script).rest =
      script.after (fetchWith c url script).requests.length := by
  have hlength := congrArg List.length (events_fetchWith c url script)
  rw [List.length_map] at hlength
  rw [← hlength]
  simpa [fetchWith, Page.fetch] using Client.rest_send url

theorem schemed_outcome {url : String} {script : Script}
    (h : (fetchWith c url script).Schemed) : Client.Schemed (c.send url script).outcome := by
  intro text htext
  refine h text ?_
  simp only [fetchWith, Page.fetch, htext]
  rfl

/-- A call comes to the same with other cookies, unless one of the two ends for want of a scheme. -/
theorem fetchWith_congr {c' : Client} {url : String} {script : Script} (hc : c.Alike c')
    (h : (fetchWith c url script).Schemed) (h' : (fetchWith c' url script).Schemed) :
    (fetchWith c url script).logged = (fetchWith c' url script).logged ∧
      (fetchWith c url script).requests = (fetchWith c' url script).requests := by
  obtain ⟨houtcome, hrequests⟩ :=
    Client.send_congr hc (schemed_outcome h) (schemed_outcome h')
  simp only [fetchWith, Page.fetch, Visit.requests, houtcome, hrequests, and_self]

/-- A call without a client is the call with a client made for it, which is closed after it. -/
theorem fetch_none_eq (h : Client.ofSettings s = .ok c) (url : Option String) (script : Script) :
    fetch s none url script = ((fetch s (some c) url script).closing.making c) := by
  simp only [fetch, fetchOwn, h]

/-- The client of a call. -/
def clientOf (s : Settings) (client : Option Client) : Except Text.NotAscii Client :=
  match client with
  | some c => .ok c
  | none => Client.ofSettings s

theorem logged_fetch {client : Option Client} {url : Option String} {script : Script}
    (h : clientOf s client = .ok c) :
    (fetch s client url script).logged = (fetchWith c (address s url) script).logged := by
  cases client with
  | some c' => cases h; rfl
  | none => rw [fetch_none_eq h]; rfl

/-- What is fetched is the catalog of some page. -/
theorem exists_page_of_fetch {client : Option Client} {url : Option String} {script : Script}
    {records : List Record} (h : (fetch s client url script).logged.result = .ok records) :
    ∃ page, (ofPage page).result = .ok records := by
  obtain ⟨c, hc⟩ : ∃ c, clientOf s client = .ok c := by
    cases client with
    | some c => exact ⟨c, rfl⟩
    | none =>
      cases hc : Client.ofSettings s with
      | ok c => exact ⟨c, hc⟩
      | error f =>
        simp only [fetch, fetchOwn, hc] at h
        cases h
  rw [logged_fetch hc, fetchWith] at h
  simp only [ofFetched, Logged.result_bind, Stage.result_announce, Logged.result_onDeclared] at h
  cases hp : (Page.fetch c (address s url) script).logged.result with
  | error f => rw [hp] at h; cases h
  | ok page =>
    rw [hp] at h
    refine ⟨page.html, ?_⟩
    cases hr : (ofPage page.html).result with
    | error f => simp only [bind, Except.bind, hr] at h; cases h
    | ok rs => simp only [bind, Except.bind, hr] at h; exact h

theorem fetch_agree (h : Client.ofSettings s = .ok c) (url : Option String) (script : Script) :
    Visit.Agree c.retries (fetch s none url script) (fetch s (some c) url script) := by
  have hevents := events_fetchWith c (address s url) script
  rw [fetch_none_eq h]
  refine ⟨rfl, Visit.requests_closing _, rfl, ?_, hevents⟩
  rw [Visit.requests_making, Visit.requests_closing]
  exact congrArg (fun es ↦ Event.made c.retries :: es ++ [.closed]) hevents

theorem fetch_agree_of_alike {c' : Client} {url : Option String} {script : Script}
    (h : Client.ofSettings s = .ok c) (hc : c.Alike c')
    (hown : (fetch s none url script).Schemed) (hgiven : (fetch s (some c') url script).Schemed) :
    Visit.Agree c.retries (fetch s none url script) (fetch s (some c') url script) := by
  obtain ⟨hlogged, hrequests, hrest, hevents, -⟩ := fetch_agree h url script
  have hfresh : (fetch s (some c) url script).Schemed := by
    rw [Visit.Schemed, ← hlogged]
    exact hown
  obtain ⟨hlogged', hrequests'⟩ := fetchWith_congr hc hfresh hgiven
  refine ⟨hlogged.trans hlogged', hrequests.trans hrequests', hrest.trans ?_, hevents,
    events_fetchWith c' _ script⟩
  exact (rest_fetchWith c _ script).trans (hrequests' ▸ (rest_fetchWith c' _ script).symm)

/-- Whatever client a call is given, each of its requests takes one entry of the script. -/
theorem rest_fetch (client : Option Client) (url : Option String) (script : Script) :
    (fetch s client url script).rest =
      script.after (fetch s client url script).requests.length := by
  cases client with
  | some c => exact rest_fetchWith c _ script
  | none =>
    cases h : Client.ofSettings s with
    | error f => simp only [fetch, fetchOwn, h]; rfl
    | ok c =>
      rw [fetch_none_eq h, Visit.requests_making, Visit.requests_closing]
      exact rest_fetchWith c _ script

theorem fetch_of_no_address (client : Option Client) {url : Option String}
    (h : url = none ∨ url = some "") : fetch s client url = fetch s client (some s.url) := by
  have haddress : address s url = address s (some s.url) := by
    obtain rfl | rfl := h
    · simp [address]
    · simp [address]
  funext script
  cases client with
  | some c => simp only [fetch, haddress]
  | none => simp only [fetch, haddress]

theorem alike_fetch (c : Client) (url : Option String) (script : Script) :
    c.Alike ((fetch s (some c) url script).client.getD c) :=
  Client.alike_send _

/-! ## Runs of calls -/

/-- Some calls one after the other, each with its own client and address, on one script. -/
def calls (s : Settings) :
    List (Option Client × Option String) → Script → List (Visit (List Record))
  | [], _ => []
  | (client, url) :: cs, script =>
    let visit := fetch s client url script
    visit :: calls s cs visit.rest

/-- Some calls one after the other, with one client and the cookies that it has got by then. -/
def keptCalls (s : Settings) : Client → List (Option String) → Script → List (Visit (List Record))
  | _, [], _ => []
  | c, url :: urls, script =>
    let visit := fetch s (some c) url script
    visit :: keptCalls s (visit.client.getD c) urls visit.rest

/-- How many requests some visits sent in all. -/
def sentIn (vs : List (Visit (List Record))) : Nat := (vs.flatMap Visit.requests).length

theorem length_calls (cs : List (Option Client × Option String)) (script : Script) :
    (calls s cs script).length = cs.length := by
  induction cs generalizing script with
  | nil => rfl
  | cons call cs ih => exact congrArg (· + 1) (ih _)

/-- A call in a run is a first call on what the calls before it left of the script. -/
theorem getElem?_calls (cs : List (Option Client × Option String)) (script : Script) (k : Nat) :
    (calls s cs script)[k]? = cs[k]?.map fun call ↦
      fetch s call.1 call.2 (script.after (sentIn ((calls s cs script).take k))) := by
  induction cs generalizing script k with
  | nil => rfl
  | cons call cs ih =>
    obtain ⟨client, url⟩ := call
    cases k with
    | zero => rfl
    | succ k =>
      have hrest := ih (fetch s client url script).rest k
      rw [rest_fetch, ← Script.after_add] at hrest
      simpa [calls, sentIn, rest_fetch] using hrest

/-- Calls that make their own clients agree with calls that are given clients, one by one. -/
theorem agree_calls (h : Client.ofSettings s = .ok c) (urls : List (Option String))
    (script : Script) : List.Forall₂ (Visit.Agree c.retries)
      (calls s (urls.map (none, ·)) script) (calls s (urls.map (some c, ·)) script) := by
  induction urls generalizing script with
  | nil => exact .nil
  | cons url urls ih =>
    have hfirst := fetch_agree h url script
    refine .cons hfirst ?_
    show List.Forall₂ _ _ (calls s _ (fetch s (some c) url script).rest)
    rw [← hfirst.rest]
    exact ih _

/-- A client that is kept is used for nothing but requests, and changes in its cookies alone. -/
theorem keptCalls_eq_calls (c : Client) (urls : List (Option String)) (script : Script) :
    ∃ clients : List Client, clients.length = urls.length ∧ (∀ c' ∈ clients, c.Alike c') ∧
      keptCalls s c urls script = calls s (clients.zipWith (some · , ·) urls) script := by
  induction urls generalizing c script with
  | nil => exact ⟨[], rfl, List.forall_mem_nil _, rfl⟩
  | cons url urls ih =>
    obtain ⟨clients, hlength, halike, hkept⟩ :=
      ih ((fetch s (some c) url script).client.getD c) (fetch s (some c) url script).rest
    refine ⟨c :: clients, congrArg (· + 1) hlength, ?_, congrArg _ hkept⟩
    refine List.forall_mem_cons.2 ⟨.refl c, fun c' hc' ↦ ?_⟩
    exact (alike_fetch c url script).trans (halike c' hc')

/-- No call closes a client that is kept, or makes another one. -/
theorem events_keptCalls (c : Client) (urls : List (Option String)) (script : Script) :
    ∀ v ∈ keptCalls s c urls script, v.events = v.requests.map .sent := by
  induction urls generalizing c script with
  | nil => exact List.forall_mem_nil _
  | cons url urls ih =>
    exact List.forall_mem_cons.2 ⟨events_fetchWith c (address s url) script, ih _ _⟩

/-- Calls with a client that is kept agree with calls that make their own, unless one of them ends
for want of a scheme. -/
theorem agree_keptCalls {c' : Client} (h : Client.ofSettings s = .ok c) (hc : c.Alike c')
    {urls : List (Option String)} {script : Script}
    (hown : ∀ v ∈ calls s (urls.map (none, ·)) script, v.Schemed)
    (hkept : ∀ v ∈ keptCalls s c' urls script, v.Schemed) :
    List.Forall₂ (Visit.Agree c.retries) (calls s (urls.map (none, ·)) script)
      (keptCalls s c' urls script) := by
  induction urls generalizing c' script with
  | nil => exact .nil
  | cons url urls ih =>
    obtain ⟨hown, howns⟩ := List.forall_mem_cons.1 hown
    obtain ⟨hkept, hkepts⟩ := List.forall_mem_cons.1 hkept
    have hfirst := fetch_agree_of_alike h hc hown hkept
    have halike := hc.trans (alike_fetch (s := s) c' url script)
    change ∀ v ∈ keptCalls s _ urls (fetch s (some c') url script).rest, v.Schemed at hkepts
    refine .cons hfirst ?_
    rw [← hfirst.rest] at hkepts ⊢
    exact ih halike howns hkepts

/-- Calls that make their own clients come to the same, one by one, as calls that are given a client
made from the same settings; each makes one client and closes it after its last request.  A call in
a run, with whatever clients, is a first call on what the calls before it left of the script.  A
given client is used for requests alone.  If it is kept over the calls it keeps its cookies, and
they make no difference unless an address without a scheme is asked for. -/
theorem own_calls_agree (h : Client.ofSettings s = .ok c) (urls : List (Option String))
    (script : Script) :
    List.Forall₂ (Visit.Agree c.retries) (calls s (urls.map (none, ·)) script)
      (calls s (urls.map (some c, ·)) script) ∧
    (∀ (cs : List (Option Client × Option String)) (k : Nat), (calls s cs script)[k]? =
      cs[k]?.map fun call ↦
        fetch s call.1 call.2 (script.after (sentIn ((calls s cs script).take k)))) ∧
    (∃ clients : List Client, clients.length = urls.length ∧ (∀ c' ∈ clients, c.Alike c') ∧
      keptCalls s c urls script = calls s (clients.zipWith (some · , ·) urls) script) ∧
    (∀ v ∈ keptCalls s c urls script, v.events = v.requests.map .sent) ∧
    ((∀ v ∈ calls s (urls.map (none, ·)) script ++ keptCalls s c urls script, v.Schemed) →
      List.Forall₂ (Visit.Agree c.retries) (calls s (urls.map (none, ·)) script)
        (keptCalls s c urls script)) ∧
    ∀ client url, url = none ∨ url = some "" →
      fetch s client url = fetch s client (some s.url) := by
  refine ⟨agree_calls h urls script, fun cs ↦ getElem?_calls cs script,
    keptCalls_eq_calls c urls script, events_keptCalls c urls script, ?_,
    fun client _ ↦ fetch_of_no_address client⟩
  intro hschemed
  obtain ⟨hown, hkept⟩ := List.forall_mem_append.1 hschemed
  exact agree_keptCalls h (.refl c) hown hkept

/-- Settings whose numbers are those of the defaults. -/
def plainSettings : Settings :=
  ⟨"https://catalog.example/", .finite false 0x1e000000000000 (-48), 2, "agent", "WARNING"⟩

/-- A page that redirects, a response that is no page, and no way through. -/
def faultyScript : Script :=
  [.response { status := 302, headers := [("Location", "/types")] }, .response { status := 503 },
    Script.noRoute]

theorem own_calls_agree_faulty : ∃ c, Client.ofSettings plainSettings = .ok c ∧
    List.Forall₂ (Visit.Agree c.retries)
      (calls plainSettings [(none, none), (none, some "")] faultyScript)
      (calls plainSettings [(some c, none), (some c, some "")] faultyScript) :=
  ⟨_, rfl, (own_calls_agree rfl [none, some ""] faultyScript).1⟩

end Catalog

end InstanceCatalog
