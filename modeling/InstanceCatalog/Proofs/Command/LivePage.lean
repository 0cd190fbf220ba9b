import InstanceCatalog.Proofs.Catalog.Calls
import InstanceCatalog.Proofs.Command.SavedPage
import InstanceCatalog.Proofs.Markup.LineBreak.Nesting

/-! # Saved pages and live pages

A page that is read from a file has unified line breaks, and a page that is fetched has those it was
sent with.  Both have the same catalog, or fail in the same way. -/

namespace InstanceCatalog

open Http Markup Text

namespace Catalog

/-- The catalog of a page does not depend on its line breaks. -/
theorem result_unified (text : List Char) : SameOutcome Eq (ofPage (String.ofList text)).result
    (ofPage (String.ofList (unifyLineBreaks text))).result := by
  rw [result_ofPage_eq, result_ofPage_eq, Document.forestOf, Document.forestOf,
    String.toList_ofList, String.toList_ofList]
  have hforests : SameOutcome (fun f g : Forest ↦ f.catalog = g.catalog)
      ((tokens text).map Forest.ofTokens)
      ((tokens (unifyLineBreaks text)).map Forest.ofTokens) :=
    (tokens_unified text).map fun _ _ h ↦ Forest.catalog_ofTokens h
  exact hforests.bind fun f g h ↦ .of_eq h

/-! ## Fetching a text -/

variable {s : Settings} {client : Option Client} {c : Client} {url : Option String}
  {script : Script} {r : Response} {text : List Char}

/-- A call ends with a response of status 200, of which the body is a text in UTF-8. -/
def Serves (s : Settings) (client : Option Client) (url : Option String) (script : Script)
    (text : List Char) : Prop :=
  ∃ c r, clientOf s client = .ok c ∧ (c.send (address s url) script).outcome = .ok r ∧
    r.status = 200 ∧ r.charset = .ok .utf8 ∧ r.body = Utf8.encode text

theorem text_of_charset (hcharset : r.charset = .ok .utf8) (hbody : r.body = Utf8.encode text) :
    r.text = .ok (String.ofList text) := by
  cases text with
  | nil => rw [Response.text, hbody]; rfl
  | cons c text =>
    have hne : (Utf8.encode (c :: text)).isEmpty = false := by
      obtain ⟨b, ts, hc⟩ := Utf8.exists_encodeChar c
      rw [Utf8.encode_cons, hc]
      rfl
    have htext : Charset.utf8.text (Utf8.encode (c :: text)) = .ok (c :: text) :=
      congrArg Except.ok (Utf8.decodeLossy_encode _)
    simp only [Response.text, hbody, hne, hcharset, Bool.false_eq_true, if_false, Except.mapError,
      bind, Except.bind, htext]
    rfl

theorem result_of_serves (h : Serves s client url script text) :
    (fetch s client url script).logged.result = (ofPage (String.ofList text)).result := by
  obtain ⟨c, r, hclient, hsent, hstatus, hcharset, hbody⟩ := h
  have hpage : (Page.fetch c (address s url) script).logged.result =
      .ok ⟨address s url, String.ofList text, r.status⟩ := by
    have hsuccess : r.isSuccess = true := by rw [Response.isSuccess, hstatus]; rfl
    simp only [Page.fetch, Page.ofOutcome, hsent, Logged.result_bind, Stage.result_announce,
      Page.ofResponse, hsuccess, text_of_charset hcharset hbody]
    rfl
  rw [logged_fetch hclient, fetchWith]
  simp only [ofFetched, Logged.result_bind, Stage.result_announce, Logged.result_onDeclared, hpage]
  change ((ofPage (String.ofList text)).result >>= fun records ↦ .ok records) = _
  cases (ofPage (String.ofList text)).result <;> rfl

/-- Whatever the text, one response brings it if the address can be asked for: its headers name
neither a coding nor another character set. -/
theorem serves_of_response (hclient : clientOf s client = .ok c)
    (haddress : (c.address (address s url) >>= Url.checkScheme) = .ok ())
    (hhead : script.head = .response r) (hstatus : r.status = 200)
    (hheaders : r.checkHeaders = .ok ()) (hcoding : r.header "content-encoding" = [])
    (hcharset : r.charset = .ok .utf8) (hbody : r.body = Utf8.encode text) :
    Serves s client url script text := by
  refine ⟨c, r, hclient, ?_, hstatus, hcharset, hbody⟩
  have hdecoded : r.decoded = .ok r := by
    rw [Response.decoded, hcoding]
    rfl
  have hread : Client.read r = .ok r := by
    rw [Client.read, hheaders, hdecoded]
    rfl
  obtain ⟨u, hu, hscheme⟩ : ∃ u, c.address (address s url) = .ok u ∧ u.checkScheme = .ok () := by
    revert haddress
    cases c.address (address s url) with
    | error m => exact nofun
    | ok u => exact fun h ↦ ⟨u, rfl, h⟩
  have hreceive : ∃ jar, c.receive u script.head = .ok (r, { c with jar }) := by
    simp only [hhead, Client.receive, hread, hscheme]
    exact ⟨_, rfl⟩
  have htarget (d : Client) : d.target? u r = .ok none := by
    rw [Client.target?, Response.redirect?, hstatus]
    rfl
  obtain ⟨jar, hreceive⟩ := hreceive
  rw [Client.send, hu]
  simp only [Client.sendWithin_of_ok hreceive, htarget]

end Catalog

namespace Command

variable {s s' : Settings} {files : Files} {script served : Script} {args : List String}
  {verbose : Bool} {task : Task} {file : String} {text : List Char} {level : Nat}
  {client : Option Client} {url : Option String}

/-- A run on the file of a text comes to what a call comes to that fetches the text: the catalog of
the same records, or the same failure.  Only the reason for which a page is rejected may be
different, since it quotes the page. -/
theorem run_savedPage_agrees
    (hargs : Invocation.ofArguments args = .instanceTypes verbose (some task))
    (hfile : task.file = some file) (hcontent : files (Path.parse file) = .ok (Utf8.encode text))
    (hlevel : levelOf s verbose = .ok level)
    (hserved : Catalog.Serves s' client url served text) :
    run s files script args =
        conclude task.json "" level (Catalog.ofPage (pageOf text)).result ∧
      (Catalog.fetch s' client url served).logged.result =
        (Catalog.ofPage (String.ofList text)).result ∧
      SameOutcome Eq (Catalog.ofPage (String.ofList text)).result
        (Catalog.ofPage (pageOf text)).result := by
  refine ⟨?_, Catalog.result_of_serves hserved, Catalog.result_unified text⟩
  rw [run_eq_runFile hargs hfile hlevel, runFile_encode hcontent]

/-- A title block and a table block whose line breaks are of every kind and stand in every kind of
place: in a list of classes, between attributes, in a cell and before a reference's end. -/
def brokenPage : List Char :=
  ("<h2 id=\"instance-type-matrix\"\r\nclass='section\rtitle-wrapper'></h2>\r" ++
    "<div class=\"section\r\n\ttable-wrapper\"><tr\r><td>t2\rnano &amp\r\n</td></tr></div>").toList

/-- The page as a response. -/
def brokenResponse : Response where
  status := 200
  headers := [("Content-Type", "text/html; charset=utf-8")]
  body := Utf8.encode brokenPage

theorem run_savedPage_agrees_brokenPage :
    Catalog.Serves usualSettings none none [.response brokenResponse] brokenPage ∧
      runOn (Utf8.encode brokenPage) =
        conclude false "" 30 (Catalog.ofPage (pageOf brokenPage)).result ∧
      (Catalog.fetch usualSettings none none [.response brokenResponse]).logged.result =
        (Catalog.ofPage (String.ofList brokenPage)).result ∧
      SameOutcome Eq (Catalog.ofPage (String.ofList brokenPage)).result
        (Catalog.ofPage (pageOf brokenPage)).result := by
  have hserved : Catalog.Serves usualSettings none none [.response brokenResponse] brokenPage :=
    Catalog.serves_of_response rfl (by decide +kernel) rfl rfl rfl rfl (by decide +kernel)
      (by simp only [brokenResponse])
  exact ⟨hserved, run_savedPage_agrees ofArguments_pageArguments rfl
    (read_folderOf (Utf8.encode brokenPage)) rfl hserved⟩

end Command

end InstanceCatalog
