import InstanceCatalog.Proofs.Catalog.StageErrors
import InstanceCatalog.Proofs.Numeral.Grammar
import InstanceCatalog.Proofs.Text.Quoted

/-! # What the text of an error tells

The start of the text tells the kind of the error.  The context after it can be read back, since
each value shows where it ends, and it is all on one line, since texts in it are quoted.  The one
text that is not quoted is that of a cell, which has no line boundary in it. -/

namespace InstanceCatalog

open Text Numeral

theorem Numeral.toList_decimal (i : Int) : (decimal i).toList = signed i := by
  rw [decimal, String.toList_ofList]

/-! ## Values of a context -/

namespace Detail

variable {v w : Detail} {x y : List Char}

/-- A text or a number. -/
def Plain : Detail → Prop
  | .text _ | .number _ => True
  | _ => False

theorem toList_shown_text (s : String) : (shown (.text s)).toList = Quoted.encode s.toList := by
  rw [shown_text, quoted, String.toList_ofList]

theorem toList_shown_number (i : Int) : (shown (.number i)).toList = signed i := by
  rw [shown_number, toList_decimal]

theorem encode_append_ne_signed {s : List Char} {i : Int} :
    Quoted.encode s ++ x ≠ signed i ++ y := by
  intro h
  obtain ⟨c, u, hu⟩ := List.exists_cons_of_ne_nil (signed_ne_nil i)
  have hc := inSigned_of_mem_signed c (hu ▸ List.mem_cons_self)
  rw [Quoted.encode_append, hu] at h
  rw [← (List.cons.inj h).1] at hc
  obtain hmark | hmark := Quoted.isMark_mark s <;> rw [hmark] at hc <;> cases hc

/-- A value is found at the start of a text, if no numeral goes on after it. -/
theorem shown_append_inj (hv : v.Plain) (hw : w.Plain) (hx : ∀ c ∈ x.head?, inSigned c = false)
    (hy : ∀ c ∈ y.head?, inSigned c = false)
    (h : v.shown.toList ++ x = w.shown.toList ++ y) : v = w ∧ x = y := by
  cases v with
  | text s =>
    cases w with
    | text t =>
      rw [toList_shown_text, toList_shown_text] at h
      obtain ⟨hst, hxy⟩ := Quoted.encode_append_inj h
      exact ⟨by rw [String.toList_injective hst], hxy⟩
    | number j =>
      rw [toList_shown_text, toList_shown_number] at h
      exact absurd h encode_append_ne_signed
    | _ => cases hw
  | number i =>
    cases w with
    | text t =>
      rw [toList_shown_text, toList_shown_number] at h
      exact absurd h.symm encode_append_ne_signed
    | number j =>
      rw [toList_shown_number, toList_shown_number] at h
      obtain ⟨rfl, hxy⟩ := signed_append_inj hx hy h
      exact ⟨rfl, hxy⟩
    | _ => cases hw
  | _ => cases hv

theorem singleLine_shown (hv : v.Plain) : SingleLine v.shown.toList := by
  cases v with
  | text s => rw [toList_shown_text]; exact Quoted.singleLine_encode _
  | number i => rw [toList_shown_number]; exact singleLine_of_not_blank (not_blank_signed i)
  | _ => cases hv

end Detail

namespace ScrapeError

/-! ## Contexts -/

variable {c c' : List (String × Detail)}

theorem shownContext_singleton_append (k : String) (v : Detail) (x : List Char) :
    (shownContext [(k, v)]).toList ++ x = k.toList ++ '=' :: (v.shown.toList ++ x) := by
  rw [shownContext, String.toList_intercalate, List.map_singleton, List.map_singleton,
    List.intercalate_singleton, String.toList_append, String.toList_append]
  simp only [List.append_assoc]
  rfl

theorem shownContext_cons_append (k : String) (v : Detail) (p : String × Detail) (x : List Char) :
    (shownContext ((k, v) :: p :: c)).toList ++ x =
      k.toList ++ '=' ::
        (v.shown.toList ++ ',' :: ' ' :: ((shownContext (p :: c)).toList ++ x)) := by
  rw [shownContext, shownContext, String.toList_intercalate, String.toList_intercalate,
    List.map_cons, List.map_cons, List.map_cons, List.map_cons, List.intercalate_cons_cons,
    String.toList_append, String.toList_append]
  simp only [List.append_assoc]
  rfl

/-- A context is read back from how it is shown, if its keys are known. -/
theorem shownContext_inj (hkeys : c.map Prod.fst = c'.map Prod.fst) (hc : ∀ p ∈ c, p.2.Plain)
    (hc' : ∀ p ∈ c', p.2.Plain)
    (h : (shownContext c).toList ++ [')'] = (shownContext c').toList ++ [')']) : c = c' := by
  have hcomma {x : List Char} : ∀ a ∈ (',' :: x).head?, inSigned a = false := by
    rintro _ ⟨⟩; rfl
  have hbracket : ∀ a ∈ [')'].head?, inSigned a = false := by rintro _ ⟨⟩; rfl
  induction c generalizing c' with
  | nil => exact (List.map_eq_nil_iff.1 hkeys.symm).symm
  | cons p c ih =>
    cases c' with
    | nil => cases hkeys
    | cons p' c' =>
      obtain ⟨k, v⟩ := p
      obtain ⟨k', w⟩ := p'
      obtain ⟨hk, htail⟩ : k = k' ∧ c.map Prod.fst = c'.map Prod.fst := List.cons.inj hkeys
      subst hk
      obtain ⟨hv, hplain⟩ := List.forall_mem_cons.1 hc
      obtain ⟨hw, hplain'⟩ := List.forall_mem_cons.1 hc'
      cases c with
      | nil =>
        obtain rfl := List.map_eq_nil_iff.1 htail.symm
        rw [shownContext_singleton_append, shownContext_singleton_append] at h
        have hvalues := (List.cons.inj (List.append_cancel_left h)).2
        obtain ⟨rfl, -⟩ := Detail.shown_append_inj hv hw hbracket hbracket hvalues
        rfl
      | cons p c =>
        cases c' with
        | nil => cases htail
        | cons p' c' =>
          rw [shownContext_cons_append, shownContext_cons_append] at h
          have hvalues := (List.cons.inj (List.append_cancel_left h)).2
          obtain ⟨rfl, hrest⟩ := Detail.shown_append_inj hv hw hcomma hcomma hvalues
          rw [ih htail hplain hplain' (List.cons.inj (List.cons.inj hrest).2).2]

theorem singleLine_shownContext (hkeys : ∀ p ∈ c, SingleLine p.1.toList)
    (hplain : ∀ p ∈ c, p.2.Plain) : SingleLine (shownContext c).toList := by
  rw [← List.append_nil (shownContext c).toList]
  induction c with
  | nil => decide
  | cons p c ih =>
    obtain ⟨k, v⟩ := p
    obtain ⟨hk, hkeys⟩ := List.forall_mem_cons.1 hkeys
    obtain ⟨hv, hplain⟩ := List.forall_mem_cons.1 hplain
    have hvalue := Detail.singleLine_shown hv
    cases c with
    | nil =>
      rw [shownContext_singleton_append]
      exact hk.append (List.forall_mem_cons.2 ⟨rfl, hvalue.append nofun⟩)
    | cons p c =>
      rw [shownContext_cons_append]
      refine hk.append (List.forall_mem_cons.2 ⟨rfl, hvalue.append ?_⟩)
      exact List.forall_mem_cons.2 ⟨rfl, List.forall_mem_cons.2 ⟨rfl, ih hkeys hplain⟩⟩

/-! ## Errors of a scrape -/

/-- The keys of all contexts. -/
def contextKeys : List String :=
  ["url", "reason", "status_code", "anchor_id", "classes", "expected_min", "actual", "expected",
    "field", "text"]

theorem toList_append_four (a b c d : String) :
    (a ++ b ++ c ++ d).toList = a.toList ++ (b.toList ++ (c.toList ++ d.toList)) := by
  simp only [String.toList_append, List.append_assoc]

theorem toList_append_five (a b c d e : String) :
    (a ++ b ++ c ++ d ++ e).toList =
      a.toList ++ (b.toList ++ (c.toList ++ (d.toList ++ e.toList))) := by
  simp only [String.toList_append, List.append_assoc]

theorem toList_message_columnCount (expected actual : Int) :
    (message (.columnCount expected actual)).toList =
      "Expected ".toList ++ (signed expected ++ (" columns, got ".toList ++ signed actual)) := by
  rw [← toList_decimal, ← toList_decimal]
  exact toList_append_four ..

theorem toList_message_notANumber (field text : String) :
    (message (.notANumber field text)).toList = "Expected number for ".toList ++
      (field.toList ++ (", got '".toList ++ (text.toList ++ "'".toList))) :=
  toList_append_five ..

/-- An error with the data that a scrape can put into it.  That is anything, but the classes and the
fields are those of the program, and the text of a cell has no line boundary in it. -/
inductive Scraped : ScrapeError → Prop
  | fetch (url reason : String) : Scraped (.fetch url reason)
  | badStatus (status : Int) (url : String) : Scraped (.badStatus status url)
  | rejectedMarkup (reason : String) : Scraped (.rejectedMarkup reason)
  | anchorNotFound (anchor : String) : Scraped (.anchorNotFound anchor)
  | headerNotFound (anchor : String) : Scraped (.headerNotFound anchor Section.headerClasses)
  | tableNotFound : Scraped (.tableNotFound Section.tableClasses)
  | tableTooSmall (least actual : Int) : Scraped (.tableTooSmall least actual)
  | columnCount (expected actual : Int) : Scraped (.columnCount expected actual)
  | notANumber {field text : String} (hfield : field ∈ Record.numberFields)
    (htext : SingleLine text.toList) : Scraped (.notANumber field text)
  | emptyField : Scraped (.emptyField "Name")

variable {e e' : ScrapeError} {field t : String}

namespace Scraped

theorem plain (h : Scraped e) : ∀ p ∈ e.context, p.2.Plain := by
  cases h <;> simp [context, Detail.Plain]

theorem key_mem (h : Scraped e) : ∀ p ∈ e.context, p.1 ∈ contextKeys := by
  cases h <;> simp [context, contextKeys]

theorem toList_text (h : Scraped e) : e.text.toList =
    e.message.toList ++ (" (".toList ++ ((shownContext e.context).toList ++ [')'])) := by
  have hne : e.context ≠ [] := by cases h <;> exact List.cons_ne_nil _ _
  rw [text_of_context_ne_nil hne]
  simp only [String.toList_append, List.append_assoc]
  rfl

theorem singleLine_message (h : Scraped e) : SingleLine e.message.toList := by
  cases h with
  | columnCount expected actual =>
    rw [toList_message_columnCount]
    have hstart : SingleLine "Expected ".toList := by decide +kernel
    have hbetween : SingleLine " columns, got ".toList := by decide +kernel
    have hnumber (i : Int) := singleLine_of_not_blank (not_blank_signed i)
    exact hstart.append ((hnumber _).append (hbetween.append (hnumber _)))
  | @notANumber field text hfield htext =>
    rw [toList_message_notANumber]
    have hfields : ∀ field ∈ Record.numberFields, SingleLine field.toList := by decide +kernel
    have hstart : SingleLine "Expected number for ".toList := by decide +kernel
    have hbetween : SingleLine ", got '".toList := by decide +kernel
    have hstop : SingleLine "'".toList := by decide +kernel
    exact hstart.append ((hfields field hfield).append (hbetween.append (htext.append hstop)))
  | _ => unfold message; dsimp only; decide +kernel

end Scraped

/-! ## Kinds -/

/-- How the texts of each kind start.  Some of the kinds before the last one start like that too. -/
def openings : List String :=
  ["Failed", "Bad", "Could", "No", "Malformed HTML: no a", "Malformed HTML: no s",
    "Malformed HTML: c", "Expected n", "Expected a", "Expected "]

/-- The place of the first opening that a text starts with. -/
def openingOf (s : List Char) : Nat := openings.findIdx fun p ↦ p.toList.isPrefixOf s

/-- The place of the opening of an error's kind. -/
def opening : ScrapeError → Nat
  | .fetch .. => 0
  | .badStatus .. => 1
  | .rejectedMarkup _ => 2
  | .anchorNotFound _ => 3
  | .headerNotFound .. => 4
  | .tableNotFound _ => 5
  | .tableTooSmall .. => 6
  | .notANumber .. => 7
  | .emptyField _ => 8
  | .columnCount .. => 9
  | .other .. => 10

theorem openingOf_expected {a : Char} (ha : inSigned a = true) (s : List Char) :
    openingOf ("Expected ".toList ++ a :: s) = 9 := by
  have hletters : ('n' == a) = false ∧ ('a' == a) = false := by
    constructor <;> refine beq_eq_false_iff_ne.2 ?_ <;> rintro rfl <;> cases ha
  simp [openingOf, openings, List.findIdx_cons, List.isPrefixOf, hletters]

theorem Scraped.openingOf_text (h : Scraped e) : openingOf e.text.toList = e.opening := by
  rw [h.toList_text]
  cases h with
  | columnCount expected actual =>
    rw [toList_message_columnCount]
    obtain ⟨a, s, hs⟩ := List.exists_cons_of_ne_nil (signed_ne_nil expected)
    have ha := inSigned_of_mem_signed a (hs ▸ List.mem_cons_self)
    rw [hs, List.append_assoc]
    exact openingOf_expected ha _
  | notANumber =>
    rw [toList_message_notANumber]
    rfl
  | _ => unfold message; dsimp only; rfl

/-- Two errors of one kind.  The classes are the same, and so is the field that is empty. -/
inductive Alike : ScrapeError → ScrapeError → Prop
  | fetch (u r u' r' : String) : Alike (.fetch u r) (.fetch u' r')
  | badStatus (n : Int) (u : String) (n' : Int) (u' : String) :
    Alike (.badStatus n u) (.badStatus n' u')
  | rejectedMarkup (r r' : String) : Alike (.rejectedMarkup r) (.rejectedMarkup r')
  | anchorNotFound (a a' : String) : Alike (.anchorNotFound a) (.anchorNotFound a')
  | headerNotFound (a a' : String) (cs : List String) :
    Alike (.headerNotFound a cs) (.headerNotFound a' cs)
  | tableNotFound (cs : List String) : Alike (.tableNotFound cs) (.tableNotFound cs)
  | tableTooSmall (l a l' a' : Int) : Alike (.tableTooSmall l a) (.tableTooSmall l' a')
  | columnCount (x a x' a' : Int) : Alike (.columnCount x a) (.columnCount x' a')
  | notANumber (f t f' t' : String) : Alike (.notANumber f t) (.notANumber f' t')
  | emptyField (f : String) : Alike (.emptyField f) (.emptyField f)

theorem Scraped.alike (he : Scraped e) (he' : Scraped e') (h : e.opening = e'.opening) :
    Alike e e' := by
  cases he <;> cases he' <;> first | constructor | cases h

namespace Alike

theorem keys_eq (h : Alike e e') : e.context.map Prod.fst = e'.context.map Prod.fst := by
  cases h <;> rfl

theorem eq_of_context_eq (h : Alike e e') (hcontext : e.context = e'.context) : e = e' := by
  cases h <;> simp_all [context]

end Alike

/-- What stands between the text of a cell and the quoted form of it. -/
def betweenTexts (field : String) : List Char :=
  "'".toList ++ (" (".toList ++
    ("field".toList ++ '=' :: (Quoted.encode field.toList ++ ", text=".toList)))

theorem toList_text_notANumber (h : Scraped (.notANumber field t)) :
    (text (.notANumber field t)).toList = "Expected number for ".toList ++ (field.toList ++
      (", got '".toList ++
        (t.toList ++ (betweenTexts field ++ (Quoted.encode t.toList ++ [')']))))) := by
  rw [h.toList_text, toList_message_notANumber]
  simp only [context, shownContext_cons_append, shownContext_singleton_append,
    Detail.toList_shown_text, betweenTexts, List.append_assoc, List.cons_append]
  rfl

theorem columnCount_inj {x a x' a' : Int} {s s' : List Char}
    (h : (message (.columnCount x a)).toList ++ (" (".toList ++ s) =
      (message (.columnCount x' a')).toList ++ (" (".toList ++ s')) : x = x' ∧ a = a' := by
  rw [toList_message_columnCount, toList_message_columnCount, List.append_assoc, List.append_assoc,
    List.append_assoc, List.append_assoc, List.append_assoc, List.append_assoc] at h
  have hnumbers := List.append_cancel_left h
  have hspace {s : List Char} : ∀ c ∈ (" columns, got ".toList ++ s).head?, inSigned c = false := by
    rintro _ ⟨⟩; rfl
  have hstop {s : List Char} : ∀ c ∈ (" (".toList ++ s).head?, inSigned c = false := by
    rintro _ ⟨⟩; rfl
  obtain ⟨hx, hrest⟩ := signed_append_inj hspace hspace hnumbers
  obtain ⟨ha, -⟩ := signed_append_inj hstop hstop (List.append_cancel_left hrest)
  exact ⟨hx, ha⟩

theorem field_of_notANumber (h : Scraped (.notANumber field t)) :
    ∀ c ∈ field.toList, (c != ',') = true := by
  have hfields : ∀ field ∈ Record.numberFields, field.toList.all (· != ',') = true := by decide
  cases h with
  | notANumber hfield => exact List.all_eq_true.1 (hfields _ hfield)

/-- The field ends at the first comma, and the text of the cell where its quoted form begins to fit
into the rest. -/
theorem notANumber_inj {field' t' : String} (h : Scraped (.notANumber field t))
    (h' : Scraped (.notANumber field' t'))
    (htext : (text (.notANumber field t)).toList = (text (.notANumber field' t')).toList) :
    field = field' ∧ t = t' := by
  rw [toList_text_notANumber h, toList_text_notANumber h'] at htext
  have hcomma {s : List Char} : ∀ c ∈ (", got '".toList ++ s).head?, (c != ',') = false := by
    rintro _ ⟨⟩; rfl
  obtain ⟨hfield, hrest⟩ := run_append_inj (field_of_notANumber h) hcomma (field_of_notANumber h')
    hcomma (List.append_cancel_left htext)
  obtain rfl := String.toList_injective hfield
  exact ⟨rfl, String.toList_injective (Quoted.append_encode_inj (List.append_cancel_left hrest))⟩

/-- Errors of one kind have one message, even if that tells of their data. -/
theorem Alike.message_eq (h : Alike e e') (he : Scraped e) (he' : Scraped e')
    (htext : e.text.toList = e'.text.toList) : e.message = e'.message := by
  cases h with
  | columnCount x a x' a' =>
    rw [he.toList_text, he'.toList_text] at htext
    obtain ⟨rfl, rfl⟩ := columnCount_inj htext
    rfl
  | notANumber f t f' t' =>
    obtain ⟨rfl, rfl⟩ := notANumber_inj he he' htext
    rfl
  | _ => rfl

/-- The text of an error determines the error. -/
theorem Scraped.eq_of_text_eq (he : Scraped e) (he' : Scraped e') (h : e.text = e'.text) :
    e = e' := by
  have hlist : e.text.toList = e'.text.toList := by rw [h]
  have halike : Alike e e' := he.alike he' <| by
    rw [← he.openingOf_text, ← he'.openingOf_text, hlist]
  refine halike.eq_of_context_eq (shownContext_inj halike.keys_eq he.plain he'.plain ?_)
  have hmessage := halike.message_eq he he' hlist
  rw [he.toList_text, he'.toList_text, hmessage] at hlist
  exact List.append_cancel_left (List.append_cancel_left hlist)

/-- The text of an error is one line of a log, whatever the error tells of. -/
theorem Scraped.singleLine_text (h : Scraped e) : SingleLine e.text.toList := by
  have hkeys : ∀ k ∈ contextKeys, SingleLine k.toList := by decide +kernel
  have hopen : SingleLine " (".toList := by decide +kernel
  have hcontext : SingleLine (shownContext e.context).toList :=
    singleLine_shownContext (fun p hp ↦ hkeys _ (h.key_mem p hp)) h.plain
  rw [h.toList_text]
  exact h.singleLine_message.append (hopen.append (hcontext.append (by decide +kernel)))

/-! ## Errors that are raised -/

/-- The errors that come of fetching a page, of reading markup, of looking for the section of any
anchor in any document, of reading any row of one, and of scraping a page. -/
inductive Raised : ScrapeError → Prop
  | fetching {c : Http.Client} {url : String} {script : Http.Script} {e : ScrapeError}
    (h : (Page.fetch c url script).logged.result = .error (.declared e)) : Raised e
  | fetchingOwn {s : Settings} {url : String} {script : Http.Script} {e : ScrapeError}
    (h : (Page.fetchOwn s url script).logged.result = .error (.declared e)) : Raised e
  | parsing {page : String} {e : ScrapeError}
    (h : Document.ofMarkup page = .error (.declared e)) : Raised e
  | locating {d : Document} {anchor : String} {e : ScrapeError}
    (h : Section.locate d anchor = .error (.declared e)) : Raised e
  | reading {d : Document} {row : Handle} {e : ScrapeError}
    (h : Record.ofRow d row = .error (.declared e)) : Raised e
  | scraping {page : String} {e : ScrapeError}
    (h : (Catalog.ofPage page).result = .error (.declared e)) : Raised e

theorem declaresOnly_fetch (c : Http.Client) (url : String) (script : Http.Script) :
    DeclaresOnly Scraped (Page.fetch c url script).logged.result :=
  Page.declaresOnly_fetch (fun _ ↦ .fetch ..) (fun _ ↦ .badStatus ..) c script

theorem declaresOnly_ofRow (d : Document) (row : Handle) :
    DeclaresOnly Scraped (Record.ofRow d row) :=
  Record.declaresOnly_ofRow (fun _ ↦ .columnCount ..) .emptyField
    (fun _ hfield text ↦ .notANumber hfield (spaced_oneLine text).singleLine) d row

theorem declaresOnly_locate (d : Document) (anchor : String) :
    DeclaresOnly Scraped (Section.locate d anchor) :=
  Section.declaresOnly_locate d (.anchorNotFound _) (.headerNotFound _) .tableNotFound

theorem declaresOnly_ofPage (page : String) :
    DeclaresOnly Scraped (Catalog.ofPage page).result := by
  rw [Catalog.result_ofPage]
  refine (Document.declaresOnly_ofMarkup .rejectedMarkup page).bind fun d ↦ ?_
  rw [Catalog.result_ofDocument]
  refine ((declaresOnly_locate d _).bind ?_).bind fun rs ↦ .mapM (declaresOnly_ofRow d) _
  exact Catalog.declaresOnly_rows (fun _ ↦ .tableTooSmall ..) d

theorem Raised.scraped (h : Raised e) : Scraped e := by
  cases h with
  | fetching h => exact declaresOnly_fetch _ _ _ e h
  | @fetchingOwn s url script _ h =>
    rw [Page.fetchOwn] at h
    cases hc : Http.Client.ofSettings s with
    | error f => rw [hc] at h; cases h
    | ok c => rw [hc] at h; exact declaresOnly_fetch c url script e h
  | parsing h => exact Document.declaresOnly_ofMarkup .rejectedMarkup _ e h
  | locating h => exact declaresOnly_locate _ _ e h
  | reading h => exact declaresOnly_ofRow _ _ e h
  | scraping h => exact declaresOnly_ofPage _ e h

/-- An error that is raised has one line for its text, and no other error that is raised has that
line: it tells the kind of the error and all of its data. -/
theorem text_identifies (he : Raised e) (he' : Raised e') :
    SingleLine e.text.toList ∧ (e.text = e'.text → e = e') :=
  ⟨he.scraped.singleLine_text, he.scraped.eq_of_text_eq he'.scraped⟩

/-- An anchor with a line feed in it, and one with the letters of its escape. -/
theorem text_identifies_lineFeed :
    SingleLine (text (.anchorNotFound "a\nb")).toList ∧
      text (.anchorNotFound "a\nb") ≠ text (.anchorNotFound "a\\nb") := by
  have hraised (anchor : String) : Raised (.anchorNotFound anchor) :=
    .locating (d := ⟨#[{ kind := .document }]⟩) rfl
  obtain ⟨hline, hsame⟩ := text_identifies (hraised "a\nb") (hraised "a\\nb")
  exact ⟨hline, fun htext ↦ absurd (anchorNotFound.inj (hsame htext)) (by decide)⟩

end ScrapeError

end InstanceCatalog
