import InstanceCatalog.Http.Exchange
import Mathlib.Logic.Function.Iterate

/-! # Exchanges and their scripts

Each request of an exchange takes one entry of its script.  A client changes in its cookies alone,
and they make no difference to an exchange unless it ends for want of a scheme in an address. -/

namespace InstanceCatalog.Http

/-- The script after a number of requests. -/
def Script.after (script : Script) (n : Nat) : Script := Script.rest^[n] script

theorem Script.after_add (script : Script) (m n : Nat) :
    script.after (m + n) = (script.after m).after n := by
  rw [after, Nat.add_comm, Function.iterate_add_apply]
  rfl

namespace Client

variable {c c' : Client} {u : Url} {script : Script}

/-- Two clients that differ in their cookies at most. -/
def Alike (c c' : Client) : Prop := ∃ jar, c' = { c with jar }

theorem Alike.refl (c : Client) : Alike c c := ⟨c.jar, rfl⟩

theorem Alike.symm (h : Alike c c') : Alike c' c := by
  obtain ⟨jar, rfl⟩ := h
  exact ⟨c.jar, rfl⟩

theorem Alike.trans {c'' : Client} (h : Alike c c') (h' : Alike c' c'') : Alike c c'' := by
  obtain ⟨jar, rfl⟩ := h
  obtain ⟨jar', rfl⟩ := h'
  exact ⟨jar', rfl⟩

theorem Alike.request_eq (h : Alike c c') (u : Url) : c.request u = c'.request u := by
  obtain ⟨jar, rfl⟩ := h
  rfl

theorem Alike.followsRedirects_eq (h : Alike c c') :
    c.followsRedirects = c'.followsRedirects := by
  obtain ⟨jar, rfl⟩ := h
  rfl

/-- Each request takes one entry of the script. -/
theorem rest_sendWithin (budget : Nat) : (c.sendWithin budget u script).rest =
    script.after (c.sendWithin budget u script).requests.length := by
  fun_induction sendWithin budget c u script with
  | case1 | case2 | case3 | case4 => rfl
  | case5 c u script r c' _ target budget _ sent ih => exact ih

theorem rest_send (text : String) : (c.send text script).rest =
    script.after (c.send text script).requests.length := by
  rw [send]
  split
  · rfl
  · exact rest_sendWithin redirectLimit

/-- Clients that are alike get the same response, or fail in the same way, and stay alike. -/
theorem receive_congr (h : Alike c c') (u : Url) (e : Entry) :
    (∃ t, c.receive u e = .error t ∧ c'.receive u e = .error t) ∨
      ∃ r d d', c.receive u e = .ok (r, d) ∧ c'.receive u e = .ok (r, d') ∧ Alike c d ∧
        Alike c' d' := by
  obtain ⟨jar, rfl⟩ := h
  cases e with
  | fault f => exact .inl ⟨_, rfl, rfl⟩
  | response r =>
    simp only [receive, bind, Except.bind]
    cases read r with
    | error t => exact .inl ⟨t, rfl, rfl⟩
    | ok r =>
      cases u.checkScheme with
      | error m => exact .inl ⟨_, rfl, rfl⟩
      | ok _ => exact .inr ⟨r, _, _, rfl, rfl, ⟨_, rfl⟩, ⟨_, rfl⟩⟩

theorem alike_of_receive {e : Entry} {r : Response} {d : Client} (h : c.receive u e = .ok (r, d)) :
    Alike c d := by
  obtain ⟨t, ht, -⟩ | ⟨r', d', -, hd, -, halike, -⟩ := receive_congr (.refl c) u e
  · cases h.symm.trans ht
  · cases h.symm.trans hd
    exact halike

theorem alike_sendWithin (budget : Nat) : Alike c (c.sendWithin budget u script).client := by
  fun_induction sendWithin budget c u script with
  | case1 budget c => exact .refl c
  | case2 budget c u script r d hreceive => exact alike_of_receive hreceive
  | case3 budget c u script r d hreceive => exact alike_of_receive hreceive
  | case4 c u script r d hreceive => exact alike_of_receive hreceive
  | case5 c u script r d hreceive target budget htarget sent ih =>
    exact (alike_of_receive hreceive).trans ih

theorem alike_send (text : String) : Alike c (c.send text script).client := by
  rw [send]
  split
  · exact .refl c
  · exact alike_sendWithin redirectLimit

/-! ### Cookies

All that cookies change is whether an address without a scheme is refused before it is asked for. -/

/-- What did not end for want of a scheme in an address. -/
def Schemed {α : Type} (x : Except Trouble α) : Prop :=
  ∀ text, x ≠ .error (.mistake (.noScheme text))

theorem checkAddress_cases (u : Url) : (∀ c, checkAddress c u = .ok ()) ∨
    ∃ text, ∀ c, checkAddress c u = .ok () ∨ checkAddress c u = .error (.noScheme text) := by
  have hcheck : u.checkScheme = .ok () ∨ ∃ text, u.checkScheme = .error (.noScheme text) := by
    simp only [Url.checkScheme]
    split
    · exact .inl rfl
    · exact .inr ⟨_, rfl⟩
  simp only [checkAddress]
  obtain h | ⟨text, h⟩ := hcheck
  · refine .inl fun c ↦ ?_
    rw [h]
    split <;> rfl
  · refine .inr ⟨text, fun c ↦ ?_⟩
    rw [h]
    split
    · exact .inl rfl
    · exact .inr rfl

theorem target?_congr {r : Response} (hfollows : c.followsRedirects = c'.followsRedirects)
    (h : Schemed (c.target? u r)) (h' : Schemed (c'.target? u r)) :
    c.target? u r = c'.target? u r := by
  cases hr : r.redirect? with
  | none => simp only [target?, hr]
  | some location =>
    simp only [target?, hr, bind, Except.bind, hfollows] at h h' ⊢
    cases ht : u.redirected location with
    | error t => rfl
    | ok target =>
      simp only [ht] at h h' ⊢
      obtain hall | ⟨text, hall⟩ := checkAddress_cases target
      · rw [hall c, hall c']
      · have hc := (hall c).resolve_right fun hc ↦ h text (by rw [hc]; rfl)
        have hc' := (hall c').resolve_right fun hc' ↦ h' text (by rw [hc']; rfl)
        rw [hc, hc']

theorem address_congr {text : String} (h : Schemed (c.send text script).outcome)
    (h' : Schemed (c'.send text script).outcome) : c.address text = c'.address text := by
  simp only [send, address, bind, Except.bind] at h h' ⊢
  cases hu : Url.meant {} text.toList with
  | error m => rfl
  | ok u =>
    simp only [hu] at h h' ⊢
    obtain hall | ⟨text, hall⟩ := checkAddress_cases u
    · rw [hall c, hall c']
    · have hc := (hall c).resolve_right fun hc ↦ h text (by rw [hc])
      have hc' := (hall c').resolve_right fun hc' ↦ h' text (by rw [hc'])
      rw [hc, hc']

theorem sendWithin_of_error {budget : Nat} {t : Trouble}
    (h : c.receive u script.head = .error t) :
    c.sendWithin budget u script = ⟨.error t, [c.request u], c, script.rest⟩ := by
  rw [sendWithin.eq_def]
  simp only [h]

theorem sendWithin_of_ok {budget : Nat} {r : Response} {d : Client}
    (h : c.receive u script.head = .ok (r, d)) : c.sendWithin budget u script =
      match d.target? u r, budget with
      | .error t, _ => ⟨.error t, [d.request u], d, script.rest⟩
      | .ok none, _ => ⟨.ok r, [d.request u], d, script.rest⟩
      | .ok (some _), 0 =>
        ⟨.error (.fault tooManyRedirects), [d.request u], d, script.rest⟩
      | .ok (some target), budget + 1 =>
        let sent := d.sendWithin budget target script.rest
        { sent with requests := d.request u :: sent.requests } := by
  rcases htarget : d.target? u r with t | _ | target
  · rw [sendWithin.eq_def]
    simp only [h, htarget]
  · rw [sendWithin.eq_def]
    simp only [h, htarget]
  · cases budget with
    | zero =>
      rw [sendWithin.eq_def]
      simp only [h, htarget]
    | succ budget =>
      rw [sendWithin.eq_def]
      simp only [h, htarget]

/-- The first request of an exchange comes to the same with other cookies. -/
theorem first_congr {budget : Nat} (hc : Alike c c')
    (h : Schemed (c.sendWithin budget u script).outcome)
    (h' : Schemed (c'.sendWithin budget u script).outcome) :
    (∃ t, c.receive u script.head = .error t ∧ c'.receive u script.head = .error t) ∨
      ∃ r d d', c.receive u script.head = .ok (r, d) ∧ c'.receive u script.head = .ok (r, d') ∧
        Alike d d' ∧ d.target? u r = d'.target? u r := by
  obtain herror | ⟨r, d, d', hd, hd', hcd, hcd'⟩ := receive_congr hc u script.head
  · exact .inl herror
  · have halike : Alike d d' := hcd.symm.trans (hc.trans hcd')
    rw [sendWithin_of_ok hd] at h
    rw [sendWithin_of_ok hd'] at h'
    refine .inr ⟨r, d, d', hd, hd', halike, ?_⟩
    refine target?_congr halike.followsRedirects_eq (fun text ht ↦ ?_) fun text ht ↦ ?_
    · rw [ht] at h
      exact h text rfl
    · rw [ht] at h'
      exact h' text rfl

/-- An exchange ends as it would with other cookies, after the same requests. -/
theorem sendWithin_congr {budget : Nat} (hc : Alike c c')
    (h : Schemed (c.sendWithin budget u script).outcome)
    (h' : Schemed (c'.sendWithin budget u script).outcome) :
    (c.sendWithin budget u script).outcome = (c'.sendWithin budget u script).outcome ∧
      (c.sendWithin budget u script).requests = (c'.sendWithin budget u script).requests := by
  induction budget generalizing c c' u script with
  | zero =>
    obtain ⟨t, ht, ht'⟩ | ⟨r, d, d', hd, hd', hdd', htarget⟩ := first_congr hc h h'
    · rw [sendWithin_of_error ht, sendWithin_of_error ht', hc.request_eq u]
      exact ⟨rfl, rfl⟩
    · rw [sendWithin_of_ok hd, sendWithin_of_ok hd', htarget, hdd'.request_eq u]
      rcases d'.target? u r with _ | _ | _ <;> exact ⟨rfl, rfl⟩
  | succ budget ih =>
    obtain ⟨t, ht, ht'⟩ | ⟨r, d, d', hd, hd', hdd', htarget⟩ := first_congr hc h h'
    · rw [sendWithin_of_error ht, sendWithin_of_error ht', hc.request_eq u]
      exact ⟨rfl, rfl⟩
    · rw [sendWithin_of_ok hd, htarget] at h ⊢
      rw [sendWithin_of_ok hd'] at h' ⊢
      rw [hdd'.request_eq u]
      rcases hnext : d'.target? u r with t | _ | target
      · exact ⟨rfl, rfl⟩
      · exact ⟨rfl, rfl⟩
      · rw [hnext] at h h'
        obtain ⟨houtcome, hrequests⟩ := ih hdd' h h'
        exact ⟨houtcome, congrArg (d'.request u :: ·) hrequests⟩

theorem send_congr {text : String} (hc : Alike c c') (h : Schemed (c.send text script).outcome)
    (h' : Schemed (c'.send text script).outcome) :
    (c.send text script).outcome = (c'.send text script).outcome ∧
      (c.send text script).requests = (c'.send text script).requests := by
  have haddress := address_congr h h'
  rw [send, haddress] at h ⊢
  rw [send] at h' ⊢
  split
  · exact ⟨rfl, rfl⟩
  · rename_i u hu
    rw [hu] at h h'
    exact sendWithin_congr hc h h'

end Client

end InstanceCatalog.Http
