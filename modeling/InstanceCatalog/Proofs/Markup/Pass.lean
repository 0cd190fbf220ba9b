import InstanceCatalog.Markup.Reader

/-! # Passes over a text

A pass by its steps, and the places that the two passes over a page come to.  A page cannot be read
exactly if one of these places cannot. -/

namespace InstanceCatalog.Markup

open Step

variable {final : Bool} {raw raw' : Option Raw} {s rest page : List Char} {ts : List Token}
  {e : Failure} {p : Pass}

namespace Pass

theorem run_of_error (h : next final raw s = .error e) : run final raw s = .error e := by
  rw [run]
  split <;> simp_all

theorem run_of_stop (h : next final raw s = .ok (.stop ts rest)) :
    run final raw s = .ok ⟨ts, raw, rest⟩ := by
  rw [run]
  split <;> simp_all

theorem run_of_go (h : next final raw s = .ok (.go ts raw' rest)) :
    run final raw s =
      (run final raw' rest).map fun p ↦ ⟨ts ++ p.tokens, p.raw, p.rest⟩ := by
  rw [run]
  split <;> simp_all

end Pass

/-- The places that the passes over a page come to: the first from its start, and the second from
where the first stops. -/
inductive Reaches (page : List Char) : Bool → Option Raw → List Char → Prop
  | start : Reaches page false none page
  | go {final : Bool} {raw raw' : Option Raw} {s rest : List Char} {ts : List Token} :
    Reaches page final raw s → next final raw s = .ok (.go ts raw' rest) →
      Reaches page final raw' rest
  | again {raw : Option Raw} {s rest : List Char} {ts : List Token} :
    Reaches page false raw s → next false raw s = .ok (.stop ts rest) → Reaches page true raw rest

/-- What a pass that fails at a place, or ends there, says about the passes over the page. -/
def Leads (page : List Char) : Bool → Option Raw → List Char → Prop
  | false, raw, s =>
    (∀ e, Pass.run false raw s = .error e → Pass.run false none page = .error e) ∧
      ∀ p, Pass.run false raw s = .ok p → ∃ ts, Pass.run false none page = .ok ⟨ts, p.raw, p.rest⟩
  | true, raw, s =>
    ∃ first, Pass.run false none page = .ok first ∧
      ∀ e, Pass.run true raw s = .error e → Pass.run true first.raw first.rest = .error e

theorem Reaches.leads (h : Reaches page final raw s) : Leads page final raw s := by
  induction h with
  | start => exact ⟨fun _ h ↦ h, fun p h ↦ ⟨p.tokens, h⟩⟩
  | @go final raw raw' s rest ts _ hstep ih =>
    have hrun := Pass.run_of_go hstep
    cases final with
    | false =>
      obtain ⟨herror, hok⟩ := ih
      refine ⟨fun e he ↦ herror e (by rw [hrun, he]; rfl), fun p hp ↦ ?_⟩
      exact hok ⟨ts ++ p.tokens, p.raw, p.rest⟩ (by rw [hrun, hp]; rfl)
    | true =>
      obtain ⟨first, hfirst, herror⟩ := ih
      exact ⟨first, hfirst, fun e he ↦ herror e (by rw [hrun, he]; rfl)⟩
  | again _ hstep ih =>
    obtain ⟨ts, hfirst⟩ := ih.2 _ (Pass.run_of_stop hstep)
    exact ⟨_, hfirst, fun e he ↦ he⟩

/-- A pass either fails at a place that it comes to, or stops at one. -/
theorem Reaches.run (h : Reaches page final raw s) :
    match Pass.run final raw s with
    | .error e => ∃ raw' s', Reaches page final raw' s' ∧ next final raw' s' = .error e
    | .ok p => ∃ s' ts, Reaches page final p.raw s' ∧
        next final p.raw s' = .ok (.stop ts p.rest) := by
  fun_induction Pass.run final raw s with
  | case1 raw s e hstep => exact ⟨raw, s, h, hstep⟩
  | case2 raw s ts rest hstep => exact ⟨s, ts, h, hstep⟩
  | case3 raw s ts raw' rest hstep hlt ih =>
    have ih := ih (h.go hstep)
    revert ih
    cases Pass.run final raw' rest with
    | error e => exact id
    | ok p => exact id

/-- A page cannot be read exactly if its reader comes to a place that cannot. -/
theorem tokens_eq_error_iff : tokens page = .error e ↔
    ∃ final raw s, Reaches page final raw s ∧ next final raw s = .error e := by
  have hfirst := (Reaches.start : Reaches page false none page).run
  constructor
  · intro h
    rw [tokens] at h
    revert hfirst
    cases hrun : Pass.run false none page with
    | error e' =>
      rw [hrun] at h
      cases h
      rintro ⟨raw, s, hs, hstep⟩
      exact ⟨false, raw, s, hs, hstep⟩
    | ok first =>
      rw [hrun] at h
      rintro ⟨s, ts, hs, hstep⟩
      have hsecond := (hs.again hstep).run
      revert hsecond
      cases hrun' : Pass.run true first.raw first.rest with
      | error e' =>
        simp only [bind, Except.bind, hrun'] at h
        cases h
        rintro ⟨raw, s, hs, hstep⟩
        exact ⟨true, raw, s, hs, hstep⟩
      | ok second =>
        simp only [bind, Except.bind, hrun'] at h
        cases h
  · rintro ⟨final, raw, s, hs, hstep⟩
    have hlead := hs.leads
    rw [tokens]
    cases final with
    | false => rw [hlead.1 e (Pass.run_of_error hstep)]; rfl
    | true =>
      obtain ⟨first, hfirst, herror⟩ := hlead
      rw [hfirst]
      simp only [bind, Except.bind]
      rw [herror e (Pass.run_of_error hstep)]

end InstanceCatalog.Markup
