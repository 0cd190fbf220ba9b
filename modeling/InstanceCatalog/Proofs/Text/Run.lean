import Mathlib.Data.List.TakeWhile

/-! # Runs of characters

A run of one class that something else follows is taken as a whole and nothing more. -/

namespace InstanceCatalog.Text

variable {α : Type} {p : α → Bool} {run rest : List α}

theorem takeWhile_eq_nil (h : ∀ c ∈ rest.head?, p c = false) : rest.takeWhile p = [] := by
  cases rest with
  | nil => rfl
  | cons c rest => rw [List.takeWhile_cons, h c rfl]; rfl

theorem dropWhile_eq_self (h : ∀ c ∈ rest.head?, p c = false) : rest.dropWhile p = rest := by
  cases rest with
  | nil => rfl
  | cons c rest => rw [List.dropWhile_cons, h c rfl]; rfl

theorem takeWhile_run (hrun : ∀ c ∈ run, p c = true) (hrest : ∀ c ∈ rest.head?, p c = false) :
    (run ++ rest).takeWhile p = run := by
  rw [List.takeWhile_append_of_pos hrun, takeWhile_eq_nil hrest, List.append_nil]

theorem dropWhile_run (hrun : ∀ c ∈ run, p c = true) (hrest : ∀ c ∈ rest.head?, p c = false) :
    (run ++ rest).dropWhile p = rest := by
  rw [List.dropWhile_append_of_pos hrun, dropWhile_eq_self hrest]

theorem not_mem_takeWhile {c : α} (h : p c = false) (s : List α) : c ∉ s.takeWhile p := fun hc ↦ by
  rw [List.mem_takeWhile_imp hc] at h
  cases h

/-- Where two runs with something else after them are one text, the runs are the same. -/
theorem run_append_inj {run' rest' : List α} (hrun : ∀ c ∈ run, p c = true)
    (hrest : ∀ c ∈ rest.head?, p c = false) (hrun' : ∀ c ∈ run', p c = true)
    (hrest' : ∀ c ∈ rest'.head?, p c = false) (h : run ++ rest = run' ++ rest') :
    run = run' ∧ rest = rest' := by
  have htake := congrArg (List.takeWhile p) h
  have hdrop := congrArg (List.dropWhile p) h
  rw [takeWhile_run hrun hrest, takeWhile_run hrun' hrest'] at htake
  rw [dropWhile_run hrun hrest, dropWhile_run hrun' hrest'] at hdrop
  exact ⟨htake, hdrop⟩

/-- Where two runs with something else before them are one text, the runs are the same. -/
theorem append_run_inj {front front' run' : List α} (hrun : ∀ c ∈ run, p c = true)
    (hfront : ∀ c ∈ front.getLast?, p c = false) (hrun' : ∀ c ∈ run', p c = true)
    (hfront' : ∀ c ∈ front'.getLast?, p c = false) (h : front ++ run = front' ++ run') :
    front = front' ∧ run = run' := by
  have hreverse := congrArg List.reverse h
  rw [List.reverse_append, List.reverse_append] at hreverse
  obtain ⟨hr, hf⟩ := run_append_inj (fun c hc ↦ hrun c (List.mem_reverse.1 hc))
    (by rwa [List.head?_reverse]) (fun c hc ↦ hrun' c (List.mem_reverse.1 hc))
    (by rwa [List.head?_reverse]) hreverse
  exact ⟨List.reverse_inj.1 hf, List.reverse_inj.1 hr⟩

end InstanceCatalog.Text
