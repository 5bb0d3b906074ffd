import CommandBuffer.Outcome

/-! # What a success establishes

A stage of the pipeline is a sequence of steps that may fail. These facts take a
successful stage apart into its successful steps, so that theorems can be stated
about the stages as they run.
-/

namespace CommandBuffer

namespace Success

variable {ε ε' α β : Type}

/-- A sequence succeeds exactly when each of its steps does. -/
theorem bind_eq_ok {step : Except ε α} {next : α → Except ε β} {result : β} :
    (step >>= next) = .ok result ↔ ∃ value, step = .ok value ∧ next value = .ok result := by
  cases step <;> simp [bind, Except.bind]

/-- A sequence fails where one of its steps does. -/
theorem bind_eq_error {step : Except ε α} {next : α → Except ε β} {error : ε} :
    (step >>= next) = .error error ↔
      step = .error error ∨ ∃ value, step = .ok value ∧ next value = .error error := by
  cases step <;> simp [bind, Except.bind]

@[simp] theorem pure_eq_ok {value result : α} :
    (pure value : Except ε α) = .ok result ↔ value = result := by
  simp [pure, Except.pure]

@[simp] theorem throw_ne_ok {error : ε} {result : α} :
    (throw error : Except ε α) ≠ .ok result := by
  simp [throw, throwThe, MonadExceptOf.throw]

/-- Renaming errors changes no success. -/
@[simp] theorem mapError_eq_ok {step : Except ε α} {rename : ε → ε'} {result : α} :
    step.mapError rename = .ok result ↔ step = .ok result := by
  cases step with
  | error error =>
    constructor
    · intro h
      cases h
    · intro h
      cases h
  | ok value =>
    constructor
    · intro h
      cases h
      rfl
    · intro h
      cases h
      rfl

theorem mapError_eq_error {step : Except ε α} {rename : ε → ε'} {error : ε'} :
    step.mapError rename = .error error ↔ ∃ cause, step = .error cause ∧ rename cause = error := by
  cases step with
  | error cause =>
    constructor
    · exact fun h => ⟨cause, rfl, Except.error.inj h⟩
    · rintro ⟨_, ⟨⟩, hrenamed⟩
      exact congrArg Except.error hrenamed
  | ok value =>
    constructor
    · intro h
      cases h
    · rintro ⟨_, ⟨⟩, _⟩

theorem map_eq_ok {step : Except ε α} {f : α → β} {result : β} :
    step.map f = .ok result ↔ ∃ value, step = .ok value ∧ f value = result := by
  cases step <;> simp [Except.map]

theorem exists_of_isOk {outcome : Except ε α} (h : outcome.isOk = true) :
    ∃ value, outcome = .ok value := by
  cases outcome with
  | error error => cases h
  | ok value => exact ⟨value, rfl⟩

/-- Every value of a successful traversal comes from one of the items. -/
theorem exists_of_mem_mapM {f : α → Except ε β} {items : List α} {values : List β}
    (h : items.mapM f = .ok values) {value : β} (hvalue : value ∈ values) :
    ∃ item ∈ items, f item = .ok value := by
  induction items generalizing values with
  | nil =>
    rw [List.mapM_nil, pure_eq_ok] at h
    subst h
    cases hvalue
  | cons item items ih =>
    rw [List.mapM_cons, bind_eq_ok] at h
    rcases h with ⟨first, hfirst, h⟩
    rw [bind_eq_ok] at h
    rcases h with ⟨others, hothers, h⟩
    rw [pure_eq_ok] at h
    subst h
    rcases List.mem_cons.mp hvalue with rfl | hmem
    · exact ⟨item, List.mem_cons_self, hfirst⟩
    · obtain ⟨source, hsource, hsourceValue⟩ := ih hothers hmem
      exact ⟨source, List.mem_cons_of_mem _ hsource, hsourceValue⟩

/-- Every item of a successful traversal has its value. -/
theorem exists_value_of_mapM {f : α → Except ε β} {items : List α} {values : List β}
    (h : items.mapM f = .ok values) {item : α} (hitem : item ∈ items) :
    ∃ value ∈ values, f item = .ok value := by
  induction items generalizing values with
  | nil => cases hitem
  | cons first items ih =>
    rw [List.mapM_cons, bind_eq_ok] at h
    obtain ⟨value, hvalue, h⟩ := h
    obtain ⟨others, hothers, h⟩ := bind_eq_ok.mp h
    rw [pure_eq_ok] at h
    subst h
    rcases List.mem_cons.mp hitem with rfl | hmem
    · exact ⟨value, List.mem_cons_self, hvalue⟩
    · obtain ⟨found, hfound, hrun⟩ := ih hothers hmem
      exact ⟨found, List.mem_cons_of_mem _ hfound, hrun⟩

end Success

namespace Outcome

variable {ε α : Type}

theorem mem_values {outcomes : List (Except ε α)} {value : α} :
    value ∈ values outcomes ↔ .ok value ∈ outcomes := by
  induction outcomes with
  | nil => simp [values]
  | cons outcome rest ih => cases outcome <;> simp [values, ih]

/-- What is collected are the values. -/
theorem values_of_collect {outcomes : List (Except ε α)} {collected : List α}
    (h : collect outcomes = .ok collected) : collected = values outcomes := by
  unfold collect at h
  split at h
  · exact (Except.ok.inj h).symm
  · cases h

@[simp] theorem values_append (first second : List (Except ε α)) :
    values (first ++ second) = values first ++ values second := by
  induction first with
  | nil => rfl
  | cons outcome rest ih => cases outcome <;> simp [values, ih]

/-- A stage succeeds exactly if every item does. -/
theorem collect_eq_ok_iff {outcomes : List (Except ε α)} {collected : List α} :
    collect outcomes = .ok collected ↔ outcomes = collected.map .ok := by
  constructor
  · intro h
    have herrors : errors outcomes = [] := by
      unfold collect at h
      split at h
      · assumption
      · cases h
    rw [values_of_collect h]
    clear h
    induction outcomes with
    | nil => rfl
    | cons outcome rest ih =>
      cases outcome with
      | error error => cases herrors
      | ok value => rw [values, List.map_cons, ← ih herrors]
  · rintro rfl
    exact collect_map_ok collected

/-- A value that every successful outcome determines is found in order among the values. -/
theorem map_eq_of_map_eq {β γ : Type} {run : β → Except ε α} {items : List β} {collected : List α}
    (h : items.map run = collected.map .ok) {f : α → γ} {g : β → γ}
    (hf : ∀ item value, run item = .ok value → f value = g item) :
    collected.map f = items.map g := by
  induction items generalizing collected with
  | nil => rw [List.map_eq_nil_iff.mp h.symm]; rfl
  | cons item items ih =>
    cases collected with
    | nil => cases h
    | cons value collected =>
      obtain ⟨hfirst, hrest⟩ := List.cons.inj h
      rw [List.map_cons, List.map_cons, hf item value hfirst, ih hrest]

/-- If every item succeeds, then all do at once. -/
theorem exists_of_forall_ok {β : Type} {run : β → Except ε α} {items : List β}
    (h : ∀ item ∈ items, ∃ value, run item = .ok value) :
    ∃ collected : List α, items.map run = collected.map .ok := by
  induction items with
  | nil => exact ⟨[], rfl⟩
  | cons item items ih =>
    obtain ⟨value, hvalue⟩ := h item List.mem_cons_self
    obtain ⟨collected, hcollected⟩ := ih fun other hother => h other (List.mem_cons_of_mem _ hother)
    exact ⟨value :: collected, by rw [List.map_cons, List.map_cons, hvalue, hcollected]⟩

theorem values_of_collectAll {outcomes : List (Except (List ε) α)} {collected : List α}
    (h : collectAll outcomes = .ok collected) : collected = values outcomes := by
  unfold collectAll at h
  split at h
  · exact (Except.ok.inj h).symm
  · cases h

/-- If every failure has a reason, then a stage succeeds only if every item does. -/
theorem eq_map_ok_of_collectAll {outcomes : List (Except (List ε) α)} {collected : List α}
    (hreason : ∀ errors, .error errors ∈ outcomes → errors ≠ [])
    (h : collectAll outcomes = .ok collected) : outcomes = collected.map .ok := by
  have hnone : (errors outcomes).flatten = [] := by
    unfold collectAll at h
    split at h
    · assumption
    · cases h
  rw [values_of_collectAll h]
  clear h
  induction outcomes with
  | nil => rfl
  | cons outcome rest ih =>
    cases outcome with
    | error found =>
      rw [errors, List.flatten_cons, List.append_eq_nil_iff] at hnone
      exact absurd hnone.1 (hreason found List.mem_cons_self)
    | ok value =>
      rw [values, List.map_cons,
        ← ih (fun found hfound => hreason found (List.mem_cons_of_mem _ hfound)) hnone]

end Outcome
end CommandBuffer
