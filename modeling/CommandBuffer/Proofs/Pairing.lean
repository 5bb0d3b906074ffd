import CommandBuffer.Proofs.Outcome
import Mathlib.Data.List.Forall2

/-! # Lists that are related item by item

A traversal that succeeds relates its items to their values. Such relations are put together and
taken apart here.
-/

namespace CommandBuffer.Pairing
open Success

/-- A traversal succeeds with the values of the items, one by one. -/
theorem mapM_eq_ok_iff {ε α β : Type} {f : α → Except ε β} {items : List α} {values : List β} :
    items.mapM f = .ok values ↔ List.Forall₂ (fun item value => f item = .ok value) items values := by
  induction items generalizing values with
  | nil => simp [pure, Except.pure, eq_comm]
  | cons item items ih =>
    simp only [List.mapM_cons, bind_eq_ok, pure_eq_ok, List.forall₂_cons_left_iff, ih]
    constructor
    · rintro ⟨value, hvalue, others, hothers, rfl⟩
      exact ⟨value, others, hvalue, hothers, rfl⟩
    · rintro ⟨value, others, hvalue, hothers, rfl⟩
      exact ⟨value, hvalue, others, hothers, rfl⟩

/-- Values are related through something in between exactly if a list of these relates them. -/
theorem forall₂_exists_iff {α β γ : Type} {first : α → β → Prop} {second : β → γ → Prop}
    {items : List α} {values : List γ} :
    List.Forall₂ (fun item value => ∃ form, first item form ∧ second form value) items values ↔
      ∃ forms, List.Forall₂ first items forms ∧ List.Forall₂ second forms values := by
  constructor
  · intro h
    induction h with
    | nil => exact ⟨[], .nil, .nil⟩
    | cons hpair _ ih =>
      obtain ⟨form, hfirst, hsecond⟩ := hpair
      obtain ⟨forms, hitems, hvalues⟩ := ih
      exact ⟨form :: forms, .cons hfirst hitems, .cons hsecond hvalues⟩
  · rintro ⟨forms, hitems, hvalues⟩
    induction hitems generalizing values with
    | nil =>
      cases hvalues
      exact .nil
    | cons hfirst _ ih =>
      cases hvalues with
      | cons hsecond hrest => exact .cons ⟨_, hfirst, hsecond⟩ (ih hrest)

theorem exists_of_mem_forall₂ {α β : Type} {related : α → β → Prop} {items : List α}
    {values : List β} (h : List.Forall₂ related items values) {value : β} (hvalue : value ∈ values) :
    ∃ item ∈ items, related item value := by
  induction h with
  | nil => cases hvalue
  | cons hpair _ ih =>
    rcases List.mem_cons.mp hvalue with rfl | hrest
    · exact ⟨_, List.mem_cons_self, hpair⟩
    · obtain ⟨item, hitem, hrelated⟩ := ih hrest
      exact ⟨item, List.mem_cons_of_mem _ hitem, hrelated⟩

theorem exists_append_of_forall₂ {α β : Type} {related : α → β → Prop} {first second : List α}
    {values : List β} (h : List.Forall₂ related (first ++ second) values) :
    ∃ front back, values = front ++ back ∧ List.Forall₂ related first front ∧
      List.Forall₂ related second back := by
  induction first generalizing values with
  | nil => exact ⟨[], values, rfl, .nil, h⟩
  | cons item items ih =>
    cases h with
    | cons hpair hrest =>
      obtain ⟨front, back, rfl, hfront, hback⟩ := ih hrest
      exact ⟨_ :: front, back, rfl, .cons hpair hfront, hback⟩

/-- The values of the items of several lists come in blocks, one for each list. -/
theorem exists_blocks_of_forall₂ {α β γ : Type} {related : β → γ → Prop} {items : List α}
    {parts : α → List β} {values : List γ}
    (h : List.Forall₂ related (items.flatMap parts) values) :
    ∃ blocks, values = blocks.flatten ∧
      List.Forall₂ (fun item block => List.Forall₂ related (parts item) block) items blocks := by
  induction items generalizing values with
  | nil =>
    cases h
    exact ⟨[], rfl, .nil⟩
  | cons item items ih =>
    rw [List.flatMap_cons] at h
    obtain ⟨front, back, rfl, hfront, hback⟩ := exists_append_of_forall₂ h
    obtain ⟨blocks, rfl, hblocks⟩ := ih hback
    exact ⟨front :: blocks, rfl, .cons hfront hblocks⟩

/-- What an item determines of its value is the same in all lists of values. -/
theorem map_eq_of_forall₂ {α β γ : Type} {related : α → β → Prop} {f : β → γ}
    (hf : ∀ item value other, related item value → related item other → f value = f other)
    {items : List α} {values others : List β} (h : List.Forall₂ related items values)
    (hothers : List.Forall₂ related items others) : values.map f = others.map f := by
  induction h generalizing others with
  | nil =>
    cases hothers
    rfl
  | cons hpair _ ih =>
    cases hothers with
    | cons hother hrest => rw [List.map_cons, List.map_cons, hf _ _ _ hpair hother, ih hrest]

end CommandBuffer.Pairing
