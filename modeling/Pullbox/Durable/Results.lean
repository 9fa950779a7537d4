import Mathlib.Data.List.Forall2

/-! # What an accepted result was computed from -/

namespace Durable

open List

variable {ε φ α β : Type} {result : Except ε α}

/-- An accepted result was computed from an accepted one. -/
theorem bind_eq_ok {next : α → Except ε β} {after : β} :
    (result >>= next) = .ok after ↔ ∃ value, result = .ok value ∧ next value = .ok after := by
  constructor
  · intro accepted
    cases result with
    | ok value => exact ⟨value, rfl, accepted⟩
    | error error => cases accepted
  · rintro ⟨value, rfl, accepted⟩
    exact accepted

/-- The value that an accepted result was mapped from. -/
theorem of_map_ok {map : α → β} {after : β} (accepted : result.map map = .ok after) :
    ∃ value, result = .ok value ∧ map value = after := by
  cases result with
  | ok value => exact ⟨value, rfl, Except.ok.inj accepted⟩
  | error error => cases accepted

/-- A renamed error leaves the accepted results. -/
theorem of_mapError_ok {map : ε → φ} {value : α} (accepted : result.mapError map = .ok value) :
    result = .ok value := by
  cases result with
  | ok other => exact congrArg Except.ok (Except.ok.inj accepted)
  | error error => cases accepted

/-! ### Lists of results -/

theorem exists_left_of_forall₂ {relation : α → β → Prop} {items : List α} {results : List β}
    {result : β} (each : List.Forall₂ relation items results) (inside : result ∈ results) :
    ∃ item ∈ items, relation item result := by
  induction each with
  | nil => cases inside
  | @cons first head rest others found _ ih =>
    rcases mem_cons.1 inside with rfl | later
    · exact ⟨first, mem_cons_self, found⟩
    · obtain ⟨other, listed, same⟩ := ih later
      exact ⟨other, mem_cons_of_mem _ listed, same⟩

/-- Every item of a list has an accepted result. -/
theorem mapM_eq_ok_iff {f : α → Except ε β} {items : List α} {results : List β} :
    items.mapM f = .ok results ↔
      List.Forall₂ (fun item result => f item = .ok result) items results := by
  induction items generalizing results with
  | nil =>
    rw [mapM_nil, forall₂_nil_left_iff]
    exact ⟨fun same => (Except.ok.inj same).symm, fun same => same ▸ rfl⟩
  | cons first rest ih =>
    rw [mapM_cons, forall₂_cons_left_iff]
    constructor
    · intro mapped
      obtain ⟨result, found, mapped⟩ := bind_eq_ok.1 mapped
      obtain ⟨others, known, same⟩ := bind_eq_ok.1 mapped
      exact ⟨result, others, found, ih.1 known, (Except.ok.inj same).symm⟩
    · rintro ⟨result, others, found, known, rfl⟩
      rw [found, ih.2 known]
      rfl

/-! ### Lists of optional results -/

section Lists

variable {f : α → Option β} {g : φ → α → β → φ} {items : List α} {item : α} {results : List β}

/-- All items have results. -/
theorem mapM_eq_some_iff :
    items.mapM f = some results ↔
      List.Forall₂ (fun item result => f item = some result) items results := by
  induction items generalizing results with
  | nil =>
    rw [mapM_nil, forall₂_nil_left_iff]
    constructor
    · rintro ⟨⟩
      rfl
    · rintro rfl
      rfl
  | cons first rest ih =>
    rw [mapM_cons, forall₂_cons_left_iff]
    constructor
    · intro mapped
      obtain ⟨result, found, mapped⟩ := Option.bind_eq_some_iff.1 mapped
      obtain ⟨others, known, same⟩ := Option.bind_eq_some_iff.1 mapped
      cases same
      exact ⟨result, others, found, ih.1 known, rfl⟩
    · rintro ⟨result, others, found, mapped, rfl⟩
      rw [found, ih.2 mapped]
      rfl

/-- Some item has no result. -/
theorem mapM_eq_none_iff : items.mapM f = none ↔ ∃ item ∈ items, f item = none := by
  induction items with
  | nil => simp
  | cons first rest ih =>
    rw [mapM_cons, exists_mem_cons_iff, ← ih]
    cases f first with
    | none => simp
    | some result => cases rest.mapM f <;> simp

theorem result_of_mapM (mapped : items.mapM f = some results) (inside : item ∈ items) :
    ∃ result ∈ results, f item = some result := by
  have known := (mapM_eq_some_iff.1 mapped).flip
  obtain ⟨result, listed, found⟩ := exists_left_of_forall₂ known inside
  exact ⟨result, listed, found⟩

theorem item_of_mapM {result : β} (mapped : items.mapM f = some results)
    (inside : result ∈ results) : ∃ item ∈ items, f item = some result := by
  have known := mapM_eq_some_iff.1 mapped
  obtain ⟨item, listed, found⟩ := exists_left_of_forall₂ known inside
  exact ⟨item, listed, found⟩

theorem mapM_congr {other : α → Option β} (same : ∀ item ∈ items, f item = other item) :
    items.mapM f = items.mapM other := by
  induction items with
  | nil => rfl
  | cons first rest ih =>
    rw [mapM_cons, mapM_cons, same first mem_cons_self,
      ih fun item inside => same item (mem_cons_of_mem _ inside)]

/-- Taking up results one after the other is taking them up when all are there. -/
theorem foldlM_map_eq (start : φ) :
    items.foldlM (fun before item => (f item).map (g before item)) start =
      (items.mapM f).map fun results =>
        (items.zip results).foldl (fun before pair => g before pair.1 pair.2) start := by
  induction items generalizing start with
  | nil => rfl
  | cons first rest ih =>
    rw [foldlM_cons, mapM_cons]
    cases f first with
    | none => rfl
    | some result =>
      refine (ih (g start first result)).trans ?_
      cases rest.mapM f <;> rfl

/-- Two items with one result make two of it. -/
theorem two_le_count_filterMap [DecidableEq β] {first second : α} {result : β}
    (one : first ∈ items) (two : second ∈ items) (distinct : first ≠ second)
    (found : f first = some result) (other : f second = some result) :
    2 ≤ (items.filterMap f).count result := by
  induction items with
  | nil => cases one
  | cons head rest ih =>
    have among {item : α} (inside : item ∈ rest) (known : f item = some result) :
        1 ≤ (rest.filterMap f).count result :=
      one_le_count_iff.2 (mem_filterMap.2 ⟨item, inside, known⟩)
    rcases mem_cons.1 one with rfl | oneLater <;>
      rcases mem_cons.1 two with rfl | twoLater
    · exact absurd rfl distinct
    · rw [filterMap_cons_some found, count_cons_self]
      have := among twoLater other
      omega
    · rw [filterMap_cons_some other, count_cons_self]
      have := among oneLater found
      omega
    · rw [filterMap_cons]
      split
      · exact ih oneLater twoLater
      · exact Nat.le_trans (ih oneLater twoLater) count_le_count_cons

end Lists

end Durable
