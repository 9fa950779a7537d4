import Pullbox.Search.Dict

/-!
# A search over coverage states

Items join what they cover. For each coverage that some of the first items reach, the search
keeps one plan: the least by a key among the kept plans that reach it with or without the next
item. A plan that is least at each of its initial parts is kept to the end.
-/

namespace Search

open List

universe u v w

variable {Item : Type u} {Mask : Type v} {Order : Type w} [DecidableEq Mask] [LinearOrder Order]

/-- The plans of one table, by what they cover. -/
abbrev Plans (Mask : Type v) (Item : Type u) : Type (max u v) :=
  Dict Mask (List Item)

variable (rank : List Item → Order) (join : Mask → Mask → Mask) (mask : Item → Mask)

/-- Offer a plan for its coverage to those that were added to the table. -/
def offer (states additions : Plans Mask Item) (item : Item) (entry : Mask × List Item) :
    Plans Mask Item :=
  let combined := join entry.1 (mask item)
  if combined = entry.1 then additions
  else
    let candidate := entry.2 ++ [item]
    match (additions.get combined).orElse fun _ => states.get combined with
    | none => additions.set combined candidate
    | some current =>
      if rank candidate < rank current then additions.set combined candidate else additions

/-- The plans that one more item adds or improves. -/
def additions (states : Plans Mask Item) (item : Item) : Plans Mask Item :=
  states.entries.foldl (fun additions entry => offer rank join mask states additions item entry)
    Dict.empty

/-- The table with one more item. -/
def extend (states : Plans Mask Item) (item : Item) : Plans Mask Item :=
  (additions rank join mask states item).entries.foldl
    (fun states entry => states.improve rank entry.1 entry.2) states

/-- The tables of all items, or the first one that is too large. -/
def search (limit : Nat) : List Item → Plans Mask Item → Plans Mask Item × Bool
  | [], states => (states, false)
  | item :: rest, states =>
    let states := extend rank join mask states item
    if limit < states.entries.length then (states, true) else search limit rest states

/-- What some items cover. -/
def coverFrom (start : Mask) (items : List Item) : Mask :=
  items.foldl (fun covered item => join covered (mask item)) start

variable {rank join mask} {states : Plans Mask Item} {item : Item} {target bottom : Mask}

omit [DecidableEq Mask] in
theorem coverFrom_append {start : Mask} {before after : List Item} :
    coverFrom join mask start (before ++ after) =
      coverFrom join mask (coverFrom join mask start before) after :=
  foldl_append

omit [DecidableEq Mask] in
theorem coverFrom_concat {start : Mask} {before : List Item} :
    coverFrom join mask start (before ++ [item]) =
      join (coverFrom join mask start before) (mask item) :=
  coverFrom_append

/-! ### One item -/

/-- A plan that an item extends to a coverage. -/
def Extends (join : Mask → Mask → Mask) (mask : Item → Mask) (entries : List (Mask × List Item))
    (item : Item) (target : Mask) (plan : List Item) : Prop :=
  ∃ entry ∈ entries, join entry.1 (mask item) ≠ entry.1 ∧ join entry.1 (mask item) = target ∧
    plan = entry.2 ++ [item]

/-- What the additions say about a coverage: the least of the plans that improve its table, if
one does. -/
def Adds (rank : List Item → Order) (current : Option (List Item))
    (candidates : List Item → Prop) : Option (List Item) → Prop
  | none => ∀ plan, candidates plan → ∃ best, current = some best ∧ rank best ≤ rank plan
  | some plan => candidates plan ∧ (∀ other, candidates other → rank plan ≤ rank other) ∧
      ∀ best, current = some best → rank plan < rank best

theorem offer_ne {table : Plans Mask Item} {entry : Mask × List Item}
    (apart : join entry.1 (mask item) ≠ target) :
    (offer rank join mask states table item entry).get target = table.get target := by
  unfold offer
  simp only
  split
  · rfl
  · split
    · exact Dict.get_set_ne (Ne.symm apart)
    · split
      · exact Dict.get_set_ne (Ne.symm apart)
      · rfl

/-- One offer for its coverage. -/
theorem offer_adds {table : Plans Mask Item} {entry : Mask × List Item}
    {candidates wider : List Item → Prop}
    (adds : Adds rank (states.get target) candidates (table.get target))
    (widened : ∀ plan, wider plan ↔ candidates plan ∨
      join entry.1 (mask item) ≠ entry.1 ∧ join entry.1 (mask item) = target ∧
        plan = entry.2 ++ [item]) :
    Adds rank (states.get target) wider
      ((offer rank join mask states table item entry).get target) := by
  by_cases reaches : join entry.1 (mask item) ≠ entry.1 ∧ join entry.1 (mask item) = target
  · obtain ⟨moves, rfl⟩ := reaches
    have added : ∀ plan, wider plan ↔ candidates plan ∨ plan = entry.2 ++ [item] := fun plan => by
      simpa [moves] using widened plan
    unfold offer
    simp only
    rw [if_neg moves]
    cases offered : table.get (join entry.1 (mask item)) with
    | some current =>
      rw [offered] at adds
      obtain ⟨candidate, least, less⟩ := adds
      simp only [Option.orElse_some]
      split
      · rename_i better
        rw [Dict.get_set]
        refine ⟨(added _).2 (.inr rfl), fun other option => ?_, fun best found => ?_⟩
        · rcases (added other).1 option with old | rfl
          · exact le_trans (le_of_lt better) (least other old)
          · exact le_rfl
        · exact lt_trans better (less best found)
      · rename_i worse
        rw [offered]
        refine ⟨(added _).2 (.inl candidate), fun other option => ?_, less⟩
        rcases (added other).1 option with old | rfl
        · exact least other old
        · exact not_lt.1 worse
    | none =>
      rw [offered] at adds
      simp only [Option.orElse_none]
      cases found : states.get (join entry.1 (mask item)) with
      | none =>
        simp only
        rw [Dict.get_set]
        refine ⟨(added _).2 (.inr rfl), fun other option => ?_, fun best known => ?_⟩
        · rcases (added other).1 option with old | rfl
          · obtain ⟨best, known, _⟩ := adds other old
            rw [found] at known
            cases known
          · exact le_rfl
        · cases known
      | some best =>
        simp only
        have covered : ∀ other, candidates other → rank best ≤ rank other := by
          intro other old
          obtain ⟨known, here, least⟩ := adds other old
          rw [found] at here
          exact Option.some.inj here ▸ least
        split
        · rename_i better
          rw [Dict.get_set]
          refine ⟨(added _).2 (.inr rfl), fun other option => ?_, fun known here => ?_⟩
          · rcases (added other).1 option with old | rfl
            · exact le_trans (le_of_lt better) (covered other old)
            · exact le_rfl
          · exact Option.some.inj here ▸ better
        · rename_i worse
          rw [offered]
          intro other option
          refine ⟨best, rfl, ?_⟩
          rcases (added other).1 option with old | rfl
          · exact covered other old
          · exact not_lt.1 worse
  · have same : wider = candidates := by
      funext plan
      refine propext ((widened plan).trans ?_)
      constructor
      · rintro (old | ⟨moves, reached, _⟩)
        · exact old
        · exact absurd ⟨moves, reached⟩ reaches
      · exact .inl
    rw [same]
    by_cases stays : join entry.1 (mask item) = entry.1
    · rw [offer, if_pos stays]
      exact adds
    · rw [offer_ne fun reached => reaches ⟨stays, reached⟩]
      exact adds

/-- All offers of one item. -/
theorem additions_adds :
    Adds rank (states.get target) (Extends join mask states.entries item target)
      ((additions rank join mask states item).get target) := by
  have fold (entries done : List (Mask × List Item)) (table : Plans Mask Item)
      (adds : Adds rank (states.get target) (Extends join mask done item target)
        (table.get target)) :
      Adds rank (states.get target) (Extends join mask (done ++ entries) item target)
        ((entries.foldl (fun additions entry => offer rank join mask states additions item entry)
          table).get target) := by
    induction entries generalizing done table with
    | nil => simpa using adds
    | cons entry rest ih =>
      have next := ih (done ++ [entry]) (offer rank join mask states table item entry)
        (offer_adds adds fun plan => ?_)
      · simpa using next
      · unfold Extends
        constructor
        · rintro ⟨one, inside, extends'⟩
          rcases mem_append.1 inside with old | last
          · exact .inl ⟨one, old, extends'⟩
          · exact .inr (mem_singleton.1 last ▸ extends')
        · rintro (⟨one, inside, extends'⟩ | extends')
          · exact ⟨one, mem_append_left _ inside, extends'⟩
          · exact ⟨entry, mem_append_right _ (mem_singleton.2 rfl), extends'⟩
  have start : Adds rank (states.get target) (Extends join mask [] item target)
      ((Dict.empty : Plans Mask Item).get target) := by
    rw [Dict.get_empty]
    rintro plan ⟨entry, inside, _⟩
    cases inside
  have whole := fold states.entries [] Dict.empty start
  rwa [nil_append] at whole

/-- The plans for a coverage that one more item leaves to choose from. -/
def Offers (join : Mask → Mask → Mask) (mask : Item → Mask) (states : Plans Mask Item)
    (item : Item) (target : Mask) (plan : List Item) : Prop :=
  states.get target = some plan ∨
    ∃ covered before, states.get covered = some before ∧ join covered (mask item) ≠ covered ∧
      join covered (mask item) = target ∧ plan = before ++ [item]

/-- One more item keeps the least plan of each coverage. -/
theorem extend_best :
    Dict.IsBest rank (Offers join mask states item target)
      ((extend rank join mask states item).get target) := by
  have adds : Adds rank (states.get target) (Extends join mask states.entries item target)
      ((additions rank join mask states item).get target) := additions_adds
  have offers : ∀ plan, Offers join mask states item target plan ↔
      states.get target = some plan ∨ Extends join mask states.entries item target plan := by
    intro plan
    refine or_congr_right ?_
    constructor
    · rintro ⟨covered, before, found, extends'⟩
      exact ⟨(covered, before), Dict.get_eq_some.1 found, extends'⟩
    · rintro ⟨⟨covered, before⟩, inside, extends'⟩
      exact ⟨covered, before, Dict.get_eq_some.2 inside, extends'⟩
  unfold extend
  cases added : (additions rank join mask states item).get target with
  | none =>
    rw [added] at adds
    have apart : ∀ entry ∈ (additions rank join mask states item).entries, entry.1 ≠ target := by
      rintro entry inside rfl
      rw [Dict.get_eq_some.2 inside] at added
      cases added
    rw [Dict.get_foldl_improve_ne apart]
    cases found : states.get target with
    | none =>
      intro plan offer
      rcases (offers plan).1 offer with old | extends'
      · rw [found] at old
        cases old
      · obtain ⟨best, known, _⟩ := adds plan extends'
        rw [found] at known
        cases known
    | some best =>
      refine ⟨.inl found, fun plan offer => ?_⟩
      rcases (offers plan).1 offer with old | extends'
      · rw [found] at old
        cases old
        exact le_rfl
      · obtain ⟨known, here, least⟩ := adds plan extends'
        rw [found] at here
        exact Option.some.inj here ▸ least
  | some plan =>
    rw [added] at adds
    obtain ⟨candidate, least, less⟩ := adds
    rw [Dict.get_foldl_improve (additions rank join mask states item).distinct
      (Dict.get_eq_some.1 added)]
    have kept : (states.improve rank target plan).get target = some plan := by
      cases found : states.get target with
      | none => exact Dict.get_improve_none found
      | some current => rw [Dict.get_improve_some found, if_pos (less current found)]
    rw [kept]
    refine ⟨(offers plan).2 (.inr candidate), fun other offer => ?_⟩
    rcases (offers other).1 offer with old | extends'
    · exact le_of_lt (less other old)
    · exact least other extends'

/-! ### All items -/

/-- What the kept plans of some items are: sublists of them that cover what they are kept for. -/
structure Sound (join : Mask → Mask → Mask) (mask : Item → Mask) (bottom : Mask)
    (items : List Item) (states : Plans Mask Item) : Prop where
  sublist : ∀ covered plan, states.get covered = some plan → plan.Sublist items
  covers : ∀ covered plan, states.get covered = some plan →
    coverFrom join mask bottom plan = covered
  /-- Some plan is kept for what all items cover. -/
  whole : (states.get (coverFrom join mask bottom items)).isSome

theorem extend_sound {items : List Item}
    (sound : Sound join mask bottom items states) :
    Sound join mask bottom (items ++ [item]) (extend rank join mask states item) := by
  have offered : ∀ covered plan, (extend rank join mask states item).get covered = some plan →
      Offers join mask states item covered plan := by
    intro covered plan found
    have best : Dict.IsBest rank (Offers join mask states item covered)
        ((extend rank join mask states item).get covered) := extend_best
    rw [found] at best
    exact best.1
  refine ⟨fun covered plan found => ?_, fun covered plan found => ?_, ?_⟩
  · rcases offered covered plan found with old | ⟨before, base, kept, _, _, rfl⟩
    · exact (sound.sublist covered plan old).trans (sublist_append_left items [item])
    · exact (sound.sublist before base kept).append (List.Sublist.refl [item])
  · rcases offered covered plan found with old | ⟨before, base, kept, _, joined, rfl⟩
    · exact sound.covers covered plan old
    · rw [coverFrom_append, sound.covers before base kept]
      exact joined
  · obtain ⟨plan, kept⟩ := Option.isSome_iff_exists.1 sound.whole
    have best : Dict.IsBest rank (Offers join mask states item
        (join (coverFrom join mask bottom items) (mask item)))
        ((extend rank join mask states item).get
          (join (coverFrom join mask bottom items) (mask item))) := extend_best
    rw [coverFrom_concat]
    cases found : (extend rank join mask states item).get
        (join (coverFrom join mask bottom items) (mask item)) with
    | some other => rfl
    | none =>
      rw [found] at best
      by_cases stays : join (coverFrom join mask bottom items) (mask item) =
          coverFrom join mask bottom items
      · exact absurd (.inl (by rw [stays, kept])) (best plan)
      · exact absurd (.inr ⟨_, plan, kept, stays, rfl, rfl⟩) (best (plan ++ [item]))

theorem singleton_sound :
    Sound join mask bottom [] (Dict.singleton bottom [] : Plans Mask Item) := by
  have only : ∀ covered plan, (Dict.singleton bottom [] : Plans Mask Item).get covered =
      some plan → covered = bottom ∧ plan = [] := by
    intro covered plan found
    have entry := mem_singleton.1 (Dict.get_eq_some.1 found)
    exact ⟨congrArg Prod.fst entry, congrArg Prod.snd entry⟩
  refine ⟨fun covered plan found => ?_, fun covered plan found => ?_, ?_⟩
  · rw [(only covered plan found).2]
  · obtain ⟨rfl, rfl⟩ := only covered plan found
    rfl
  · exact Option.isSome_iff_exists.2 ⟨[], Dict.get_singleton⟩

/-- The initial parts of a plan are the least for what they cover among the items up to them,
and each of its items covers something more. -/
structure Sustained (rank : List Item → Order) (join : Mask → Mask → Mask) (mask : Item → Mask)
    (bottom : Mask) (items plan : List Item) : Prop where
  least : ∀ early late before after, items = early ++ late → plan = before ++ after →
    before.Sublist early → after.Sublist late → ∀ other, other.Sublist early →
      coverFrom join mask bottom other = coverFrom join mask bottom before → other ≠ before →
        rank before < rank other
  moves : ∀ before item after, plan = before ++ item :: after →
    join (coverFrom join mask bottom before) (mask item) ≠ coverFrom join mask bottom before

/-- The initial part of a sustained plan among the first items is kept. -/
def Keeps (join : Mask → Mask → Mask) (mask : Item → Mask) (bottom : Mask)
    (items plan early late : List Item) (states : Plans Mask Item) : Prop :=
  items = early ++ late → ∀ before after, plan = before ++ after → before.Sublist early →
    after.Sublist late → states.get (coverFrom join mask bottom before) = some before

theorem extend_keeps {items plan early late : List Item}
    (sustained : Sustained rank join mask bottom items plan)
    (sound : Sound join mask bottom early states)
    (whole : items = early ++ item :: late)
    (keeps : Keeps join mask bottom items plan early (item :: late) states) :
    Keeps join mask bottom items plan (early ++ [item]) late
      (extend rank join mask states item) := by
  intro same before after parts inside rest
  have best : Dict.IsBest rank (Offers join mask states item (coverFrom join mask bottom before))
      ((extend rank join mask states item).get (coverFrom join mask bottom before)) := extend_best
  have offered : Offers join mask states item (coverFrom join mask bottom before) before := by
    obtain ⟨base, last, rfl, baseInside, lastInside⟩ := sublist_append_iff.1 inside
    rcases sublist_singleton.1 lastInside with rfl | rfl
    · rw [append_nil] at parts ⊢
      exact .inl (keeps whole base after parts baseInside (rest.cons item))
    · have parts' : plan = base ++ item :: after := by rw [parts, append_assoc]; rfl
      refine .inr ⟨_, base, keeps whole base (item :: after) parts' baseInside (rest.cons_cons item),
        sustained.moves base item after parts', ?_, rfl⟩
      exact coverFrom_concat.symm
  have later : Sound join mask bottom (early ++ [item]) (extend rank join mask states item) :=
    extend_sound sound
  cases found : (extend rank join mask states item).get (coverFrom join mask bottom before) with
  | none =>
    rw [found] at best
    exact absurd offered (best before)
  | some other =>
    rw [found] at best
    by_contra differs
    have apart : other ≠ before := fun equal => differs (congrArg some equal)
    have less := sustained.least _ _ before after same parts inside rest other
      (later.sublist _ _ found) (later.covers _ _ found) apart
    exact absurd (best.2 before offered) (not_le.2 less)

/-- The search of all items keeps sound plans, and a sustained one. -/
theorem search_spec {limit : Nat} {items early late : List Item}
    (plan : List Item) (whole : items = early ++ late) (sound : Sound join mask bottom early states)
    (finished : (search rank join mask limit late states).2 = false) :
    Sound join mask bottom items (search rank join mask limit late states).1 ∧
      (Sustained rank join mask bottom items plan →
        Keeps join mask bottom items plan early late states →
          Keeps join mask bottom items plan items []
            (search rank join mask limit late states).1) := by
  induction late generalizing early states with
  | nil =>
    rw [append_nil] at whole
    subst whole
    exact ⟨sound, fun _ keeps => keeps⟩
  | cons item rest ih =>
    have next : items = (early ++ [item]) ++ rest := by rw [whole, append_assoc]; rfl
    unfold search at finished ⊢
    simp only at finished ⊢
    split at finished
    · cases finished
    · rename_i within
      rw [if_neg within]
      obtain ⟨later, keeping⟩ := ih next (extend_sound sound) finished
      exact ⟨later, fun sustained keeps =>
        keeping sustained (extend_keeps sustained sound whole keeps)⟩

/-- A search that was not cut off keeps sound plans. -/
theorem search_sound {limit : Nat} {items : List Item}
    (finished : (search rank join mask limit items (Dict.singleton bottom [])).2 = false) :
    Sound join mask bottom items
      (search rank join mask limit items (Dict.singleton bottom [])).1 :=
  (search_spec [] (nil_append items).symm singleton_sound finished).1

/-- A search that was not cut off keeps every sustained plan. -/
theorem search_keeps {limit : Nat} {items plan : List Item}
    (finished : (search rank join mask limit items (Dict.singleton bottom [])).2 = false)
    (sustained : Sustained rank join mask bottom items plan) (inside : plan.Sublist items) :
    (search rank join mask limit items (Dict.singleton bottom [])).1.get
      (coverFrom join mask bottom plan) = some plan := by
  have keeps : Keeps join mask bottom items plan [] items (Dict.singleton bottom []) := by
    intro _ before after _ none _
    rw [eq_nil_of_sublist_nil none]
    exact Dict.get_singleton
  have kept := (search_spec plan (nil_append items).symm singleton_sound finished).2 sustained keeps
  exact kept (append_nil items).symm plan [] (append_nil plan).symm inside
    (List.Sublist.refl [])

end Search
