import Pullbox.Reader.ArchivePages

/-!
# Pages and their members

When an archive can be opened, and what its pages show. Pages are found again by their normalized
names, so a page shows its member exactly when that name leads back to the bytes of the member; and
the order of the pages is that of the archive where two page names have one key.
-/

namespace Pullbox.Reader

open List

variable {limits : ReaderResourceLimits} {fold : Folding} {renderer : Renderer}
  {archive other : Archive} {member : ArchiveMember} {members : List ArchiveMember} {name : Name}
  {names pages : List Name} {descriptors : List PageDescriptor}

/-! ### The names of the pages -/

def pageNames (archive : Archive) : List Name :=
  (pageMembers archive).map fun member => normalized member.name

theorem pageName_eq {rawName : Name} (page : (pageName rawName).isSome) :
    pageName rawName = some (normalized rawName) := by
  unfold pageName at page ⊢
  simp only at page ⊢
  split at page
  · cases page
  · rename_i shown
    rw [if_neg shown]

theorem filterMap_pageName :
    ((archive.members.filter regular).map ArchiveMember.name).filterMap pageName =
      pageNames archive := by
  unfold pageNames pageMembers
  rw [filterMap_map]
  induction archive.members.filter regular with
  | nil => rfl
  | cons member rest ih =>
    rw [filterMap_cons, filter_cons]
    cases shown : pageName member.name with
    | none =>
      rw [Function.comp_apply, shown, if_neg (by simp)]
      exact ih
    | some page =>
      have named : pageName member.name = some (normalized member.name) := by
        apply pageName_eq
        rw [shown]
        rfl
      rw [Function.comp_apply, named, if_pos (by rfl), map_cons]
      exact congrArg _ ih

theorem mem_pageNames : name ∈ pageNames archive ↔
    ∃ member ∈ pageMembers archive, normalized member.name = name :=
  mem_map

/-- Every page has a key. -/
def Keyed (fold : Folding) (archive : Archive) : Prop :=
  ∀ name ∈ pageNames archive, (naturalPathKey fold name).isSome

theorem canonicalPageNames_members :
    canonicalPageNames fold ((archive.members.filter regular).map ArchiveMember.name) =
      if (pageNames archive).all fun name => (naturalPathKey fold name).isSome then
        some (Sorting.sortOn (sortKey fold) (pageNames archive))
      else none := by
  unfold canonicalPageNames
  rw [filterMap_pageName]

/-! ### Opening -/

theorem checkMembers_eq_none : checkMembers limits archive = none ↔
    archive.listed = true ∧ archive.members.length ≤ limits.maxEntries ∧
      (∀ member ∈ archive.members, checkMember limits member = none) ∧
      ((archive.members.filter regular).map ArchiveMember.size).sum ≤
        limits.maxTotalUncompressedBytes := by
  unfold checkMembers
  cases archive.listed with
  | false => simp
  | true =>
    simp only [Bool.not_true, Bool.false_eq_true, if_false, true_and]
    by_cases many : archive.members.length > limits.maxEntries
    · rw [if_pos many]
      simp [Nat.not_le.2 many]
    · rw [if_neg many, and_iff_right (Nat.not_lt.1 many)]
      cases first : archive.members.findSome? (checkMember limits) with
      | some error =>
        obtain ⟨member, inside, failed⟩ := exists_of_findSome?_eq_some first
        constructor
        · rintro ⟨⟩
        · rintro ⟨all, -⟩
          rw [all member inside] at failed
          cases failed
      | none =>
        rw [and_iff_right (List.findSome?_eq_none_iff.1 first)]
        simp

theorem checkPages_eq_none : checkPages limits archive names = none ↔
    names.length ≤ limits.maxImageEntries ∧
      (∀ member ∈ archive.members.filter regular, overCompressed limits names member = false) ∧
      names ≠ [] := by
  unfold checkPages
  by_cases many : names.length > limits.maxImageEntries
  · rw [if_pos many]
    simp [Nat.not_le.2 many]
  · rw [if_neg many, and_iff_right (Nat.not_lt.1 many)]
    by_cases dense : (archive.members.filter regular).any (overCompressed limits names)
    · rw [if_pos dense]
      obtain ⟨member, inside, found⟩ := any_eq_true.1 dense
      constructor
      · rintro ⟨⟩
      · rintro ⟨all, -⟩
        rw [all member inside] at found
        cases found
    · rw [if_neg dense]
      have all : ∀ member ∈ archive.members.filter regular,
          overCompressed limits names member = false := by
        intro member inside
        rw [Bool.eq_false_iff]
        exact fun found => dense (any_eq_true.2 ⟨member, inside, found⟩)
      rw [and_iff_right all]
      simp

/-- The checks look at the names of the pages, not at their order. -/
theorem checkPages_perm (limits : ReaderResourceLimits) (archive : Archive)
    (perm : names.Perm pages) :
    checkPages limits archive names = none ↔ checkPages limits archive pages = none := by
  have same : overCompressed limits names = overCompressed limits pages := by
    funext member
    unfold overCompressed
    simp only [perm.mem_iff]
  rw [checkPages_eq_none, checkPages_eq_none, same, perm.length_eq]
  have empty : names = [] ↔ pages = [] :=
    ⟨fun nil => nil_perm.1 (nil ▸ perm), fun nil => perm_nil.1 (nil ▸ perm)⟩
  rw [ne_eq, ne_eq, empty]

theorem sortOn_perm {Item Order : Type} [LinearOrder Order] (key : Item → Order)
    (items : List Item) : (Sorting.sortOn key items).Perm items :=
  perm_insertionSort _ items

/-- The pages of an archive that can be opened. -/
def pagesOf (fold : Folding) (archive : Archive) : List PageDescriptor :=
  (Sorting.sortOn (sortKey fold) (pageNames archive)).mapIdx fun index name =>
    ⟨index, name, deliveryMediaType name⟩

/-- When a source is opened, and with which pages. -/
theorem archivePageSource_eq_ok : archivePageSource limits fold archive = .ok descriptors ↔
    checkMembers limits archive = none ∧ Keyed fold archive ∧
      checkPages limits archive (pageNames archive) = none ∧
      descriptors = pagesOf fold archive := by
  unfold archivePageSource
  rw [canonicalPageNames_members]
  cases checkMembers limits archive with
  | some error => simp
  | none =>
    by_cases keyed : (pageNames archive).all fun name => (naturalPathKey fold name).isSome
    · have all : Keyed fold archive := all_eq_true.1 keyed
      have sorted := checkPages_perm limits archive
        (sortOn_perm (sortKey fold) (pageNames archive))
      rw [if_pos keyed]
      simp only [true_and]
      rw [and_iff_right all, ← sorted]
      cases checkPages limits archive (Sorting.sortOn (sortKey fold) (pageNames archive)) with
      | some error => simp
      | none =>
        simp only [Except.ok.injEq, true_and]
        exact eq_comm
    · rw [if_neg keyed]
      constructor
      · rintro ⟨⟩
      · rintro ⟨-, all, -⟩
        exact absurd (all_eq_true.2 all) keyed

/-- An archive can be opened whatever the order of its members. -/
theorem archivePageSource_perm (perm : members.Perm archive.members)
    (opened : archivePageSource limits fold archive = .ok descriptors) :
    archivePageSource limits fold { archive with members } =
      .ok (pagesOf fold { archive with members }) := by
  obtain ⟨checked, keyed, paged, -⟩ := archivePageSource_eq_ok.1 opened
  have regulars : (members.filter regular).Perm (archive.members.filter regular) :=
    perm.filter regular
  have names : (pageNames { archive with members }).Perm (pageNames archive) :=
    (regulars.filter _).map _
  apply archivePageSource_eq_ok.2
  refine ⟨?_, fun name inside => keyed name (names.mem_iff.1 inside), ?_, rfl⟩
  · obtain ⟨listed, few, all, small⟩ := checkMembers_eq_none.1 checked
    apply checkMembers_eq_none.2
    refine ⟨listed, perm.length_eq ▸ few, fun member inside => all member (perm.mem_iff.1 inside),
      ?_⟩
    rw [(regulars.map ArchiveMember.size).sum_nat]
    exact small
  · apply (checkPages_perm limits _ names).2
    obtain ⟨few, loose, some⟩ := checkPages_eq_none.1 paged
    apply checkPages_eq_none.2
    exact ⟨few, fun member inside => loose member (regulars.mem_iff.1 inside), some⟩

/-! ### Reading -/

/-- The page name of a member leads to a member whose bytes, if they are in the limits and can be
decoded, are delivered as the member's own would be; and Pillow raises nothing unexpected. -/
def Served (limits : ReaderResourceLimits) (renderer : Renderer) (archive : Archive)
    (member : ArchiveMember) : Prop :=
  ∃ named, memberNamed archive (normalized member.name) = some named ∧
    (named.size ≤ limits.maxPageBytes → ∀ data, named.bytes = some data →
      data.length ≤ limits.maxPageBytes →
        Safe (prepareImagePayload limits renderer (normalized member.name) data) ∧
        ∀ rendition, prepareImagePayload limits renderer (normalized member.name) data =
          .ok rendition → ∃ own, member.bytes = some own ∧
            prepareImagePayload limits renderer (normalized member.name) own = .ok rendition)

theorem served_iff : Served limits renderer archive member ↔
    Safe (readNamed limits renderer archive (normalized member.name)) ∧
      ∀ rendition, readNamed limits renderer archive (normalized member.name) = .ok rendition →
        ∃ own, member.bytes = some own ∧
          prepareImagePayload limits renderer (normalized member.name) own = .ok rendition := by
  unfold Served readNamed
  cases memberNamed archive (normalized member.name) with
  | none =>
    constructor
    · rintro ⟨_, ⟨⟩, _⟩
    · rintro ⟨⟨⟩, _⟩
  | some named =>
    simp only [Option.some.injEq, exists_eq_left']
    by_cases large : named.size > limits.maxPageBytes
    · rw [if_pos large]
      constructor
      · intro _
        exact ⟨trivial, fun rendition same => by cases same⟩
      · intro _ small
        exact absurd small (Nat.not_le.2 large)
    · rw [if_neg large, forall_prop_of_true (Nat.not_lt.1 large)]
      unfold readFile
      cases named.bytes with
      | none =>
        constructor
        · intro _
          exact ⟨trivial, fun rendition same => by cases same⟩
        · rintro _ data ⟨⟩
      | some data =>
        simp only [Option.some.injEq, forall_eq']
        by_cases long : data.length > limits.maxPageBytes
        · rw [if_pos long]
          constructor
          · intro _
            exact ⟨trivial, fun rendition same => by cases same⟩
          · intro _ short
            exact absurd short (Nat.not_le.2 long)
        · rw [if_neg long, forall_prop_of_true (Nat.not_lt.1 long)]

/-- The members behind the pages, in their order. -/
def behindOf (fold : Folding) (archive : Archive) : List ArchiveMember :=
  Sorting.sortOn (fun member => sortKey fold (normalized member.name)) (pageMembers archive)

theorem behindOf_perm (fold : Folding) (archive : Archive) :
    (behindOf fold archive).Perm (pageMembers archive) :=
  sortOn_perm _ _

theorem sortOn_pageNames : Sorting.sortOn (sortKey fold) (pageNames archive) =
    (behindOf fold archive).map fun member => normalized member.name :=
  Sorting.sortOn_map _ _ _

theorem pagesOf_getElem? (index : ℕ) : (pagesOf fold archive)[index]? =
    (behindOf fold archive)[index]?.map fun member =>
      ⟨index, normalized member.name, deliveryMediaType (normalized member.name)⟩ := by
  unfold pagesOf
  rw [List.getElem?_mapIdx, sortOn_pageNames, List.getElem?_map, Option.map_map]
  rfl

theorem readPage_pagesOf {index : ℕ} (there : (behindOf fold archive)[index]? = some member) :
    readPage limits renderer archive (pagesOf fold archive) index =
      (readNamed limits renderer archive (normalized member.name)).map fun rendition =>
        ⟨index, rendition.1, rendition.2⟩ := by
  unfold readPage
  rw [if_neg (by omega), Int.toNat_natCast, pagesOf_getElem?, there]
  rfl

theorem safe_map {Value Next : Type} {result : Except Failure Value} (change : Value → Next) :
    Safe (result.map change) ↔ Safe result := by
  cases result with
  | ok value => rfl
  | error failure => cases failure <;> rfl

/-- Every index is read safely if every page is. -/
theorem safe_iff : (∀ index, Safe (readPage limits renderer archive (pagesOf fold archive) index)) ↔
    ∀ member ∈ pageMembers archive,
      Safe (readNamed limits renderer archive (normalized member.name)) := by
  constructor
  · intro safe member inside
    obtain ⟨index, there⟩ := mem_iff_getElem?.1
      ((behindOf_perm fold archive).mem_iff.2 inside)
    have read := safe index
    rw [readPage_pagesOf there, safe_map] at read
    exact read
  · intro safe index
    by_cases negative : index < 0
    · unfold readPage
      rw [if_pos negative]
      trivial
    · obtain ⟨position, rfl⟩ := Int.eq_ofNat_of_zero_le (Int.not_lt.1 negative)
      cases there : (behindOf fold archive)[position]? with
      | none =>
        unfold readPage
        rw [if_neg (by omega), Int.toNat_natCast, pagesOf_getElem?, there]
        trivial
      | some member =>
        rw [readPage_pagesOf there, safe_map]
        exact safe member ((behindOf_perm fold archive).mem_iff.1 (mem_of_getElem? there))

/-- The pages show their members if each page name leads to the bytes of its members. -/
theorem shows_iff : (∃ behind : List ArchiveMember, behind.Perm (pageMembers archive) ∧
    List.Forall₂ (Shows limits renderer archive (pagesOf fold archive)) (pagesOf fold archive)
      behind) ↔
    ∀ member ∈ pageMembers archive, ∀ rendition,
      readNamed limits renderer archive (normalized member.name) = .ok rendition →
        ∃ own, member.bytes = some own ∧
          prepareImagePayload limits renderer (normalized member.name) own = .ok rendition := by
  constructor
  · rintro ⟨behind, perm, shown⟩ member inside rendition read
    obtain ⟨lengths, each⟩ := forall₂_iff_get.1 shown
    obtain ⟨index, low, rfl⟩ := mem_iff_getElem.1 (perm.mem_iff.2 inside)
    obtain ⟨named, made⟩ := each index (lengths ▸ low) low
    have there := List.getElem?_eq_getElem (lengths ▸ low : index < (pagesOf fold archive).length)
    rw [pagesOf_getElem?] at there
    obtain ⟨shownMember, found, page⟩ := Option.map_eq_some_iff.1 there
    have position : ((pagesOf fold archive).get ⟨index, lengths ▸ low⟩).index = index := by
      rw [get_eq_getElem, ← page]
    have sameName : normalized shownMember.name = normalized behind[index].name := by
      rw [get_eq_getElem, ← page] at named
      exact named
    have payload := made ⟨index, rendition.1, rendition.2⟩
    rw [position, readPage_pagesOf found, sameName, read] at payload
    obtain ⟨own, bytes, prepared⟩ := payload rfl
    refine ⟨own, bytes, ?_⟩
    rw [named] at prepared
    exact prepared
  · intro all
    refine ⟨behindOf fold archive, behindOf_perm fold archive, forall₂_iff_get.2 ⟨?_, ?_⟩⟩
    · unfold pagesOf
      rw [length_mapIdx, sortOn_pageNames, length_map]
    · intro index low lowBehind
      have found := List.getElem?_eq_getElem lowBehind
      have there := List.getElem?_eq_getElem low
      rw [pagesOf_getElem?, found, Option.map_some, Option.some.injEq] at there
      rw [get_eq_getElem, get_eq_getElem, ← there]
      refine ⟨rfl, ?_⟩
      rintro payload read
      rw [readPage_pagesOf found] at read
      cases result : readNamed limits renderer archive
          (normalized (behindOf fold archive)[index].name) with
      | error failure =>
        rw [result] at read
        cases read
      | ok rendition =>
        rw [result] at read
        cases read
        exact all _ ((behindOf_perm fold archive).mem_iff.1 (getElem_mem lowBehind)) rendition result

/-! ### The order -/

/-- Page names with one key are one name. -/
def Distinct (fold : Folding) (archive : Archive) : Prop :=
  ∀ one ∈ pageNames archive, ∀ two ∈ pageNames archive,
    sortKey fold one = sortKey fold two → one = two

theorem pagesOf_names : (pagesOf fold archive).map PageDescriptor.name =
    Sorting.sortOn (sortKey fold) (pageNames archive) := by
  apply ext_getElem?
  intro index
  rw [List.getElem?_map, pagesOf, List.getElem?_mapIdx, Option.map_map]
  exact Option.map_id_apply

theorem pageNames_perm (perm : members.Perm archive.members) :
    (pageNames { archive with members }).Perm (pageNames archive) :=
  ((perm.filter regular).filter _).map _

/-- Names with distinct keys have one order. -/
theorem sortOn_eq_of_distinct (perm : names.Perm pages)
    (distinct : ∀ one ∈ pages, ∀ two ∈ pages, sortKey fold one = sortKey fold two → one = two) :
    Sorting.sortOn (sortKey fold) names = Sorting.sortOn (sortKey fold) pages := by
  have sorted := (sortOn_perm (sortKey fold) names).trans
    (perm.trans (sortOn_perm (sortKey fold) pages).symm)
  apply sorted.eq_of_pairwise _ (Sorting.pairwise_sortOn _ _) (Sorting.pairwise_sortOn _ _)
  intro one two inOne inTwo below above
  apply distinct one _ two _ (le_antisymm below above)
  · exact perm.mem_iff.1 (Sorting.mem_sortOn.1 inOne)
  · exact Sorting.mem_sortOn.1 inTwo

theorem pageNames_append {before after : List ArchiveMember} :
    pageNames { archive with members := before ++ after } =
      pageNames { archive with members := before } ++
        pageNames { archive with members := after } := by
  unfold pageNames pageMembers
  simp only [filter_append, map_append]

/-- Names of one key stay as they are listed. -/
theorem filter_sortKey (key : List KeyPart) :
    (Sorting.sortOn (sortKey fold) names).filter (sortKey fold · = key) =
      names.filter (sortKey fold · = key) := by
  rw [Sorting.filter_sortOn]
  apply List.Pairwise.insertionSort_eq
  apply pairwise_of_forall_mem_list
  intro one oneIn two twoIn
  have ofOne := of_decide_eq_true (mem_filter.1 oneIn).2
  have ofTwo := of_decide_eq_true (mem_filter.1 twoIn).2
  rw [ofOne, ofTwo]

/-- The members whose names satisfy a condition. -/
def selected (archive : Archive) (keep : Name → Bool) : List ArchiveMember :=
  archive.members.filter fun member => keep (normalized member.name)

/-- Members of some names, first or last. -/
theorem selected_perm (archive : Archive) (keep : Name → Bool) :
    (selected archive keep ++ selected archive fun name => !keep name).Perm archive.members ∧
      ((selected archive fun name => !keep name) ++ selected archive keep).Perm
        archive.members := by
  have first := filter_append_perm
    (fun member : ArchiveMember => keep (normalized member.name)) archive.members
  exact ⟨first, perm_append_comm.trans first⟩

theorem mem_pageNames_selected {keep : Name → Bool} :
    name ∈ pageNames { archive with members := selected archive keep } ↔
      name ∈ pageNames archive ∧ keep name = true := by
  rw [mem_pageNames, mem_pageNames]
  unfold pageMembers selected
  simp only [mem_filter]
  constructor
  · rintro ⟨member, ⟨⟨⟨inside, kept⟩, ofFile⟩, page⟩, rfl⟩
    exact ⟨⟨member, ⟨⟨inside, ofFile⟩, page⟩, rfl⟩, kept⟩
  · rintro ⟨⟨member, ⟨⟨inside, ofFile⟩, page⟩, rfl⟩, kept⟩
    exact ⟨member, ⟨⟨⟨inside, kept⟩, ofFile⟩, page⟩, rfl⟩

/-- The first of two lists, one after the other, if the first list is not empty. -/
theorem exists_head?_append {Item : Type} {front back : List Item} {item : Item}
    (inside : item ∈ front) : ∃ first ∈ front, (front ++ back).head? = some first := by
  cases front with
  | nil => cases inside
  | cons first rest => exact ⟨first, mem_cons_self, rfl⟩

/-- Two names of one key come in the order of the archive, so one order for all archives of these
members takes distinct keys. -/
theorem distinct_of_order (opened : archivePageSource limits fold archive = .ok descriptors)
    (order : ∀ members, members.Perm archive.members → ∀ others,
      archivePageSource limits fold { archive with members } = .ok others →
        others.map PageDescriptor.name = descriptors.map PageDescriptor.name) :
    Distinct fold archive := by
  intro one oneIn two twoIn sameKey
  by_contra apart
  obtain ⟨first, last⟩ := selected_perm archive fun name => name = one
  have firstOrder := order _ first _ (archivePageSource_perm first opened)
  have lastOrder := order _ last _ (archivePageSource_perm last opened)
  have same := firstOrder.trans lastOrder.symm
  rw [pagesOf_names, pagesOf_names] at same
  have ofKey := congrArg (List.filter fun name => sortKey fold name = sortKey fold one) same
  rw [filter_sortKey, filter_sortKey, pageNames_append, pageNames_append, filter_append,
    filter_append] at ofKey
  have heads := congrArg List.head? ofKey
  have isFirst : one ∈ (pageNames { archive with
      members := selected archive fun name => name = one }).filter
        (sortKey fold · = sortKey fold one) := by
    rw [mem_filter, mem_pageNames_selected]
    simp [oneIn]
  have isLater : two ∈ (pageNames { archive with
      members := selected archive fun name => !decide (name = one) }).filter
        (sortKey fold · = sortKey fold one) := by
    rw [mem_filter, mem_pageNames_selected]
    simp [twoIn, sameKey.symm, Ne.symm apart]
  obtain ⟨front, frontIn, front?⟩ := exists_head?_append isFirst
  obtain ⟨later, laterIn, later?⟩ := exists_head?_append isLater
  rw [front?, later?, Option.some.injEq] at heads
  rw [mem_filter, mem_pageNames_selected] at frontIn laterIn
  have isOne : front = one := of_decide_eq_true frontIn.1.2
  have notOne := laterIn.1.2
  rw [← heads, isOne] at notOne
  simp at notOne

/-! ### What is read -/

/-- When the pages of an archive are as promised. -/
theorem opened_iff (opened : archivePageSource limits fold archive = .ok descriptors) :
    Opened limits fold renderer archive descriptors ↔
      (∀ member ∈ pageMembers archive, Served limits renderer archive member) ∧
        Distinct fold archive := by
  obtain ⟨-, -, -, rfl⟩ := archivePageSource_eq_ok.1 opened
  constructor
  · intro holds
    refine ⟨fun member inside => served_iff.2 ⟨?_, ?_⟩, distinct_of_order opened holds.order⟩
    · exact safe_iff.1 holds.safe member inside
    · exact shows_iff.1 holds.shows member inside
  · rintro ⟨served, distinct⟩
    constructor
    · exact safe_iff.2 fun member inside => (served_iff.1 (served member inside)).1
    · exact shows_iff.2 fun member inside => (served_iff.1 (served member inside)).2
    · intro members perm others otherOpened
      obtain ⟨-, -, -, rfl⟩ := archivePageSource_eq_ok.1 otherOpened
      rw [pagesOf_names, pagesOf_names]
      exact sortOn_eq_of_distinct (pageNames_perm perm) distinct

/-- The pages of an archive are as promised if and only if, unless it is rejected, every page name
has a key, leads to a member whose bytes are delivered as those of each page of the name, and
shares its key with no other page name. -/
theorem reads_iff (limits : ReaderResourceLimits) (fold : Folding) (renderer : Renderer)
    (archive : Archive) : Reads limits fold renderer archive ↔
      (checkMembers limits archive = none → Keyed fold archive ∧
        (checkPages limits archive (pageNames archive) = none →
          (∀ member ∈ pageMembers archive, Served limits renderer archive member) ∧
            Distinct fold archive)) := by
  constructor
  · intro reads checked
    have keyed : Keyed fold archive := by
      have safe := reads.safe
      unfold archivePageSource at safe
      rw [checked, canonicalPageNames_members] at safe
      by_cases all : (pageNames archive).all fun name => (naturalPathKey fold name).isSome
      · exact all_eq_true.1 all
      · rw [if_neg all] at safe
        exact safe.elim
    refine ⟨keyed, fun paged => ?_⟩
    have opened := archivePageSource_eq_ok.2 ⟨checked, keyed, paged, rfl⟩
    exact (opened_iff opened).1 (reads.opened _ opened)
  · intro sound
    constructor
    · unfold archivePageSource
      rw [canonicalPageNames_members]
      cases checked : checkMembers limits archive with
      | some error => trivial
      | none =>
        have all := all_eq_true.2 (sound checked).1
        rw [if_pos all]
        simp only
        split
        · trivial
        · trivial
    · intro descriptors opened
      obtain ⟨checked, keyed, paged, -⟩ := archivePageSource_eq_ok.1 opened
      exact (opened_iff opened).2 ((sound checked).2 paged)

/-! ### A name with a backslash -/

/-- Every image is a small JPEG. -/
def plainRenderer : Renderer where
  openImage _ := .ok ⟨100, 100, "JPEG", 1, false⟩
  verify _ := .ok ()
  normalize _ data := .ok data

/-- One page, whose name has a backslash. -/
def backslashArchive : Archive where
  listed := true
  members := [⟨"a\\1.jpg".toList, 3, some 3, true, false, some [1, 2, 3]⟩]

/-- The page is listed under a name that no member has. -/
theorem not_reads : ¬ Reads {} (List.map Char.toLower) plainRenderer backslashArchive := by
  intro reads
  have opened : archivePageSource {} (List.map Char.toLower) backslashArchive =
      .ok [⟨0, "a/1.jpg".toList, "image/jpeg"⟩] := by
    decide +kernel
  have safe := (reads.opened _ opened).safe 0
  have read : readPage {} plainRenderer backslashArchive [⟨0, "a/1.jpg".toList, "image/jpeg"⟩] 0 =
      .error .keyError := by
    decide +kernel
  rw [read] at safe
  exact safe

end Pullbox.Reader
