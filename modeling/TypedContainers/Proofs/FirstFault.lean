import TypedContainers.Proofs.Naming

/-!
# The first fault of a list

Containers, entries and variants are all checked in one pass that looks at each item
beside the items before it and stops at the first fault.  What the pass reports is the
fault of an item behind a part of the list that has none.
-/

namespace TypedContainers

/-- The first fault of a list.  `judge` finds fault with an item after the items before
it, of which `seen` are the ones in front of the list. -/
def firstFault? {α β : Type} (judge : List α → α → Option β) :
    List α → List α → Option β
  | _, [] => none
  | seen, item :: rest =>
    match judge seen item with
    | some fault => some fault
    | none => firstFault? judge (seen ++ [item]) rest

section

variable {α β : Type} {judge : List α → α → Option β}

theorem firstFault?_cons_of_none {seen : List α} {item : α} (hitem : judge seen item = none)
    (rest : List α) :
    firstFault? judge seen (item :: rest) = firstFault? judge (seen ++ [item]) rest := by
  rw [firstFault?, hitem]

theorem firstFault?_cons_of_some {seen : List α} {item : α} {fault : β}
    (hitem : judge seen item = some fault) (rest : List α) :
    firstFault? judge seen (item :: rest) = some fault := by
  rw [firstFault?, hitem]

/-- A fault is reported exactly if it is that of an item before which there is none. -/
theorem firstFault?_eq_some_iff {seen items : List α} {fault : β} :
    firstFault? judge seen items = some fault ↔
      ∃ before item after, items = before ++ item :: after ∧
        firstFault? judge seen before = none ∧ judge (seen ++ before) item = some fault := by
  induction items generalizing seen with
  | nil => simp [firstFault?]
  | cons first rest ih =>
      cases hfirst : judge seen first with
      | some own =>
          rw [firstFault?_cons_of_some hfirst]
          constructor
          · intro hown
            refine ⟨[], first, rest, rfl, rfl, ?_⟩
            rw [List.append_nil, hfirst, hown]
          · rintro ⟨before, item, after, hsplit, hbefore, hitem⟩
            cases before with
            | nil =>
                obtain ⟨rfl, _⟩ := List.cons.inj hsplit
                rw [← hfirst, ← hitem, List.append_nil]
            | cons other before =>
                obtain ⟨rfl, _⟩ := List.cons.inj hsplit
                rw [firstFault?_cons_of_some hfirst] at hbefore
                exact absurd hbefore (Option.some_ne_none own)
      | none =>
          rw [firstFault?_cons_of_none hfirst, ih]
          constructor
          · rintro ⟨before, item, after, rfl, hbefore, hitem⟩
            refine ⟨first :: before, item, after, rfl, ?_, ?_⟩
            · rw [firstFault?_cons_of_none hfirst, hbefore]
            · rwa [List.append_cons]
          · rintro ⟨before, item, after, hsplit, hbefore, hitem⟩
            cases before with
            | nil =>
                obtain ⟨rfl, _⟩ := List.cons.inj hsplit
                rw [List.append_nil, hfirst] at hitem
                exact absurd hitem.symm (Option.some_ne_none fault)
            | cons other before =>
                obtain ⟨rfl, hrest⟩ := List.cons.inj hsplit
                rw [firstFault?_cons_of_none hfirst] at hbefore
                rw [List.append_cons] at hitem
                exact ⟨before, item, after, hrest, hbefore, hitem⟩

/-- Where an item is at fault in itself or for sharing its name with an item before it,
nothing is reported exactly if all items are well formed and their names are new. -/
theorem firstFault?_eq_none_iff {ok : α → Prop} {name : α → String}
    (hjudge : ∀ seen item, judge seen item = none ↔ ok item ∧ name item ∉ seen.map name)
    {seen items : List α} :
    firstFault? judge seen items = none ↔
      (∀ item ∈ items, ok item) ∧ Naming.New name seen items := by
  induction items generalizing seen with
  | nil => simp [firstFault?, Naming.New]
  | cons item rest ih =>
      rw [List.forall_mem_cons, Naming.new_cons_iff]
      have hitem := hjudge seen item
      cases hfault : judge seen item with
      | some fault =>
          rw [firstFault?_cons_of_some hfault]
          rw [hfault] at hitem
          have hnot : ¬(ok item ∧ name item ∉ seen.map name) := by
            rw [← hitem]
            exact Option.some_ne_none fault
          constructor
          · intro hnone
            exact absurd hnone (Option.some_ne_none fault)
          · rintro ⟨⟨hok, _⟩, hnew, _⟩
            exact absurd ⟨hok, hnew⟩ hnot
      | none =>
          rw [firstFault?_cons_of_none hfault, ih]
          obtain ⟨hok, hnew⟩ := hitem.mp hfault
          constructor
          · rintro ⟨hrest, hothers⟩
            exact ⟨⟨hok, hrest⟩, hnew, hothers⟩
          · rintro ⟨⟨_, hrest⟩, _, hothers⟩
            exact ⟨hrest, hothers⟩

/-- Such a list is well formed up to the item that is reported. -/
theorem firstFault?_nil_eq_some_iff {ok : α → Prop} {name : α → String}
    (hjudge : ∀ seen item, judge seen item = none ↔ ok item ∧ name item ∉ seen.map name)
    {items : List α} {fault : β} :
    firstFault? judge [] items = some fault ↔
      ∃ before item after, items = before ++ item :: after ∧
        ((∀ earlier ∈ before, ok earlier) ∧ (before.map name).Nodup) ∧
          judge before item = some fault := by
  rw [firstFault?_eq_some_iff]
  simp only [firstFault?_eq_none_iff hjudge, Naming.new_nil_left, List.nil_append]

end

end TypedContainers
