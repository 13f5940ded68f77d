import Tailnet.Proofs.Overlay.Depth
import Tailnet.Proofs.Reading
import Tailnet.Proofs.Source.Sections

/-!
Merging section by section. Each section of the result depends on the sections of the same name in
base and overlay alone, and is read as these two are read.
-/

namespace Tailnet

namespace Overlay

open Value (Plain record)

/-- How a section is merged. -/
abbrev Merge := Value → Value → Except OverlayError Value

/-- What becomes of a section: without one in the overlay that of the base is kept, otherwise both
are merged. -/
inductive Merges (merge : Merge) : Option Value → Option Value → Option Value → Prop where
  | kept (below : Option Value) : Merges merge below none below
  | merged {below : Option Value} {above value : Value}
      (h : merge (below.getD .null) above = .ok value) :
      Merges merge below (some above) (some value)

theorem Merges.unique {merge : Merge} {below above first second : Option Value}
    (h : Merges merge below above first) (hOther : Merges merge below above second) :
    first = second := by
  cases h with
  | kept =>
      cases hOther with
      | kept => rfl
  | merged h =>
      cases hOther with
      | merged hOther =>
          rw [h] at hOther
          cases hOther
          rfl

theorem Merges.eq_of_none {merge : Merge} {below result : Option Value}
    (h : Merges merge below none result) : result = below := by
  cases h with
  | kept => rfl

/-- The sections in the order in which they are merged. -/
def sections : List (String × Merge) :=
  [("name", fun _ name => .ok name), ("groups", mergeDeclarations "groups"),
    ("tagOwners", mergeDeclarations "tagOwners"), ("hosts", mergeDeclarations "hosts"),
    ("acls", mergeRules "acls"), ("ssh", mergeRules "ssh"), ("autoApprovers", mergeApprovers),
    ("tailnet", mergeOptions)]

theorem merge_eq_foldlM (base overlay : Mapping) :
    merge base overlay =
      sections.foldlM (fun acc part => mergeSection part.2 part.1 overlay acc) base := by
  simp only [merge, sections, List.foldlM_cons, List.foldlM_nil, bind_pure]

/-- Merging a section changes nothing but that section. -/
theorem exists_mergeSection {merge : Merge} {name : String} {base overlay : List (String × Value)}
    {result : Option Value}
    (h : Merges merge (Table.get? base name) (Table.get? overlay name) result) :
    ∃ merged, mergeSection merge name (recordEntries overlay) (recordEntries base) =
        .ok (recordEntries merged) ∧
      Table.get? merged name = result ∧
      ∀ other ≠ name, Table.get? merged other = Table.get? base other := by
  have hAbove := Source.field?_recordEntries overlay name
  have hBelow := Source.field?_recordEntries base name
  generalize Table.get? base name = below at h hBelow
  generalize Table.get? overlay name = above at h hAbove
  cases h with
  | kept =>
      refine ⟨base, by rw [mergeSection, hAbove], ?_, fun _ _ => rfl⟩
      rw [← hBelow]
      exact (Source.field?_recordEntries base name).symm
  | @merged above value hMerge =>
      refine ⟨Table.insert base name value, ?_, ?_, fun other hOther => ?_⟩
      · simp only [mergeSection, hAbove, hBelow, hMerge, ok_bind, insert_recordEntries]
        rfl
      · rw [Table.get?_insert, if_pos (beq_self_eq_true name)]
      · rw [Table.get?_insert, if_neg (by simpa using Ne.symm hOther)]

theorem exists_foldlM_mergeSection {overlay : List (String × Value)}
    {parts : List (String × Merge)} (hNames : (parts.map Prod.fst).Nodup)
    {base : List (String × Value)}
    (h : ∀ part ∈ parts, ∃ result,
      Merges part.2 (Table.get? base part.1) (Table.get? overlay part.1) result) :
    ∃ merged,
      parts.foldlM (fun acc part => mergeSection part.2 part.1 (recordEntries overlay) acc)
        (recordEntries base) = .ok (recordEntries merged) ∧
      (∀ part ∈ parts, Merges part.2 (Table.get? base part.1) (Table.get? overlay part.1)
        (Table.get? merged part.1)) ∧
      ∀ name ∉ parts.map Prod.fst, Table.get? merged name = Table.get? base name := by
  induction parts generalizing base with
  | nil => exact ⟨base, rfl, List.forall_mem_nil _, fun _ _ => rfl⟩
  | cons part rest ih =>
      obtain ⟨hFree, hRestNames⟩ := List.nodup_cons.mp hNames
      obtain ⟨⟨result, hResult⟩, hRest⟩ := List.forall_mem_cons.mp h
      obtain ⟨next, hStep, hNext, hOthers⟩ := exists_mergeSection hResult
      have hKept (other : String × Merge) (hOther : other ∈ rest) :
          Table.get? next other.1 = Table.get? base other.1 :=
        hOthers _ fun hEq => hFree (hEq ▸ List.mem_map_of_mem hOther)
      have hNextRest : ∀ other ∈ rest, ∃ result,
          Merges other.2 (Table.get? next other.1) (Table.get? overlay other.1) result :=
        fun other hOther => hKept other hOther ▸ hRest other hOther
      obtain ⟨merged, hMerged, hSections, hUnnamed⟩ := ih hRestNames hNextRest
      refine ⟨merged, ?_, List.forall_mem_cons.mpr ⟨?_, ?_⟩, ?_⟩
      · rw [List.foldlM_cons, hStep, ok_bind, hMerged]
      · rw [hUnnamed _ hFree, hNext]
        exact hResult
      · intro other hOther
        have hSection := hSections other hOther
        rwa [hKept other hOther] at hSection
      · intro name hName
        rw [List.map_cons, List.mem_cons, not_or] at hName
        rw [hUnnamed name hName.2, hOthers name hName.1]

/-- Merging a section comes to something that can be said of all data with the merged section. -/
def Yields (base overlay : List (String × Value)) (part : String × Merge) (P : Mapping → Prop) :
    Prop :=
  ∃ result, Merges part.2 (Table.get? base part.1) (Table.get? overlay part.1) result ∧
    ∀ data, Source.field? data part.1 = result → P data

section Yields

variable {base overlay : List (String × Value)} {name : String} {merge : Merge}
  {P : Mapping → Prop}

theorem Yields.of_kept (hAbove : Table.get? overlay name = none)
    (h : ∀ data, Source.field? data name = Table.get? base name → P data) :
    Yields base overlay (name, merge) P :=
  ⟨_, hAbove ▸ .kept _, h⟩

theorem Yields.of_merged {above : Value} (value : Value)
    (hAbove : Table.get? overlay name = some above)
    (hMerge : merge ((Table.get? base name).getD .null) above = .ok value)
    (h : ∀ data, Source.field? data name = some value → P data) :
    Yields base overlay (name, merge) P :=
  ⟨_, hAbove ▸ .merged hMerge, h⟩

end Yields

/-- If every section can be merged, so can base and overlay. Sections that the overlay has not are
those of the base. -/
theorem exists_merge {base overlay : List (String × Value)}
    (h : ∀ part ∈ sections, ∃ result,
      Merges part.2 (Table.get? base part.1) (Table.get? overlay part.1) result) :
    ∃ merged, merge (recordEntries base) (recordEntries overlay) = .ok (recordEntries merged) ∧
      (∀ part ∈ sections, Merges part.2 (Table.get? base part.1) (Table.get? overlay part.1)
        (Table.get? merged part.1)) ∧
      ∀ name, Table.get? overlay name = none → Table.get? merged name = Table.get? base name := by
  obtain ⟨merged, hMerged, hSections, hOthers⟩ := exists_foldlM_mergeSection (by decide) h
  refine ⟨merged, (merge_eq_foldlM _ _).trans hMerged, hSections, fun name hNone => ?_⟩
  by_cases hName : name ∈ sections.map Prod.fst
  · obtain ⟨part, hPart, rfl⟩ := List.mem_map.mp hName
    have hSection := hSections part hPart
    rw [hNone] at hSection
    exact hSection.eq_of_none
  · exact hOthers name hName

/-- What the merged sections come to holds of base and overlay merged. -/
theorem exists_merge_of_yields {base overlay : List (String × Value)}
    {yields : List (Mapping → Prop)} (h : List.Forall₂ (Yields base overlay) sections yields) :
    ∃ merged, merge (recordEntries base) (recordEntries overlay) = .ok (recordEntries merged) ∧
      (∀ P ∈ yields, P (recordEntries merged)) ∧
      ∀ name, Table.get? overlay name = none → Table.get? merged name = Table.get? base name := by
  have hAll : ∀ part ∈ sections, ∃ result,
      Merges part.2 (Table.get? base part.1) (Table.get? overlay part.1) result := by
    intro part hPart
    obtain ⟨i, hi, rfl⟩ := List.getElem_of_mem hPart
    obtain ⟨result, hResult, -⟩ := h.get hi (h.length_eq ▸ hi)
    exact ⟨result, hResult⟩
  obtain ⟨merged, hMerged, hSections, hUnmentioned⟩ := exists_merge hAll
  refine ⟨merged, hMerged, fun P hP => ?_, hUnmentioned⟩
  obtain ⟨i, hi, rfl⟩ := List.getElem_of_mem hP
  have hPart : i < sections.length := h.length_eq ▸ hi
  obtain ⟨result, hResult, hHolds⟩ := h.get hPart hi
  -- A section becomes only one thing, so what was said of that is said of the merged section.
  refine hHolds _ ?_
  rw [Source.field?_recordEntries]
  exact (hSections _ (List.getElem_mem hPart)).unique hResult

end Overlay

end Tailnet
