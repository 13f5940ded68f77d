import Tailnet.Proofs.Catalog.Addressing
import Tailnet.Proofs.Catalog.Refusal

/-!
Catalogs without some of their declarations. They are what the other declarations alone come to, and
in them a look-up finds what it found before, unless the declaration that it found was removed.
-/

namespace Tailnet

open Text

theorem DeclarationKind.principalKind_injective : Function.Injective principalKind := by
  intro kind other h
  cases kind <;> cases other <;> first | rfl | cases h

namespace Catalog

/-- The catalog without the declarations in a list, and without their claims. Names that were
claimed for other declarations, or for none, stay claimed. -/
def without (catalog : Catalog) (removed : List Unused) : Catalog where
  tags := catalog.tags.filter fun entry => ⟨.tag, entry.1⟩ ∉ removed
  groups := catalog.groups.filter fun entry => ⟨.group, entry.1⟩ ∉ removed
  hosts := catalog.hosts.filter fun entry => ⟨.host, entry.1⟩ ∉ removed
  claims := catalog.claims.filter fun claim => ⟨claim.2, claim.1⟩ ∉ removed
  isSealed := catalog.isSealed

variable {catalog : Catalog} {removed : List Unused}

section Lookup

theorem declares_without_iff {kind : DeclarationKind} {name : String}
    (h : catalog.declares kind name = true) :
    (catalog.without removed).declares kind name = true ↔ ⟨kind, unmarked kind name⟩ ∉ removed := by
  rw [declares, beq_iff_eq] at h ⊢
  constructor
  · intro hClaim
    simpa using (List.mem_filter.mp (Table.mem_of_get?_eq_some hClaim)).2
  · intro hKept
    exact Table.get?_filter h (decide_eq_true hKept)

theorem ownersOf?_without {tag : String} {owners : List Principal}
    (h : catalog.ownersOf? tag = some owners) (hKept : ⟨.tag, unmarked .tag tag⟩ ∉ removed) :
    (catalog.without removed).ownersOf? tag = some owners := by
  obtain ⟨entry, hEntry, rfl⟩ := Option.map_eq_some_iff.mp h
  have hFound : (catalog.without removed).tags.get? (unmarked .tag tag) = some entry :=
    Table.get?_filter hEntry (decide_eq_true hKept)
  rw [ownersOf?, hFound, Option.map_some]

variable {p : Principal} {kind : DeclarationKind}

/-- Nothing is wrong with a principal that stands for a declaration exactly if it is declared and,
as a tag, has owners. -/
theorem finding?_eq_ok_none_iff (hKind : p.kind = kind.principalKind) :
    catalog.finding? p = .ok none ↔
      catalog.declares kind p.name = true ∧
        (kind = .tag → ∃ owners, catalog.ownersOf? p.name = some owners ∧ owners ≠ []) := by
  unfold finding?
  cases kind <;> rw [hKind]
  case tag =>
    dsimp only [DeclarationKind.principalKind]
    cases catalog.declares .tag p.name with
    | false => simp
    | true => cases catalog.ownersOf? p.name <;> simp
  all_goals simp [DeclarationKind.principalKind]

theorem exists_finding?_of_not_declares (hKind : p.kind = kind.principalKind)
    (h : ¬catalog.declares kind p.name = true) :
    ∃ fault, catalog.finding? p = .ok (some fault) := by
  unfold finding?
  cases kind <;> rw [hKind] <;> simp [DeclarationKind.principalKind, h]

/-- Only declarations are looked up in the catalog. -/
theorem finding?_eq_of_undeclarable (h : ∀ kind : DeclarationKind, p.kind ≠ kind.principalKind)
    (other : Catalog) : other.finding? p = catalog.finding? p := by
  unfold finding?
  cases hKind : p.kind with
  | tag => exact absurd hKind (h .tag)
  | group => exact absurd hKind (h .group)
  | host => exact absurd hKind (h .host)
  | _ => rfl

/-- A principal with which nothing was wrong is looked up without the removed declarations, too, and
it is reported exactly if one of them was found for it. -/
theorem finding?_without (h : catalog.finding? p = .ok none) :
    ∃ found, (catalog.without removed).finding? p = .ok found ∧
      (found = none ↔ ∀ kind : DeclarationKind, p.kind = kind.principalKind →
        ⟨kind, unmarked kind p.name⟩ ∉ removed) := by
  by_cases hDeclarable : ∃ kind : DeclarationKind, p.kind = kind.principalKind
  · obtain ⟨kind, hKind⟩ := hDeclarable
    obtain ⟨hDeclares, hOwned⟩ := (finding?_eq_ok_none_iff hKind).mp h
    by_cases hKept : ⟨kind, unmarked kind p.name⟩ ∉ removed
    · refine ⟨none, (finding?_eq_ok_none_iff hKind).mpr ⟨?_, ?_⟩, iff_of_true rfl ?_⟩
      · exact (declares_without_iff hDeclares).mpr hKept
      · rintro rfl
        obtain ⟨owners, hOwners, hSome⟩ := hOwned rfl
        exact ⟨owners, ownersOf?_without hOwners hKept, hSome⟩
      · intro other hOther
        rwa [DeclarationKind.principalKind_injective (hOther.symm.trans hKind)]
    · have hGone := mt (declares_without_iff hDeclares).mp hKept
      obtain ⟨fault, hFault⟩ := exists_finding?_of_not_declares hKind hGone
      exact ⟨some fault, hFault, iff_of_false nofun fun hAll => hKept (hAll kind hKind)⟩
  · have hOther := not_exists.mp hDeclarable
    refine ⟨none, ?_, iff_of_true rfl fun kind hKind => absurd hKind (hOther kind)⟩
    rw [finding?_eq_of_undeclarable hOther, h]

end Lookup

section Registration

variable {claimed next : Catalog} {kind : DeclarationKind} {written bare : String} {d : Declaration}

/-- A name that can be claimed can also be claimed without other declarations. -/
theorem claim_without (h : catalog.claim kind written = .ok (claimed, bare))
    (hKept : ⟨kind, bare⟩ ∉ removed) :
    (catalog.without removed).claim kind written = .ok (claimed.without removed, bare) := by
  have hOpen := isOpen_of_claim h
  have hStillOpen : (catalog.without removed).isSealed = false := hOpen
  obtain ⟨hAdmissible, hFree, hClaimed⟩ := (claim_eq_ok_iff hOpen).mp h
  obtain ⟨rfl, rfl⟩ := Prod.mk.inj hClaimed
  refine (claim_eq_ok_iff hStillOpen).mpr ⟨hAdmissible, ?_, ?_⟩
  · intro hTaken
    obtain ⟨claim, hClaim, hName⟩ := List.mem_map.mp hTaken
    exact hFree (List.mem_map.mpr ⟨claim, (List.mem_filter.mp hClaim).1, hName⟩)
  · simp [without, hKept]

/-- A removed declaration leaves no claim behind. -/
theorem without_of_claim (h : catalog.claim kind written = .ok (claimed, bare))
    (hRemoved : ⟨kind, bare⟩ ∈ removed) : claimed.without removed = catalog.without removed := by
  obtain ⟨-, -, hClaimed⟩ := (claim_eq_ok_iff (isOpen_of_claim h)).mp h
  obtain ⟨rfl, rfl⟩ := Prod.mk.inj hClaimed
  simp [without, hRemoved]

theorem without_enter (catalog : Catalog) (name : String) (d : Declaration) :
    (catalog.enter name d).without removed =
      if ⟨d.kind, name⟩ ∉ removed then (catalog.without removed).enter name d
      else catalog.without removed := by
  have hEntries {α : Type} (table : Table String α) (entry : α) :=
    Table.filter_insert (fun name => decide (⟨d.kind, name⟩ ∉ removed)) table name entry
  simp only [decide_eq_true_eq] at hEntries
  cases d with
  | group key members =>
      have hGroups := hEntries catalog.groups ⟨name, principalsOf members⟩
      refine (congrArg (fun groups => { catalog.without removed with groups }) hGroups).trans ?_
      split <;> rfl
  | tag key owners =>
      have hTags := hEntries catalog.tags ⟨name, principalsOf owners⟩
      refine (congrArg (fun tags => { catalog.without removed with tags }) hTags).trans ?_
      split <;> rfl
  | host key address =>
      have hHosts := hEntries catalog.hosts ⟨name, trim address⟩
      refine (congrArg (fun hosts => { catalog.without removed with hosts }) hHosts).trans ?_
      split <;> rfl

/-- A declaration that can be made is removed, or it can be made without those that are. -/
theorem register_without (h : catalog.register d = .ok next) :
    if ⟨d.kind, d.name⟩ ∉ removed then
      (catalog.without removed).register d = .ok (next.without removed)
    else next.without removed = catalog.without removed := by
  rw [register_eq] at h
  obtain ⟨checked, hChecked, h⟩ := bind_eq_ok_iff.mp h
  obtain ⟨⟨claimed, name⟩, hClaim, h⟩ := bind_eq_ok_iff.mp h
  obtain rfl := pure_eq_ok_iff.mp h
  obtain ⟨-, -, hClaimed⟩ := (claim_eq_ok_iff (isOpen_of_claim hClaim)).mp hClaim
  obtain rfl : name = d.name := (Prod.mk.inj hClaimed).2
  rw [without_enter]
  split
  case isTrue hKept =>
    rw [register_eq]
    exact bind_eq_ok_iff.mpr ⟨checked, hChecked, bind_eq_ok_iff.mpr
      ⟨_, claim_without hClaim hKept, rfl⟩⟩
  case isFalse hGone => exact without_of_claim hClaim (not_not.mp hGone)

/-- Declarations that can be made one after the other can be made without some of them. -/
theorem registerAll_without {declarations : List Declaration}
    (h : registerAll declarations = .ok catalog) :
    registerAll (declarations.filter fun d => ⟨d.kind, d.name⟩ ∉ removed) =
      .ok (catalog.without removed) := by
  induction declarations using List.reverseRecOn generalizing catalog with
  | nil =>
      cases h
      rfl
  | append_singleton declarations last ih =>
      rw [registerAll, List.foldlM_append] at h
      obtain ⟨before, hBefore, hLast⟩ := bind_eq_ok_iff.mp h
      simp only [List.foldlM_cons, List.foldlM_nil, bind_pure] at hLast
      have hRest := ih hBefore
      have hStep := @register_without before removed catalog last hLast
      rw [registerAll] at hRest ⊢
      rw [List.filter_append, List.foldlM_append, hRest, ok_bind]
      split at hStep
      case isTrue hKept => simp [hKept, hStep]
      case isFalse hGone => simp [not_not.mp hGone, hStep, pure_eq_ok_iff]

end Registration

end Catalog

end Tailnet
