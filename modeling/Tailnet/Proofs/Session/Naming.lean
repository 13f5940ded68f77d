import Tailnet.Policy.Compilation
import Tailnet.Proofs.Session.Drafts

/-!
Names in documents. However a document comes about, by the steps of a session or from a source, and
whichever registrations failed on the way, its tags, groups and hosts stand under their own names
and no name or network stands twice among its own kind.
-/

namespace Tailnet

/-- A table in which no key stands twice and every value stands under its own name. -/
structure Table.Filed {κ α : Type} (name : α → κ) (table : Table κ α) : Prop where
  nodup : table.keys.Nodup
  name_eq : ∀ entry ∈ table, name entry.2 = entry.1

namespace Table.Filed

variable {κ α : Type} {name : α → κ} {table : Table κ α}

theorem nil : Filed name ([] : Table κ α) := ⟨List.nodup_nil, List.forall_mem_nil _⟩

theorem insert [BEq κ] [LawfulBEq κ] (h : table.Filed name) (value : α) :
    (table.insert (name value) value).Filed name := by
  refine ⟨nodup_keys_insert h.nodup _ _, ?_⟩
  have hEntries := h.name_eq
  clear h
  induction table with
  | nil => simp [Table.insert]
  | cons entry rest ih =>
      rw [List.forall_mem_cons] at hEntries
      rw [Table.insert]
      split
      case isTrue hKey =>
        exact List.forall_mem_cons.mpr ⟨(beq_iff_eq.mp hKey).symm, hEntries.2⟩
      case isFalse => exact List.forall_mem_cons.mpr ⟨hEntries.1, ih hEntries.2⟩

/-- No two values of such a table have one name. -/
theorem nodup_names (h : table.Filed name) : (table.values.map name).Nodup := by
  have hNames : table.values.map name = table.keys := by
    rw [values, keys, List.map_map]
    exact List.map_congr_left h.name_eq
  rw [hNames]
  exact h.nodup

end Table.Filed

namespace Catalog

/-- A catalog whose entries stand under their own names, each once among its kind. -/
structure Filed (catalog : Catalog) : Prop where
  tags : catalog.tags.Filed Entry.name
  groups : catalog.groups.Filed Entry.name
  hosts : catalog.hosts.Filed HostEntry.name

theorem filed_empty : empty.Filed := ⟨.nil, .nil, .nil⟩

namespace Filed

variable {catalog : Catalog} (h : catalog.Filed)

include h

/-- A claim is no entry. -/
theorem claim {kind : DeclarationKind} {written bare : String} {claimed : Catalog}
    (hClaim : catalog.claim kind written = .ok (claimed, bare)) : claimed.Filed := by
  obtain ⟨-, -, hClaimed⟩ := (claim_eq_ok_iff (isOpen_of_claim hClaim)).mp hClaim
  obtain ⟨rfl, -⟩ := Prod.mk.inj hClaimed
  exact ⟨h.tags, h.groups, h.hosts⟩

theorem enter (name : String) (d : Declaration) : (catalog.enter name d).Filed := by
  cases d with
  | group key members => exact ⟨h.tags, h.groups.insert ⟨name, principalsOf members⟩, h.hosts⟩
  | tag key owners => exact ⟨h.tags.insert ⟨name, principalsOf owners⟩, h.groups, h.hosts⟩
  | host key address => exact ⟨h.tags, h.groups, h.hosts.insert ⟨name, Text.trim address⟩⟩

theorem register {d : Declaration} {next : Catalog} (hStep : catalog.register d = .ok next) :
    next.Filed := by
  rw [register_eq] at hStep
  obtain ⟨_, -, hStep⟩ := bind_eq_ok_iff.mp hStep
  obtain ⟨⟨claimed, name⟩, hClaim, hStep⟩ := bind_eq_ok_iff.mp hStep
  obtain rfl := pure_eq_ok_iff.mp hStep
  exact (h.claim hClaim).enter name d

end Filed

/-- Whatever catalog comes about, its entries stand under their own names. -/
theorem Drafted.filed {catalog : Catalog} (h : catalog.Drafted) : catalog.Filed := by
  induction h with
  | empty => exact filed_empty
  | claim _ _ step ih => exact ih.claim step
  | register _ _ step ih => exact ih.register step
  | close _ ih => exact ⟨ih.tags, ih.groups, ih.hosts⟩

end Catalog

/-- A document in which no name of a kind and no network stands twice. -/
structure Document.Keyed (document : Document) : Prop where
  catalog : document.catalog.Filed
  routes : document.approvals.routes.keys.Nodup

theorem Document.keyed_build {catalog : Catalog} (h : catalog.Filed) (rules : RuleSet)
    {approvals : Approvals} (hRoutes : approvals.routes.keys.Nodup) (halves : Text.Halves) :
    (Document.build catalog rules approvals halves).Keyed :=
  ⟨⟨h.tags, h.groups, h.hosts⟩, hRoutes⟩

namespace Session

/-- A session in which no name of a kind and no network stands twice, neither in what it collects
nor in its document. -/
structure Keyed (session : Session) : Prop where
  catalog : session.catalog.Filed
  routes : session.approvals.routes.keys.Nodup
  document : ∀ document, session.document = some document → document.Keyed

/-- No step enters a network a second time. -/
theorem routes_step {session : Session} (h : session.approvals.routes.keys.Nodup)
    (next : SessionStep) : (session.step next).1.approvals.routes.keys.Nodup := by
  cases next with
  | registerTag name owners =>
      obtain ⟨_, _, hTag⟩ := session.exists_register .tag name owners Catalog.enterTag
      rw [step, hTag]
      exact h
  | registerGroup name members =>
      obtain ⟨_, _, hGroup⟩ := session.exists_register .group name members Catalog.enterGroup
      rw [step, hGroup]
      exact h
  | declareAll tagOwners groups hosts =>
      dsimp only [step]
      cases declareMappings tagOwners groups hosts <;> exact h
  | registerHost | addAccess | addShell =>
      dsimp only [step]
      split <;> exact h
  | grantRoute network tokens =>
      dsimp only [step]
      unfold grantRoute
      split
      · exact h
      · split
        · exact h
        · exact Table.nodup_keys_insert h _ _
  | _ => exact h

variable {halves : Text.Halves}

theorem routes_after (steps : List SessionStep) :
    ((empty halves).after steps).approvals.routes.keys.Nodup := by
  induction steps using List.reverseRecOn with
  | nil => exact List.nodup_nil
  | append_singleton before last ih =>
      rw [after_append]
      exact routes_step ih last

theorem keyed_after (steps : List SessionStep) : ((empty halves).after steps).Keyed where
  catalog := (drafted_after .empty steps).filed
  routes := routes_after steps
  document := by
    intro document h
    obtain ⟨before, withRules, withApprovals, rfl⟩ := exists_build h
    refine Document.keyed_build (drafted_after .empty before).filed _ ?_ halves
    cases withApprovals with
    | true => exact routes_after before
    | false => exact List.nodup_nil

end Session

theorem Source.keyed_document {source : Source} {document : Document}
    (h : source.document = .ok document) : document.Keyed := by
  obtain ⟨catalog, hCatalog, h⟩ := bind_eq_ok_iff.mp h
  obtain ⟨approvals, hApprovals, h⟩ := bind_eq_ok_iff.mp h
  cases h
  obtain ⟨grants, -, rfl⟩ := approvals_eq_ok_iff.mp (mapError_eq_ok_iff.mp hApprovals)
  rw [mapError_eq_ok_iff, Catalog.ofDeclarations_eq_registerAll] at hCatalog
  refine Document.keyed_build (Catalog.drafted_of_registerAll hCatalog).filed _ ?_ source.halves
  rw [Approvals.granted, Table.keys_tabulate]
  exact nodup_eraseDups _

/-- Documents that come about: in a session, by whatever steps, or from a source. -/
inductive Document.Made (document : Document) : Prop where
  | session (halves : Text.Halves) (steps : List SessionStep)
      (h : ((Session.empty halves).after steps).document = some document)
  | source (source : Source) (h : source.document = .ok document)

/-- However a document comes about, nothing stands in it twice under one name. -/
theorem Document.Made.keyed {document : Document} (h : document.Made) : document.Keyed := by
  cases h with
  | session halves steps h => exact (Session.keyed_after steps).document document h
  | source source h => exact Source.keyed_document h

end Tailnet
