import Tailnet.Policy.Rule
import Tailnet.Proofs.Catalog.Lookup
import Tailnet.Proofs.Port

/-!
How rules speak of declarations. The literal of a declared name is read as that name, and so is the
part before the ports of a destination, unless a host has a name that is written like something
else: digits with points between them are read as an address, and a host that is named like a mark
without its colon becomes that mark in front of the ports.
-/

namespace Tailnet

open Text

namespace DeclarationKind

/-- The kind of principal through which rules speak of a declaration. -/
def principalKind : DeclarationKind → PrincipalKind
  | tag => .tag
  | group => .group
  | host => .host

/-- What rules write for a declared name. -/
def literal (kind : DeclarationKind) (name : String) : String := kind.mark ++ name

@[simp] theorem literal_host (name : String) : literal .host name = name := String.empty_append

end DeclarationKind

namespace Catalog

/-- The names of the entries of a kind. -/
def entryNames (catalog : Catalog) : DeclarationKind → List String
  | .tag => catalog.tags.values.map Entry.name
  | .group => catalog.groups.values.map Entry.name
  | .host => catalog.hosts.values.map HostEntry.name

/-- Catalogs that come about by one registration after the other, and those that are then closed. -/
inductive Reached : Catalog → Prop where
  | empty : Reached Catalog.empty
  | tag {catalog next : Catalog} {entry : Entry} (written : String) (owners : List String)
      (before : Reached catalog) (step : catalog.registerTag written owners = .ok (next, entry)) :
      Reached next
  | group {catalog next : Catalog} {entry : Entry} (written : String) (members : List String)
      (before : Reached catalog)
      (step : catalog.registerGroup written members = .ok (next, entry)) : Reached next
  | host {catalog next : Catalog} {entry : HostEntry} (written address : String)
      (before : Reached catalog) (step : catalog.registerHost written address = .ok (next, entry)) :
      Reached next
  | close {catalog : Catalog} (before : Reached catalog) : Reached catalog.close

/-- Every entry stands under its own name, which is admitted and claimed for the entry's kind. -/
structure Coherent (catalog : Catalog) : Prop where
  entryNames_eq : ∀ kind, catalog.entryNames kind = catalog.namesOf kind
  admissible : ∀ kind, ∀ name ∈ catalog.namesOf kind, Admissible name
  claimed : ∀ kind, ∀ name ∈ catalog.namesOf kind, catalog.claims.get? name = some kind

namespace Coherent

variable {catalog next : Catalog}

theorem namesOf_subset (h : catalog.Coherent) (kind : DeclarationKind) :
    catalog.namesOf kind ⊆ catalog.claims.keys := fun name hName =>
  List.mem_map_of_mem (Table.mem_of_get?_eq_some (h.claimed kind name hName))

theorem accepting (h : catalog.Coherent) (hOpen : catalog.isSealed = false) : catalog.Accepting :=
  ⟨hOpen, h.namesOf_subset .tag, h.namesOf_subset .group, h.namesOf_subset .host⟩

/-- A registration adds one entry with its claim. -/
theorem enter (h : catalog.Coherent) {kind : DeclarationKind} {name : String}
    (hAdmissible : Admissible name) (hFree : name ∉ catalog.claims.keys)
    (hEntries : ∀ other, next.entryNames other =
      catalog.entryNames other ++ if other = kind then [name] else [])
    (hNames : ∀ other, next.namesOf other =
      catalog.namesOf other ++ if other = kind then [name] else [])
    (hClaims : next.claims = catalog.claims ++ [(name, kind)]) : next.Coherent := by
  have hMem {other : DeclarationKind} {known : String} (hKnown : known ∈ next.namesOf other) :
      known ∈ catalog.namesOf other ∨ other = kind ∧ known = name := by
    rw [hNames, List.mem_append] at hKnown
    refine hKnown.imp_right fun hNew => ?_
    split at hNew
    case isTrue hKind => exact ⟨hKind, List.mem_singleton.mp hNew⟩
    case isFalse => cases hNew
  constructor
  case entryNames_eq =>
    intro other
    rw [hEntries, hNames, h.entryNames_eq]
  case admissible =>
    intro other known hKnown
    rcases hMem hKnown with hOld | ⟨-, rfl⟩
    · exact h.admissible other known hOld
    · exact hAdmissible
  case claimed =>
    intro other known hKnown
    rw [hClaims, ← Table.insert_of_notMem hFree, Table.get?_insert]
    rcases hMem hKnown with hOld | ⟨rfl, rfl⟩
    · rw [if_neg, h.claimed other known hOld]
      intro hEq
      exact hFree (beq_iff_eq.mp hEq ▸ h.namesOf_subset other hOld)
    · rw [if_pos (beq_self_eq_true known)]

end Coherent

theorem isOpen_of_claim {catalog : Catalog} {kind : DeclarationKind} {written : String}
    {result : Catalog × String} (h : catalog.claim kind written = .ok result) :
    catalog.isSealed = false := by
  unfold claim at h
  split at h
  case isTrue => cases h
  case isFalse hOpen => simpa using hOpen

theorem coherent_empty : empty.Coherent := by
  constructor <;> intro kind <;> cases kind <;> simp [entryNames, namesOf, empty, Table.values,
    Table.keys]

variable {catalog next : Catalog} {written : String}

theorem coherent_registerTag (h : catalog.Coherent) {owners : List String} {entry : Entry}
    (hStep : catalog.registerTag written owners = .ok (next, entry)) : next.Coherent := by
  obtain ⟨claimed, hClaim, -⟩ := bind_eq_ok_iff.mp hStep
  have hAccepting := h.accepting (isOpen_of_claim hClaim)
  obtain ⟨hAdmissible, hFree, rfl⟩ :=
    (@registerTag_eq_ok_iff catalog hAccepting (written, owners) next).mp
      (bind_eq_ok_iff.mpr ⟨_, hStep, rfl⟩)
  refine h.enter hAdmissible hFree ?_ ?_ rfl <;> intro other <;> cases other <;>
    simp [entryNames, namesOf, withTags, entryOf, Table.values, Table.keys]

theorem coherent_registerGroup (h : catalog.Coherent) {members : List String} {entry : Entry}
    (hStep : catalog.registerGroup written members = .ok (next, entry)) : next.Coherent := by
  obtain ⟨claimed, hClaim, -⟩ := bind_eq_ok_iff.mp hStep
  have hAccepting := h.accepting (isOpen_of_claim hClaim)
  obtain ⟨hAdmissible, hFree, rfl⟩ :=
    (@registerGroup_eq_ok_iff catalog hAccepting (written, members) next).mp
      (bind_eq_ok_iff.mpr ⟨_, hStep, rfl⟩)
  refine h.enter hAdmissible hFree ?_ ?_ rfl <;> intro other <;> cases other <;>
    simp [entryNames, namesOf, withGroups, entryOf, Table.values, Table.keys]

theorem coherent_registerHost (h : catalog.Coherent) {address : String} {entry : HostEntry}
    (hStep : catalog.registerHost written address = .ok (next, entry)) : next.Coherent := by
  obtain ⟨read, -, hRest⟩ := bind_eq_ok_iff.mp hStep
  obtain ⟨claimed, hClaim, -⟩ := bind_eq_ok_iff.mp hRest
  have hAccepting := h.accepting (isOpen_of_claim hClaim)
  obtain ⟨⟨hAdmissible, -⟩, hFree, rfl⟩ :=
    (@registerHost_eq_ok_iff catalog hAccepting (written, address) next).mp
      (bind_eq_ok_iff.mpr ⟨_, hStep, rfl⟩)
  refine h.enter hAdmissible hFree ?_ ?_ rfl <;> intro other <;> cases other <;>
    simp [entryNames, namesOf, withHosts, hostEntryOf, Table.values, Table.keys]

theorem coherent_close (h : catalog.Coherent) : catalog.close.Coherent := by
  have hEntries (kind : DeclarationKind) :
      catalog.close.entryNames kind = catalog.entryNames kind := by
    cases kind <;> rfl
  have hNames (kind : DeclarationKind) : catalog.close.namesOf kind = catalog.namesOf kind := by
    cases kind <;> rfl
  refine ⟨fun kind => ?_, fun kind => ?_, fun kind => ?_⟩
  · rw [hEntries, hNames, h.entryNames_eq]
  · rw [hNames]
    exact h.admissible kind
  · rw [hNames]
    exact h.claimed kind

theorem Reached.coherent (h : catalog.Reached) : catalog.Coherent := by
  induction h with
  | empty => exact coherent_empty
  | tag _ _ before step ih => exact coherent_registerTag ih step
  | group _ _ before step ih => exact coherent_registerGroup ih step
  | host _ _ before step ih => exact coherent_registerHost ih step
  | close before ih => exact coherent_close ih

end Catalog

/-- Only points between digits can make a name look like an address. -/
theorem looksLikeAddress_of_isName {name : String} (h : isName name.toList = true) :
    looksLikeAddress name = isDottedDigits name.toList := by
  have hSlash : cutFirst? '/' name.toList = none :=
    cutFirst?_eq_none_iff.mpr (notMem_of_isName h (by decide))
  have hColon : cutFirst? ':' name.toList = none :=
    cutFirst?_eq_none_iff.mpr (notMem_of_isName h (by decide))
  have hBreak : (name.toList.getLast? == some '\n') = false := by
    rw [beq_eq_false_iff_ne]
    intro hLast
    exact notMem_of_isName h (by decide) (List.mem_of_getLast? hLast)
  rw [looksLikeAddress, hBreak, Bool.false_and, Bool.or_false, hasAddressShape, hSlash]
  simp only [isColonHex, hColon, Bool.or_false]

namespace Principal

/-- A name by itself is read as a host, or as an address if it looks like one. -/
theorem read_of_admissible {name : String} (h : Admissible name) :
    read name =
      ⟨if isDottedDigits name.toList then .address else .host, name, name⟩ := by
  have hStar : name ≠ "*" := by
    rintro rfl
    exact notMem_of_isName h.1 (by decide : isNameChar '*' = false) (by decide)
  have hAt : mentions '@' name = false := by
    rw [mentions, List.contains_eq_mem, decide_eq_false_iff_not]
    exact notMem_of_isName h.1 (by decide)
  rw [read_of_trimmed (trim_eq_self_iff.mpr (isTrimmed_of_isName h.1)), ofToken, if_neg hStar,
    if_neg h.2, afterStart?_eq_none_iff.mpr (startsWith_eq_false_of_isName (by decide) h.1),
    afterStart?_eq_none_iff.mpr (startsWith_eq_false_of_isName (by decide) h.1),
    afterStart?_eq_none_iff.mpr (startsWith_eq_false_of_isName (by decide) h.1), hAt,
    looksLikeAddress_of_isName h.1]
  cases isDottedDigits name.toList <;> rfl

/-- The literal of a declared name is read as that name, but a host's as an address if it looks like
one. -/
theorem read_literal (kind : DeclarationKind) {name : String} (h : Admissible name) :
    read (kind.literal name) =
      ⟨if kind = .host ∧ isDottedDigits name.toList = true then .address else kind.principalKind,
        name, kind.literal name⟩ := by
  have hMarked {principalKind : PrincipalKind} (hMark : principalKind.mark? = some kind.mark) :
      read (kind.literal name) = ⟨principalKind, name, kind.literal name⟩ := by
    rw [DeclarationKind.literal,
      read_of_trimmed (trim_eq_self_iff.mpr (isTrimmed_mark_append h.1))]
    exact ofToken_mark_append hMark name
  cases kind with
  | tag => exact hMarked rfl
  | group => exact hMarked rfl
  | host =>
      rw [DeclarationKind.literal_host, read_of_admissible h]
      simp [DeclarationKind.principalKind]

end Principal

namespace Destination

/-- The marks of principals without their colon. -/
def markNames : List String := ["tag", "group", "autogroup"]

/-- Only a host can be named like a mark. -/
theorem mem_bareMarks_iff {kind : DeclarationKind} {name : String} :
    (kind.literal name).toList ++ [':'] ∈ bareMarks ↔ kind = .host ∧ name ∈ markNames := by
  cases kind with
  | tag =>
      simp [bareMarks, DeclarationKind.literal, DeclarationKind.mark, tagMark, groupMark,
        autogroupMark]
  | group =>
      simp [bareMarks, DeclarationKind.literal, DeclarationKind.mark, tagMark, groupMark,
        autogroupMark]
  | host =>
      have hMarks : bareMarks = markNames.map fun mark => mark.toList ++ [':'] := by decide
      have hInjective : Function.Injective fun mark : String => mark.toList ++ [':'] := by
        intro a b hEq
        exact String.toList_inj.mp (List.append_cancel_right hEq)
      rw [DeclarationKind.literal_host, hMarks, List.mem_map_of_injective hInjective]
      simp

variable {kind : DeclarationKind} {name specification : String} {ports : PortSet}

theorem head?_literal (kind : DeclarationKind) (hName : isName name.toList = true) :
    (kind.literal name).toList ≠ [] ∧ (kind.literal name).toList.head? ≠ some '[' := by
  cases kind with
  | tag => simp [DeclarationKind.literal, DeclarationKind.mark, tagMark]
  | group => simp [DeclarationKind.literal, DeclarationKind.mark, groupMark]
  | host =>
      rw [DeclarationKind.literal_host]
      refine ⟨(all_isNameChar_of_isName hName).1, ?_⟩
      intro hBracket
      exact notMem_of_isName hName (by decide) (List.mem_of_mem_head? hBracket)

/-- Behind a literal and a colon, only the white space at the very end is removed. -/
theorem toList_trim_literal (kind : DeclarationKind) (hName : isName name.toList = true)
    (specification : String) :
    (trim (kind.literal name ++ ":" ++ specification)).toList =
      (kind.literal name).toList ++ ':' :: specification.toList.rdropWhile isBlank := by
  have hLiteral : IsTrimmed (kind.literal name).toList := isTrimmed_mark_append hName
  have hFront : IsTrimmed ((kind.literal name).toList ++ [':']) := by
    refine isTrimmed_append (head?_literal kind hName).1 (List.cons_ne_nil _ _) hLiteral.1 ?_
    intro c hc
    obtain rfl : ':' = c := by simpa using hc
    decide
  have hRaw : (kind.literal name ++ ":" ++ specification).toList =
      ((kind.literal name).toList ++ [':']) ++ specification.toList := by simp
  rw [toList_trim, hRaw, trimChars_append hFront (by simp), List.append_assoc,
    List.singleton_append]

/-- A destination that begins with a literal is cut at the colon before its ports. -/
theorem cutLast?_literal (kind : DeclarationKind) (hName : isName name.toList = true)
    (hPorts : PortSet.read specification = .ok ports) :
    cutLast? ':' (trim (kind.literal name ++ ":" ++ specification)).toList =
      some ((kind.literal name).toList, specification.toList.rdropWhile isBlank) := by
  have hNoColon : ':' ∉ specification.toList.rdropWhile isBlank := fun hColon =>
    PortSet.colon_notMem_of_read hPorts ((List.rdropWhile_prefix _ _).subset hColon)
  rw [toList_trim_literal kind hName, cutLast?_append _ hNoColon]

theorem unbracketed_literal (hName : isName name.toList = true) :
    unbracketed (kind.literal name).toList = (kind.literal name).toList := by
  rw [unbracketed, if_neg]
  rw [Bool.and_eq_true, beq_iff_eq, not_and]
  exact fun hBracket => absurd hBracket (head?_literal kind hName).2

/-- Before ports that can be read, a literal is the target, unless it is a mark without its
colon. -/
theorem read_literal (kind : DeclarationKind) (hName : isName name.toList = true)
    (hPorts : PortSet.read specification = .ok ports)
    (hMark : ¬(kind = .host ∧ name ∈ markNames)) :
    (read (kind.literal name ++ ":" ++ specification)).target =
      Principal.read (kind.literal name) ∧
    (read (kind.literal name ++ ":" ++ specification)).portSet = .ok ports := by
  have hRead : PortSet.read (String.ofList (specification.toList.rdropWhile isBlank)) =
      .ok ports := by
    rw [PortSet.read_rdropWhile, String.ofList_toList, hPorts]
  have hNamed : ((kind.literal name).toList.isEmpty ||
      bareMarks.contains ((kind.literal name).toList ++ [':'])) = false := by
    rw [Bool.or_eq_false_iff, List.isEmpty_eq_false_iff, List.contains_eq_mem,
      decide_eq_false_iff_not, mem_bareMarks_iff]
    exact ⟨(head?_literal kind hName).1, hMark⟩
  rw [read, cutLast?_literal kind hName hPorts]
  simp only [hNamed, Bool.false_eq_true, if_false, unbracketed_literal hName, hRead,
    String.ofList_toList, and_self]

/-- Before ports a mark without its colon becomes that mark, so the target is no host. -/
theorem kind_target_of_mem_markNames (hName : isName name.toList = true)
    (hPorts : PortSet.read specification = .ok ports) (hMark : name ∈ markNames) :
    (read (name ++ ":" ++ specification)).target.kind ≠ .host := by
  have hBare : bareMarks.contains (name.toList ++ [':']) = true := by
    rw [List.contains_eq_mem, decide_eq_true_iff, ← DeclarationKind.literal_host name,
      mem_bareMarks_iff]
    exact ⟨rfl, hMark⟩
  have hCut := cutLast?_literal .host hName hPorts
  have hStarts : startsWith (name ++ ":") (trim (name ++ ":" ++ specification)) = true := by
    have hTrimmed := toList_trim_literal .host hName specification
    rw [DeclarationKind.literal_host] at hTrimmed
    rw [startsWith_iff]
    refine ⟨String.ofList (specification.toList.rdropWhile isBlank), ?_⟩
    rw [← String.toList_inj, hTrimmed]
    simp
  have hKind (kind : PrincipalKind) (hKindMark : kind.mark? = some (name ++ ":")) :
      (Principal.read (name ++ ":" ++ specification)).kind = kind :=
    (Principal.kind_ofToken_eq_iff hKindMark).mpr hStarts
  rw [DeclarationKind.literal_host] at hCut
  rw [read, hCut]
  simp only [hBare, Bool.or_true, if_true, Principal.read_trim]
  simp only [markNames, List.mem_cons, List.not_mem_nil, or_false] at hMark
  rcases hMark with rfl | rfl | rfl
  · rw [hKind .tag (by decide)]
    decide
  · rw [hKind .group (by decide)]
    decide
  · rw [hKind .autogroup (by decide)]
    decide

end Destination

namespace Catalog

variable {catalog : Catalog} {kind : DeclarationKind} {name specification : String}
  {ports : PortSet}

/-- A look-up of an entry finds it, though perhaps without owners. -/
theorem Coherent.finding?_entry (h : catalog.Coherent) (hEntry : name ∈ catalog.entryNames kind)
    (raw : String) :
    catalog.finding? ⟨kind.principalKind, name, raw⟩ = .ok none ∨
    catalog.finding? ⟨kind.principalKind, name, raw⟩ = .ok (some (.unownedTag raw)) := by
  rw [h.entryNames_eq] at hEntry
  have hUnmarked := unmarked_of_isName kind (h.admissible kind name hEntry).1
  have hDeclares : catalog.declares kind name = true := by
    rw [declares, hUnmarked, h.claimed kind name hEntry, beq_self_eq_true]
  cases kind with
  | tag =>
      obtain ⟨entry, hFound⟩ := Option.ne_none_iff_exists'.mp
        (fun hNone => Table.get?_eq_none_iff.mp hNone hEntry)
      have hOwners : catalog.ownersOf? name = some entry.principals := by
        rw [ownersOf?, hUnmarked, hFound, Option.map_some]
      simp only [finding?, DeclarationKind.principalKind, hDeclares, hOwners, if_true]
      split
      · exact .inr rfl
      · exact .inl rfl
  | group => exact .inl (by simp [finding?, DeclarationKind.principalKind, hDeclares])
  | host => exact .inl (by simp [finding?, DeclarationKind.principalKind, hDeclares])

/-- Rules can speak of an entry and of ports behind it: its literal is read as the entry, also as
the target of a destination, whose ports are those of the specification; and wherever one of the two
is looked up, it is not reported as unknown or as a faulty address. -/
structure Addressable (catalog : Catalog) (kind : DeclarationKind) (name specification : String)
    (ports : PortSet) : Prop where
  principal_kind : (Principal.read (kind.literal name)).kind = kind.principalKind
  principal_name : (Principal.read (kind.literal name)).name = name
  target_kind : (Destination.read (kind.literal name ++ ":" ++ specification)).target.kind =
    kind.principalKind
  target_name : (Destination.read (kind.literal name ++ ":" ++ specification)).target.name = name
  portError?_eq : (Destination.read (kind.literal name ++ ":" ++ specification)).portError? = none
  portSet_eq : (Destination.read (kind.literal name ++ ":" ++ specification)).portSet = .ok ports
  known : ∀ p ∈ [Principal.read (kind.literal name),
      (Destination.read (kind.literal name ++ ":" ++ specification)).target],
    ∀ location, ∃ found, catalog.checkReference ⟨p, location⟩ = .ok found ∧
      ∀ v ∈ found, v.finding.kind ≠ .unknownIdentifier ∧ v.finding.kind ≠ .invalidAddress

/-- Hosts of which rules cannot speak: they are named like an address, or like a mark without its
colon. -/
def IsMisread (kind : DeclarationKind) (name : String) : Prop :=
  kind = .host ∧ (isDottedDigits name.toList = true ∨ name ∈ Destination.markNames)

instance (kind : DeclarationKind) (name : String) : Decidable (IsMisread kind name) :=
  inferInstanceAs (Decidable (_ ∧ _))

/-- Whatever was registered, rules can speak of an entry with any ports exactly if it is not a host
whose name is misread. -/
theorem addressable_iff (h : catalog.Reached) (hEntry : name ∈ catalog.entryNames kind)
    (hPorts : PortSet.read specification = .ok ports) :
    catalog.Addressable kind name specification ports ↔ ¬IsMisread kind name := by
  have hAdmissible : Admissible name :=
    h.coherent.admissible kind name (h.coherent.entryNames_eq kind ▸ hEntry)
  constructor
  · rintro hAddressable ⟨rfl, hDigits | hMark⟩
    · have hKind := hAddressable.principal_kind
      rw [Principal.read_literal .host hAdmissible, if_pos ⟨rfl, hDigits⟩] at hKind
      cases hKind
    · have hKind := hAddressable.target_kind
      rw [DeclarationKind.literal_host] at hKind
      exact Destination.kind_target_of_mem_markNames hAdmissible.1 hPorts hMark hKind
  · intro hNamed
    have hRead : Principal.read (kind.literal name) =
        ⟨kind.principalKind, name, kind.literal name⟩ := by
      rw [Principal.read_literal kind hAdmissible, if_neg]
      exact fun hDigits => hNamed ⟨hDigits.1, .inl hDigits.2⟩
    obtain ⟨hTarget, hPortSet⟩ := Destination.read_literal kind hAdmissible.1 hPorts
      fun hMark => hNamed ⟨hMark.1, .inr hMark.2⟩
    refine ⟨?_, ?_, ?_, ?_, ?_, hPortSet, ?_⟩
    case refine_5 => rw [Destination.portError?, hPortSet]
    case refine_6 =>
      intro p hp location
      have hSame : p = ⟨kind.principalKind, name, kind.literal name⟩ := by
        rw [hTarget, hRead] at hp
        simpa using hp
      rw [hSame, checkReference]
      rcases h.coherent.finding?_entry hEntry (kind.literal name) with hNone | hUnowned
      · refine ⟨[], by rw [hNone]; rfl, ?_⟩
        exact fun v hv => absurd hv List.not_mem_nil
      · refine ⟨[⟨.unownedTag (kind.literal name), .text (kind.literal name), location⟩],
          by rw [hUnowned]; rfl, ?_⟩
        intro v hv
        rw [List.mem_singleton.mp hv]
        exact ⟨nofun, nofun⟩
    all_goals first | rw [hTarget, hRead] | rw [hRead]

/-- A tag without owners and a host are declared, and rules can speak of the host. -/
theorem addressable_db : ∃ catalog : Catalog, catalog.Reached ∧
    "db" ∈ catalog.entryNames .host ∧ ∃ ports, PortSet.read " 22, 8000-8999" = .ok ports ∧
    catalog.Addressable .host "db" " 22, 8000-8999" ports := by
  have hTag : Reached _ := .tag "tag:web" [] .empty rfl
  have hHost : Reached _ := .host "db" "10.0.0.2" hTag rfl
  exact ⟨_, hHost, by decide, _, rfl, (addressable_iff hHost (by decide) rfl).mpr (by decide)⟩

/-- Rules cannot speak of a host `1.2.3`, which is read as an address and reported as a faulty one,
nor of a host `tag`, whose ports are taken for the name of a tag. -/
theorem exists_not_addressable : ∃ catalog : Catalog, catalog.Reached ∧
    ∃ ports, PortSet.read "22" = .ok ports ∧
    ("1.2.3" ∈ catalog.entryNames .host ∧ ¬catalog.Addressable .host "1.2.3" "22" ports) ∧
    ("tag" ∈ catalog.entryNames .host ∧ ¬catalog.Addressable .host "tag" "22" ports) := by
  have hDigits : Reached _ := .host "1.2.3" "10.0.0.1" .empty rfl
  have hMark : Reached _ := .host "tag" "10.0.0.2" hDigits rfl
  refine ⟨_, hMark, _, rfl, ⟨by decide, ?_⟩, ⟨by decide, ?_⟩⟩
  · intro h
    exact absurd h.principal_kind (by decide)
  · intro h
    exact absurd h.target_kind (by decide)

end Catalog

end Tailnet
