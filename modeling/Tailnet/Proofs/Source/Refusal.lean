import Tailnet.Proofs.Source.Sections

/-!
Why data is refused. Every reason but one is told to the author: a number of days without end. It is
met only in the options of a tailnet, which are read last. So data with a section that has not its
shape is always refused for a reason that is told.
-/

namespace Tailnet.Source

/-- Whether reading gives a result or fails for a reason that is told. -/
abbrev Tells {α : Type} (x : Except SourceError α) : Prop :=
  Meets (fun _ => True) (fun cause : SourceError => cause.isReported = true) x

theorem textOf_tells (value : Value) : Tells (textOf value) := by
  unfold textOf
  cases value.display with
  | error cause => exact .error rfl
  | ok s => exact .ok trivial

theorem texts_tells (place : String) (found : Option Value) : Tells (texts place found) := by
  unfold texts
  split
  · exact .ok trivial
  · exact .ok trivial
  · exact .error rfl
  · exact .mapM textOf_tells _
  · exact .error rfl

theorem mapping_tells (data : Mapping) (name : String) : Tells (mapping data name) := by
  unfold mapping
  split
  · exact .ok trivial
  · exact .ok trivial
  · exact .ok trivial
  · exact .error rfl

theorem items_tells (data : Mapping) (name : String) : Tells (items data name) := by
  unfold items
  split
  · exact .ok trivial
  · exact .ok trivial
  · exact .ok trivial
  · exact .error rfl

theorem mappingAt_tells (place : String) (value : Value) : Tells (mappingAt place value) := by
  cases value with
  | map entries => exact .ok trivial
  | _ => exact .error rfl

theorem textLists_tells (place : String) (data : Mapping) : Tells (textLists place data) :=
  (Meets.mapM (fun _ => (textOf_tells _).bind fun _ _ => (texts_tells _ _).bind fun _ _ =>
    .ok trivial) data).bind fun _ _ => .ok trivial

theorem textTable_tells (data : Mapping) : Tells (textTable data) :=
  (Meets.mapM (fun _ => (textOf_tells _).bind fun _ _ => (textOf_tells _).bind fun _ _ =>
    .ok trivial) data).bind fun _ _ => .ok trivial

theorem optionalText_tells (found : Option Value) : Tells (optionalText found) := by
  unfold optionalText
  split
  · exact .ok trivial
  · exact .ok trivial
  · exact (textOf_tells _).bind fun _ _ => .ok trivial

theorem accessSpec_tells (rule : Value) (index : Nat) : Tells (accessSpec rule index) :=
  (mappingAt_tells _ rule).bind fun _ _ => (textOf_tells _).bind fun _ _ =>
    (texts_tells _ _).bind fun _ _ => (texts_tells _ _).bind fun _ _ => .ok trivial

theorem shellSpec_tells (rule : Value) (index : Nat) : Tells (shellSpec rule index) :=
  (mappingAt_tells _ rule).bind fun _ _ => (textOf_tells _).bind fun _ _ =>
    (texts_tells _ _).bind fun _ _ => (texts_tells _ _).bind fun _ _ =>
    (texts_tells _ _).bind fun _ _ => (optionalText_tells _).bind fun _ _ => .ok trivial

theorem listedRoute_tells (entry : Value) (index : Nat) : Tells (listedRoute entry index) := by
  refine (mappingAt_tells _ entry).bind fun fields _ => ?_
  cases field? fields "cidr" with
  | none => exact .error rfl
  | some network =>
      exact (textOf_tells _).bind fun _ _ => (texts_tells _ _).bind fun _ _ => .ok trivial

theorem routeSpecs_tells (found : Option Value) : Tells (routeSpecs found) := by
  unfold routeSpecs
  split
  · exact .ok trivial
  · exact .ok trivial
  · exact .mapM (fun _ => (textOf_tells _).bind fun _ _ => (texts_tells _ _).bind fun _ _ =>
      .ok trivial) _
  · exact .mapM (fun _ => listedRoute_tells _ _) _
  · exact .error rfl

theorem nameIn_tells (data : Mapping) (name : String) : Tells (nameIn data name) := by
  unfold nameIn
  split
  · split
    · exact textOf_tells _
    · exact .ok trivial
  · exact .ok trivial

theorem rulesIn_tells {α : Type} (data : Mapping) (name : String)
    {read : Value → Nat → Except SourceError α} (h : ∀ rule index, Tells (read rule index)) :
    Tells (rulesIn data name read) :=
  (items_tells data name).bind fun _ _ => .mapM (fun _ => h _ _) _

/-- The sections that are mappings. -/
def mappingSections : List String := ["groups", "tagOwners", "hosts", "autoApprovers", "tailnet"]

/-- The sections that are lists. -/
def listSections : List String := ["acls", "ssh"]

/-- A section that is there, not null, and has not its shape. -/
inductive Misshapen : String → Value → Prop where
  | mapping {name : String} {value : Value} (hName : name ∈ mappingSections)
      (hNull : value.isNull = false) (hShape : ∀ entries, value ≠ .map entries) :
      Misshapen name value
  | list {name : String} {value : Value} (hName : name ∈ listSections)
      (hNull : value.isNull = false) (hShape : ∀ items, value ≠ .list items) :
      Misshapen name value

/-- A section that cannot be read for its shape or that of its rules. -/
inductive Illegible (data : Mapping) : Prop where
  | mapping {name : String} {cause : SourceError} (hName : name ∈ mappingSections)
      (h : mapping data name = .error cause)
  | access {cause : SourceError} (h : rulesIn data "acls" accessSpec = .error cause)
  | shell {cause : SourceError} (h : rulesIn data "ssh" shellSpec = .error cause)

variable {data : Mapping}

theorem mapping_eq_error {name : String} {value : Value} (hValue : field? data name = some value)
    (hNull : value.isNull = false) (hShape : ∀ entries, value ≠ .map entries) :
    mapping data name = .error (.sectionNotMapping name) := by
  rw [mapping, hValue]
  split
  case h_1 h => cases h
  case h_2 h =>
    cases h
    cases hNull
  case h_3 entries h => exact absurd (Option.some.inj h) (hShape entries)
  case h_4 => rfl

theorem items_eq_error {name : String} {value : Value} (hValue : field? data name = some value)
    (hNull : value.isNull = false) (hShape : ∀ items, value ≠ .list items) :
    items data name = .error (.sectionNotList name) := by
  rw [items, hValue]
  split
  case h_1 h => cases h
  case h_2 h =>
    cases h
    cases hNull
  case h_3 items h => exact absurd (Option.some.inj h) (hShape items)
  case h_4 => rfl

theorem rulesIn_eq_error {α : Type} {name : String} {cause : SourceError}
    (h : items data name = .error cause) (read : Value → Nat → Except SourceError α) :
    rulesIn data name read = .error cause := by
  rw [rulesIn, h]
  rfl

theorem Misshapen.illegible {name : String} {value : Value} (h : Misshapen name value)
    (hValue : field? data name = some value) : Illegible data := by
  cases h with
  | mapping hName hNull hShape => exact .mapping hName (mapping_eq_error hValue hNull hShape)
  | list hName hNull hShape =>
      have hItems := items_eq_error hValue hNull hShape
      rcases List.mem_pair.mp hName with rfl | rfl
      · exact .access (rulesIn_eq_error hItems _)
      · exact .shell (rulesIn_eq_error hItems _)

/-- Data with such a section is refused for a reason that is told. -/
theorem exists_read_eq_error (h : Illegible data) (name : String)
    (environment : Option String) (halves : Text.Halves) :
    ∃ cause, read data name environment halves = .error cause ∧ cause.isReported = true := by
  refine Meets.exists_error ?_
  rw [read_eq]
  refine (mapping_tells data "autoApprovers").self.bind fun approvers hApprovers => ?_
  refine (nameIn_tells data name).bind fun _ _ => ?_
  refine ((mapping_tells data "groups").bind fun _ _ => textLists_tells _ _).self.bind
    fun groups hGroups => ?_
  refine ((mapping_tells data "tagOwners").bind fun _ _ => textLists_tells _ _).self.bind
    fun owners hOwners => ?_
  refine ((mapping_tells data "hosts").bind fun _ _ => textTable_tells _).self.bind
    fun hosts hHosts => ?_
  refine (rulesIn_tells data "acls" accessSpec_tells).self.bind fun acls hAcls => ?_
  refine (rulesIn_tells data "ssh" shellSpec_tells).self.bind fun ssh hSsh => ?_
  refine (texts_tells _ _).bind fun _ _ => ?_
  refine (routeSpecs_tells _).bind fun _ _ => ?_
  cases hTailnet : mapping data "tailnet" with
  | error cause =>
      have hCause := mapping_tells data "tailnet"
      rw [hTailnet] at hCause
      cases hCause with
      | error hCause => exact .error hCause
  | ok tailnet =>
      -- All sections that could have been in the way were read by now.
      exfalso
      obtain ⟨_, hGroups, -⟩ := bind_eq_ok_iff.mp hGroups
      obtain ⟨_, hOwners, -⟩ := bind_eq_ok_iff.mp hOwners
      obtain ⟨_, hHosts, -⟩ := bind_eq_ok_iff.mp hHosts
      cases h with
      | mapping hName h =>
          simp only [mappingSections, List.mem_cons, List.not_mem_nil, or_false] at hName
          rcases hName with rfl | rfl | rfl | rfl | rfl
          · exact nomatch h.symm.trans hGroups
          · exact nomatch h.symm.trans hOwners
          · exact nomatch h.symm.trans hHosts
          · exact nomatch h.symm.trans hApprovers
          · exact nomatch h.symm.trans hTailnet
      | access h => exact nomatch h.symm.trans hAcls
      | shell h => exact nomatch h.symm.trans hSsh

end Tailnet.Source
