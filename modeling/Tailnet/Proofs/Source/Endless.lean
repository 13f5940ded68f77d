import Tailnet.Proofs.Source.Refusal
import Tailnet.Proofs.Source.Shape

/-!
Data that is refused without a word to the author. Days without end are the only reason for it, and
they have to be met: what is read before them has its shape.
-/

namespace Tailnet.Source

/-- Whether a computation fails for a reason that is not told. -/
def Escapes {α : Type} (x : Except SourceError α) : Prop :=
  ∃ cause, x = .error cause ∧ cause.isReported = false

section Escaping

variable {α β : Type} {x : Except SourceError α} {f : α → Except SourceError β}

theorem Tells.not_escapes (h : Tells x) : ¬Escapes x := by
  rintro ⟨cause, rfl, hCause⟩
  cases h with
  | error hTold =>
      rw [hCause] at hTold
      cases hTold

theorem escapes_bind_iff : Escapes (x >>= f) ↔ Escapes x ∨ ∃ a, x = .ok a ∧ Escapes (f a) := by
  cases x with
  | error cause => simp [Escapes, bind, Except.bind]
  | ok a => simp [Escapes, bind, Except.bind]

/-- After a part that tells what is wrong, only the rest can fail otherwise. -/
theorem Tells.escapes_bind_iff (h : Tells x) :
    Escapes (x >>= f) ↔ ∃ a, x = .ok a ∧ Escapes (f a) := by
  rw [Source.escapes_bind_iff, or_iff_right h.not_escapes]

/-- Before a part that tells what is wrong, only the rest can fail otherwise. -/
theorem escapes_bind_iff_of_tells (h : ∀ a, Tells (f a)) : Escapes (x >>= f) ↔ Escapes x := by
  rw [escapes_bind_iff, or_iff_left]
  rintro ⟨a, -, hEscapes⟩
  exact (h a).not_escapes hEscapes

end Escaping

/-- A number without end. -/
def Endless (value : Value) : Prop :=
  ∃ x negative, value = .scalar (.float x) ∧ Decimal.Parts.ofFloat x = .infinite negative

/-- Something of a shape that is there. -/
def Present (shape : Value → Prop) (found : Option Value) : Prop :=
  ∃ value, found = some value ∧ shape value

/-- Options of keys whose days are without end. What is read before the days has its shape. -/
structure EndlessKeys (data : Mapping) : Prop extends FeaturesShape data where
  days : Present Endless (field? data "keyExpiryDays")

/-- Options of a tailnet in which such days are met. -/
structure EndlessTailnet (data : Mapping) : Prop where
  dns : Optionally (MapOf DnsShape) (field? data "dns")
  keys : Present (MapOf EndlessKeys) (field? data "keys")

/-- Data in which such days are met. What is read before them has its shape, and the name can be
shown. -/
structure EndlessDays (data : Mapping) (name : String) : Prop extends PolicyShape data where
  name : (nameValue data name).isShort = true
  tailnet : Present (MapOf EndlessTailnet) (field? data "tailnet")

section Endings

variable {data : Mapping}

theorem not_endless {value : Value} (h : ∀ x, value ≠ .scalar (.float x)) : ¬Endless value := by
  rintro ⟨x, _, hEq, -⟩
  exact h x hEq

theorem not_present_none (shape : Value → Prop) : ¬Present shape none := by
  rintro ⟨_, hFound, -⟩
  cases hFound

theorem toInteger_eq_infinite_iff {value : Value} :
    value.toInteger = .error .infinite ↔ Endless value := by
  have hNumeral {x : Except Integer.NumeralError Int} :
      x.mapError ConversionError.numeral ≠ .error .infinite := by
    cases x <;> simp [Except.mapError]
  cases value with
  | scalar s =>
      cases s with
      | float x =>
          rw [Value.toInteger, truncate]
          cases hParts : Decimal.Parts.ofFloat x <;> simp [Endless, hParts]
      | text s => exact iff_of_false hNumeral (not_endless (by simp))
      | bytes data => exact iff_of_false hNumeral (not_endless (by simp))
      | _ => exact iff_of_false (by simp [Value.toInteger]) (not_endless (by simp))
  | _ => exact iff_of_false (by simp [Value.toInteger]) (not_endless (by simp))

theorem escapes_toInteger_iff {value : Value} :
    Escapes (value.toInteger.mapError SourceError.conversion) ↔ Endless value := by
  rw [← toInteger_eq_infinite_iff]
  cases value.toInteger with
  | ok n => simp [Escapes, Except.mapError]
  | error cause =>
      cases cause <;> simp [Escapes, Except.mapError, SourceError.isReported]

theorem feature_tells (place : String) (found : Option Value) : Tells (feature place found) := by
  unfold feature
  split
  · exact .ok trivial
  · exact .ok trivial
  · exact .ok trivial
  · exact (texts_tells _ _).bind fun _ _ => .ok trivial
  · exact .error rfl

theorem dnsOptions_tells (data : Mapping) : Tells (dnsOptions data) :=
  (mapping_tells _ _).bind fun _ _ => (texts_tells _ _).bind fun _ _ =>
    (texts_tells _ _).bind fun _ _ => (textLists_tells _ _).bind fun _ _ => .ok trivial

/-- A section that must be there to be read as it is. -/
theorem exists_mapping_iff_present {shape : Mapping → Prop} (hNone : ¬shape []) (name : String) :
    (∃ entries, mapping data name = .ok entries ∧ shape entries) ↔
      Present (MapOf shape) (field? data name) := by
  unfold mapping
  split
  case h_1 hFound => simp [hFound, hNone, Present]
  case h_2 hFound => simp [hFound, hNone, Present, MapOf]
  case h_3 entries hFound => simp [hFound, Present, MapOf]
  case h_4 value _ hMap hFound =>
    rw [hFound]
    refine iff_of_false ?_ ?_
    · rintro ⟨_, hRead, -⟩
      cases hRead
    · rintro ⟨_, hEq, entries, rfl, -⟩
      exact hMap entries (Option.some.inj hEq)

theorem endless_days_iff : Endless ((field? data "keyExpiryDays").getD (.int 90)) ↔
    Present Endless (field? data "keyExpiryDays") := by
  cases field? data "keyExpiryDays" with
  | none => exact iff_of_false (not_endless (by simp [Value.int])) (not_present_none _)
  | some value => simp [Present]

/-- The features are read before the days. What is read after the days tells what is wrong. -/
theorem escapes_keyOptions_iff : Escapes (keyOptions data) ↔ EndlessKeys data := by
  unfold keyOptions
  simp only [(feature_tells _ _).escapes_bind_iff]
  have hRest {β : Type} {f : Int → Except SourceError β} (h : ∀ days, Tells (f days)) :
      Escapes (do
        let days ← ((field? data "keyExpiryDays").getD (.int 90)).toInteger.mapError .conversion
        f days) ↔ Present Endless (field? data "keyExpiryDays") := by
    rw [escapes_bind_iff_of_tells h, escapes_toInteger_iff, endless_days_iff]
  refine (exists_congr fun ephemeral => and_congr_right' <| exists_congr fun infra =>
    and_congr_right' <| hRest fun days => (texts_tells _ _).bind fun tags _ => ?_).trans ?_
  · split
    case isTrue => exact .ok trivial
    case isFalse => exact .error rfl
  · simp only [exists_and_right, exists_feature_iff]
    constructor
    · rintro ⟨hEphemeral, hInfra, hDays⟩
      exact ⟨⟨hEphemeral, hInfra⟩, hDays⟩
    · intro h
      exact ⟨h.ephemeral, h.infra, h.days⟩

theorem not_endlessKeys_nil : ¬EndlessKeys [] := fun h => not_present_none _ h.days

/-- The name service is read before the keys, and what is read after them tells what is wrong. -/
theorem escapes_tailnetOptions_iff : Escapes (tailnetOptions data) ↔ EndlessTailnet data := by
  unfold tailnetOptions
  simp only [(mapping_tells _ _).escapes_bind_iff, (dnsOptions_tells _).escapes_bind_iff]
  have hRest {β : Type} {f : KeyOptions → Except SourceError β} (h : ∀ keys, Tells (f keys)) :
      (∃ keys, mapping data "keys" = .ok keys ∧ Escapes (keyOptions keys >>= f)) ↔
        Present (MapOf EndlessKeys) (field? data "keys") := by
    simp only [escapes_bind_iff_of_tells h, escapes_keyOptions_iff,
      exists_mapping_iff_present not_endlessKeys_nil]
  refine (exists_congr fun dns => and_congr_right' <| exists_congr fun options =>
    and_congr_right' <| hRest fun keys => (mapping_tells _ _).bind fun _ _ =>
      (mapping_tells _ _).bind fun _ _ => (textTable_tells _).bind fun contacts _ => ?_).trans ?_
  · split
    case h_1 => exact .ok trivial
    case h_2 => exact .error rfl
  · simp only [exists_and_right, exists_dnsOptions_iff_shape, ← and_assoc,
      exists_mapping_iff dnsShape_nil]
    constructor
    · rintro ⟨hDns, hKeys⟩
      exact ⟨hDns, hKeys⟩
    · intro h
      exact ⟨h.dns, h.keys⟩

theorem not_endlessTailnet_nil : ¬EndlessTailnet [] := fun h => not_present_none _ h.keys

theorem escapes_tailnet_iff : Escapes (mapping data "tailnet" >>= tailnetOptions) ↔
    Present (MapOf EndlessTailnet) (field? data "tailnet") := by
  rw [(mapping_tells _ _).escapes_bind_iff]
  simp only [escapes_tailnetOptions_iff, exists_mapping_iff_present not_endlessTailnet_nil]

/-- The options of the tailnet are read last, and only they can fail for a reason that is not
told. -/
theorem escapes_read_iff {name : String} {environment : Option String} {halves : Text.Halves} :
    Escapes (read data name environment halves) ↔ EndlessDays data name := by
  have hLists (place : String) : Tells (mapping data place >>= textLists place) :=
    (mapping_tells _ _).bind fun _ _ => textLists_tells _ _
  have hHosts : Tells (mapping data "hosts" >>= textTable) :=
    (mapping_tells _ _).bind fun _ _ => textTable_tells _
  have hEnd (named : String) (rest : TailnetOptions → Source) : Escapes (do
      let tailnet ← mapping data "tailnet" >>= tailnetOptions
      if named = "" then throw .nameMissing
      return rest tailnet) ↔ Present (MapOf EndlessTailnet) (field? data "tailnet") := by
    rw [escapes_bind_iff_of_tells, escapes_tailnet_iff]
    intro tailnet
    split
    case isTrue => exact .error rfl
    case isFalse => exact .ok trivial
  rw [read_eq]
  simp only [(mapping_tells _ "autoApprovers").escapes_bind_iff,
    (nameIn_tells _ _).escapes_bind_iff, (hLists _).escapes_bind_iff, hHosts.escapes_bind_iff,
    (rulesIn_tells data "acls" accessSpec_tells).escapes_bind_iff,
    (rulesIn_tells data "ssh" shellSpec_tells).escapes_bind_iff, (texts_tells _ _).escapes_bind_iff,
    (routeSpecs_tells _).escapes_bind_iff, hEnd]
  constructor
  · rintro ⟨approvers, hApprovers, named, hName, groups, hGroups, owners, hOwners, hosts, hHosts,
      acls, hAcls, ssh, hSsh, exitNode, hExitNode, routes, hRoutes, hTailnet⟩
    have hExit : exitNodeIn data = .ok exitNode := by
      rw [exitNodeIn, hApprovers, ok_bind, hExitNode]
    have hGrants : routesIn data = .ok routes := by rw [routesIn, hApprovers, ok_bind, hRoutes]
    rw [nameIn_eq] at hName
    exact {
      toPolicyShape := exists_policy_iff.mp ⟨⟨_, hGroups⟩, ⟨_, hOwners⟩, ⟨_, hHosts⟩, ⟨_, hAcls⟩,
        ⟨_, hSsh⟩, ⟨_, hExit⟩, ⟨_, hGrants⟩⟩
      name := exists_textOf_iff.mp ⟨_, hName⟩
      tailnet := hTailnet }
  · intro h
    obtain ⟨⟨groups, hGroups⟩, ⟨owners, hOwners⟩, ⟨hosts, hHosts⟩, ⟨acls, hAcls⟩, ⟨ssh, hSsh⟩,
      ⟨exitNode, hExit⟩, routes, hGrants⟩ := exists_policy_iff.mpr h.toPolicyShape
    obtain ⟨named, hName⟩ := exists_textOf_iff.mpr h.name
    rw [← nameIn_eq] at hName
    obtain ⟨approvers, hApprovers, hExitNode⟩ := bind_eq_ok_iff.mp hExit
    rw [routesIn, hApprovers, ok_bind] at hGrants
    exact ⟨approvers, hApprovers, named, hName, groups, hGroups, owners, hOwners, hosts, hHosts,
      acls, hAcls, ssh, hSsh, exitNode, hExitNode, routes, hGrants, h.tailnet⟩

end Endings

/-- Data is read exactly if it has the shape of a source. Data of any other shape is refused for a
reason that is told, exactly unless days without end are met. -/
theorem reads_iff_wellShaped (data : Mapping) (name : String) (environment : Option String)
    (halves : Text.Halves) :
    ((∃ source, read data name environment halves = .ok source) ↔ WellShaped data name) ∧
      ((∃ cause, read data name environment halves = .error cause ∧ cause.isReported = true) ↔
        ¬WellShaped data name ∧ ¬EndlessDays data name) := by
  have hRead : (∃ source, read data name environment halves = .ok source) ↔ WellShaped data name :=
    exists_read_iff
  have hEscapes : Escapes (read data name environment halves) ↔ EndlessDays data name :=
    escapes_read_iff
  refine ⟨hRead, ?_⟩
  rw [← hRead, ← hEscapes]
  cases read data name environment halves with
  | ok source => simp
  | error cause => simp [Escapes]

/-- A number of days without end is refused like any other, but the author is not told. -/
theorem exists_read_escapes : ∃ data name,
    ¬WellShaped data name ∧ read data name none = .error (.conversion .infinite) ∧
      (SourceError.conversion .infinite).isReported = false := by
  let data : Mapping := [(.text "tailnet", .record [("keys", .record
    [("keyExpiryDays", .scalar (.float (1.0 / 0.0)))])])]
  have hRead : read data "policy" none = .error (.conversion .infinite) := rfl
  refine ⟨data, "policy", fun hShape => ?_, hRead, rfl⟩
  obtain ⟨source, hSource⟩ := exists_read_iff.mpr hShape
  cases hRead.symm.trans hSource

end Tailnet.Source
