import Tailnet.Proofs.Policy.Serialization

/-!
Faults of documents: what in a document as data has no JSON text, in the order in which it stands
there. A document is written exactly if it has none and no surrogates. The search for a fault names
the first one by its place, but it passes over integers with too many digits, which only writing
finds and nothing names; a key that is such an integer cannot be named either, and in a collection
that is a part of itself the search does not end. Surrogates are found last, and not reported.
-/

namespace Tailnet

/-- A part of a value: a scalar, a key of a mapping, a set, or a collection that leads back to one
around it. -/
inductive Part where
  | scalar (s : Scalar)
  | key (k : Scalar)
  | set
  | loop

namespace Part

/-- Whether a part has a JSON text. As keys only texts have one. -/
def isRepresentable : Part → Bool
  | scalar s => s.isSendable
  | key (.text _) => true
  | key _ | set | loop => false

/-- Whether a part is an integer that cannot be written. -/
def isLongInteger : Part → Bool
  | scalar (.int n) => !Integer.isWritable n
  | _ => false

/-- What keeps a fault from being reported: a key must be shown for that, and a collection that is
a part of itself is never searched through. -/
def unreported? : Part → Option UnreportedError
  | key (.int n) => if Integer.isWritable n then none else some (.numeral .tooLongToWrite)
  | loop => some .endless
  | _ => none

end Part

namespace Value

mutual

/-- The parts of a value with their places, in the order in which they stand in it. A key stands at
the place of its mapping, and what is below a key that is no text has no place. -/
def parts (location : Path) : Value → List (Path × Part)
  | .scalar s => [(location, .scalar s)]
  | .list items | .tuple items => itemParts location 0 items
  | .set _ => [(location, .set)]
  | .map entries => entryParts location entries
  | .loop .. => [(location, .loop)]

/-- The parts of the items of a list from a position on. -/
def itemParts (location : Path) (index : Nat) : List Value → List (Path × Part)
  | [] => []
  | item :: rest => parts (location ++ [.item index]) item ++ itemParts location (index + 1) rest

/-- The parts of the entries of a mapping. -/
def entryParts (location : Path) : List (Scalar × Value) → List (Path × Part)
  | [] => []
  | (key, value) :: rest =>
    (location, .key key) ::
      (match key with
        | .text name => parts (location ++ [.field name]) value
        | _ => []) ++ entryParts location rest

end

end Value

/-- The faults of a value: its parts that have no JSON text. -/
def Value.faults (location : Path) (value : Value) : List (Path × Part) :=
  (value.parts location).filter fun part => !part.2.isRepresentable

/-- The faults of a document as data. -/
def Document.faults (document : Document) : List (Path × Part) := document.toValue.faults []

section Checking

/-- Whether the search for a fault stops at a part. -/
def Part.stops (part : Part) : Bool := !part.isRepresentable && !part.isLongInteger

/-- The error with which the search stops at a part. -/
def Part.error (location : Path) : Part → EncodingError
  | scalar (.float _) | scalar .nan => .notFinite location
  | scalar s => .unrepresentable s.typeName location
  | key k => .keyNotText k location
  | set => .unrepresentable (Value.set []).typeName location
  | loop => .endless

/-- The outcome of a search through parts. -/
def searched (parts : List (Path × Part)) : Except EncodingError Unit :=
  match parts.find? (·.2.stops) with
  | some (location, part) => .error (part.error location)
  | none => .ok ()

theorem searched_append (first rest : List (Path × Part)) :
    searched (first ++ rest) = (searched first >>= fun _ => searched rest) := by
  rw [searched, searched, List.find?_append]
  cases first.find? (·.2.stops) with
  | some found => rfl
  | none => rfl

theorem searched_cons_of_stops {part : Part} (h : part.stops = true) (location : Path)
    (rest : List (Path × Part)) :
    searched ((location, part) :: rest) = .error (part.error location) := by
  simp only [searched, List.find?_cons, h]

theorem searched_cons_of_passes {part : Part} (h : part.stops = false) (location : Path)
    (rest : List (Path × Part)) : searched ((location, part) :: rest) = searched rest := by
  simp only [searched, List.find?_cons, h]

theorem Scalar.isSendable_nan : Scalar.isSendable .nan = false := by decide +kernel

theorem Scalar.checkWritable_eq (location : Path) (s : Scalar) :
    s.checkWritable location = searched [(location, .scalar s)] := by
  cases s with
  | float x =>
      rw [checkWritable]
      cases hFinite : Decimal.isFinite x with
      | true => simp [searched, Part.stops, Part.isRepresentable, isSendable, hFinite]
      | false =>
          simp [searched, Part.stops, Part.isRepresentable, Part.isLongInteger, Part.error,
            isSendable, hFinite]
  | nan =>
      simp [searched, Part.stops, Part.isRepresentable, Part.isLongInteger, Part.error,
        isSendable_nan, checkWritable]
  | int n =>
      have hPasses : Part.stops (.scalar (.int n)) = false := by
        simp [Part.stops, Part.isRepresentable, Part.isLongInteger, isSendable]
      rw [searched_cons_of_passes hPasses location]
      rfl
  | _ => rfl

namespace Value

mutual

/-- The search goes through the parts in their order. -/
theorem checkWritable_eq_searched (location : Path) :
    ∀ value : Value, value.checkWritable location = searched (value.parts location)
  | .scalar s => Scalar.checkWritable_eq location s
  | .list items | .tuple items => checkItems_eq_searched location 0 items
  | .set _ => rfl
  | .map entries => checkEntries_eq_searched location entries
  | .loop .. => rfl

theorem checkItems_eq_searched (location : Path) (index : Nat) :
    ∀ items : List Value,
      checkItems location index items = searched (itemParts location index items)
  | [] => rfl
  | item :: rest => by
      rw [checkItems, itemParts, searched_append,
        checkWritable_eq_searched (location ++ [Step.item index]) item,
        checkItems_eq_searched location (index + 1) rest]

theorem checkEntries_eq_searched (location : Path) :
    ∀ entries : List (Scalar × Value),
      checkEntries location entries = searched (entryParts location entries)
  | [] => rfl
  | (.text name, value) :: rest => by
      rw [checkEntries, entryParts, List.cons_append, searched_cons_of_passes rfl, searched_append,
        checkWritable_eq_searched (location ++ [Step.field name]) value,
        checkEntries_eq_searched location rest]
  | (.null, _) :: _ | (.bool _, _) :: _ | (.int _, _) :: _ | (.float _, _) :: _ | (.nan, _) :: _
  | (.bytes _, _) :: _ | (.date _, _) :: _ | (.time _, _) :: _ => by
      simp only [entryParts, List.cons_append]
      rw [searched_cons_of_stops] <;> rfl

end

end Value

end Checking

section Writing

variable {parts : List (Path × Part)} {part : Part}

theorem Part.stops_eq_false_of_isRepresentable (h : part.isRepresentable = true) :
    part.stops = false := by
  rw [stops, h]
  rfl

theorem searched_eq_ok_iff : searched parts = .ok () ↔ ∀ part ∈ parts, part.2.stops = false := by
  unfold searched
  cases hFound : parts.find? (·.2.stops) with
  | some found =>
      refine iff_of_false (by simp) fun hPasses => ?_
      have hStops := List.find?_some hFound
      rw [hPasses found (List.mem_of_find?_eq_some hFound)] at hStops
      cases hStops
  | none => simpa using hFound

namespace Value

mutual

/-- A value through which the search passes has a JSON text exactly if all its parts have. -/
theorem isSendable_iff_of_passes (location : Path) :
    ∀ value : Value, (∀ part ∈ value.parts location, part.2.stops = false) →
      (value.isSendable = true ↔ ∀ part ∈ value.parts location, part.2.isRepresentable = true)
  | .scalar s, _ => by
      rw [parts, List.forall_mem_singleton]
      rfl
  | .list items, h | .tuple items, h => by
      rw [parts] at h ⊢
      exact itemsSendable_iff_of_passes location 0 items h
  | .map entries, h => by
      rw [parts] at h ⊢
      exact entriesSendable_iff_of_passes location entries h
  | .set _, _ | .loop .., _ => by
      rw [parts, List.forall_mem_singleton]
      rfl

theorem itemsSendable_iff_of_passes (location : Path) (index : Nat) :
    ∀ items : List Value,
      (∀ part ∈ itemParts location index items, part.2.stops = false) →
      (itemsSendable items = true ↔
        ∀ part ∈ itemParts location index items, part.2.isRepresentable = true)
  | [], _ => iff_of_true rfl (List.forall_mem_nil _)
  | item :: rest, h => by
      rw [itemParts, List.forall_mem_append] at h ⊢
      rw [itemsSendable, Bool.and_eq_true,
        isSendable_iff_of_passes (location ++ [Step.item index]) item h.1,
        itemsSendable_iff_of_passes location (index + 1) rest h.2]

theorem entriesSendable_iff_of_passes (location : Path) :
    ∀ entries : List (Scalar × Value),
      (∀ part ∈ entryParts location entries, part.2.stops = false) →
      (entriesSendable entries = true ↔
        ∀ part ∈ entryParts location entries, part.2.isRepresentable = true)
  | [], _ => iff_of_true rfl (List.forall_mem_nil _)
  | (.text name, value) :: rest, h => by
      rw [entryParts, List.forall_mem_append, List.forall_mem_cons] at h ⊢
      rw [entriesSendable, Bool.and_eq_true, Bool.and_eq_true,
        isSendable_iff_of_passes (location ++ [Step.field name]) value h.1.2,
        entriesSendable_iff_of_passes location rest h.2, and_assoc]
      rfl
  | (.null, _) :: _, h | (.bool _, _) :: _, h | (.int _, _) :: _, h | (.float _, _) :: _, h
  | (.nan, _) :: _, h | (.bytes _, _) :: _, h | (.date _, _) :: _, h | (.time _, _) :: _, h => by
      -- The search stops at the key.
      simp only [entryParts, List.cons_append, List.forall_mem_cons] at h
      cases h.1

end

theorem faults_eq_nil_iff {value : Value} {location : Path} :
    value.faults location = [] ↔
      ∀ part ∈ value.parts location, part.2.isRepresentable = true := by
  simp [faults]

/-- A value has no faults exactly if it is checked and has a JSON text. -/
theorem faults_eq_nil_iff_isSendable {value : Value} {location : Path} :
    value.faults location = [] ↔
      value.checkWritable location = .ok () ∧ value.isSendable = true := by
  rw [checkWritable_eq_searched, searched_eq_ok_iff, faults_eq_nil_iff]
  constructor
  · intro h
    have hPasses : ∀ part ∈ value.parts location, part.2.stops = false :=
      fun part hPart => Part.stops_eq_false_of_isRepresentable (h part hPart)
    exact ⟨hPasses, (isSendable_iff_of_passes location value hPasses).mpr h⟩
  · rintro ⟨hPasses, hSendable⟩
    exact (isSendable_iff_of_passes location value hPasses).mp hSendable

end Value

namespace Document

variable {document : Document} {indent : Option Int}

/-- A document without faults is checked and has a text. -/
theorem exists_written_iff (indent : Option Int) :
    document.faults = [] ↔ document.toValue.checkWritable [] = .ok () ∧
      ∃ written, Json.write (.readable (indent.map Int.toNat)) document.toValue = .ok written := by
  have hStrict : (Json.Format.readable (indent.map Int.toNat)).namesNonFinite = false := by
    cases indent <;> rfl
  rw [faults, Value.faults_eq_nil_iff_isSendable, ← Json.exists_write_iff hStrict]

/-- A document is written exactly if it has no faults and no surrogates. -/
theorem exists_serialize_iff_faults (indent : Option Int) :
    (∃ text, document.serialize indent = .ok text) ↔
      document.faults = [] ∧ document.toValue.isEncodable document.halves = true := by
  rw [exists_written_iff indent]
  simp only [serialize_eq_ok_iff]
  constructor
  · rintro ⟨_, hCheck, hWhole, written, hWritten, -⟩
    exact ⟨⟨hCheck, written, hWritten⟩, hWhole⟩
  · rintro ⟨⟨hCheck, written, hWritten⟩, hWhole⟩
    exact ⟨_, hCheck, hWhole, written, hWritten, rfl⟩

/-- A document with faults fails at the first one that is no integer, or else when it is written. -/
theorem eq_of_serialize_error {error : EncodingError} (hFaults : document.faults ≠ [])
    (h : document.serialize indent = .error error) :
    match document.faults.find? (!·.2.isLongInteger) with
    | some (location, part) => error = part.error location
    | none => ∃ cause, error = .writing cause := by
  have hFind : document.faults.find? (!·.2.isLongInteger) =
      (document.toValue.parts []).find? (·.2.stops) := by
    simp [faults, Value.faults, List.find?_filter, Part.stops]
  have hSearched := Value.checkWritable_eq_searched [] document.toValue
  rw [searched] at hSearched
  rw [hFind]
  rw [serialize] at h
  cases hFound : (document.toValue.parts []).find? (·.2.stops) with
  | some found =>
      rw [hFound] at hSearched
      rw [hSearched] at h
      exact (Except.error.inj h).symm
  | none =>
      rw [hFound] at hSearched
      rw [hSearched] at h
      rcases bind_eq_error_iff.mp h with hChecked | ⟨_, -, hWritten⟩
      · cases hChecked
      · rcases bind_eq_error_iff.mp hWritten with hText | ⟨cs, hText, -⟩
        · obtain ⟨cause, -, hCause⟩ := mapError_eq_error_iff.mp hText
          exact ⟨cause, hCause.symm⟩
        · have hWritten := Json.write_eq_ok_iff.mpr ⟨cs, mapError_eq_ok_iff.mp hText, rfl⟩
          exact absurd ((exists_written_iff indent).mpr ⟨hSearched, _, hWritten⟩) hFaults

end Document

end Writing

section Periods

namespace Value

variable {location : Path}

theorem faults_null : null.faults location = [] := rfl

theorem faults_text (s : String) : (text s).faults location = [] := rfl

theorem faults_list_map {α : Type} (items : List α) (written : α → Value) :
    (list (items.map written)).faults location =
      items.zipIdx.flatMap fun (item, index) =>
        (written item).faults (location ++ [.item index]) := by
  have hItems (start : Nat) :
      (itemParts location start (items.map written)).filter (!·.2.isRepresentable) =
        (items.zipIdx start).flatMap fun (item, index) =>
          (written item).faults (location ++ [.item index]) := by
    induction items generalizing start with
    | nil => rfl
    | cons item rest ih =>
        rw [List.map_cons, itemParts, List.filter_append, ih (start + 1), List.zipIdx_cons,
          List.flatMap_cons]
        rfl
  exact hItems 0

theorem faults_texts (ss : List String) : (texts ss).faults location = [] := by
  rw [texts, faults_list_map]
  exact List.flatMap_eq_nil_iff.mpr fun _ _ => faults_text _

theorem faults_record (fields : List (String × Value)) :
    (record fields).faults location =
      fields.flatMap fun (name, value) => value.faults (location ++ [.field name]) := by
  rw [faults, record, parts]
  induction fields with
  | nil => rfl
  | cons field rest ih =>
      rw [List.map_cons, entryParts, List.filter_append, ih, List.flatMap_cons]
      rfl

theorem faults_record_eq_nil {fields : List (String × Value)}
    (h : ∀ field ∈ fields, ∀ place, field.2.faults place = []) :
    (record fields).faults location = [] := by
  rw [faults_record]
  exact List.flatMap_eq_nil_iff.mpr fun field hField => h field hField _

end Value

theorem AccessRule.faults_toValue (rule : AccessRule) (location : Path) :
    rule.toValue.faults location = [] := by
  refine Value.faults_record_eq_nil ?_
  simp [Value.faults_text, Value.faults_texts]

theorem ShellRule.faults_toValue (rule : ShellRule) (location : Path) :
    rule.toValue.faults location =
      rule.checkPeriod.faults (location ++ [.field "checkPeriod"]) := by
  rw [toValue, Value.faults_record]
  split
  case isTrue hNull =>
    rw [Value.eq_null_of_isNull hNull]
    simp [Value.faults_null, Value.faults_text, Value.faults_texts]
  case isFalse => simp [Value.faults_text, Value.faults_texts]

theorem Approvals.faults_toValue (approvals : Approvals) (location : Path) :
    approvals.toValue.faults location = [] := by
  refine Value.faults_record_eq_nil (List.forall_mem_cons.mpr
    ⟨fun _ => Value.faults_texts _, List.forall_mem_singleton.mpr fun _ => ?_⟩)
  exact Value.faults_record_eq_nil (List.forall_mem_map.mpr fun _ _ _ => Value.faults_texts _)

namespace Document

theorem faults_entriesValue (mark : String) (entries : List Entry) (location : Path) :
    (entriesValue mark entries).faults location = [] :=
  Value.faults_record_eq_nil (List.forall_mem_map.mpr fun _ _ _ => Value.faults_texts _)

/-- Only the free-form periods of shell rules can be at fault. -/
theorem faults_eq (document : Document) :
    document.faults = document.shell.zipIdx.flatMap fun (rule, index) =>
      rule.checkPeriod.faults [.field "ssh", .item index, .field "checkPeriod"] := by
  have hHosts (location : Path) :
      (Value.record (document.catalog.hosts.values.map fun host =>
        (host.name, .text host.address))).faults location = [] :=
    Value.faults_record_eq_nil (List.forall_mem_map.mpr fun _ _ _ => Value.faults_text _)
  have hAccess (location : Path) :
      (Value.list (document.access.map AccessRule.toValue)).faults location = [] := by
    rw [Value.faults_list_map]
    exact List.flatMap_eq_nil_iff.mpr fun _ _ => AccessRule.faults_toValue _ _
  rw [faults, toValue, Value.faults_record]
  split <;>
    simp [faults_entriesValue, hHosts, hAccess, Approvals.faults_toValue, Value.faults_list_map,
      ShellRule.faults_toValue]

end Document

end Periods

section Places

/-- What is found at the place of a part: a scalar, the mapping that has a key, a set, or a
collection that leads back. -/
inductive Part.IsOf : Part → Value → Prop where
  | scalar (s : Scalar) : IsOf (.scalar s) (.scalar s)
  | key {k : Scalar} {entries : Mapping} (h : k ∈ Table.keys entries) : IsOf (.key k) (.map entries)
  | set (members : List Scalar) : IsOf .set (.set members)
  | loop (up : Nat) (shape : Shape) : IsOf .loop (.loop up shape)

namespace Value

variable {location : Path} {part : Path × Part}

theorem exists_of_mem_itemParts {items : List Value} {index : Nat}
    (h : part ∈ itemParts location index items) :
    ∃ i, ∃ item : Value, items[i]? = some item ∧
      part ∈ item.parts (location ++ [.item (index + i)]) := by
  induction items generalizing index with
  | nil => cases h
  | cons item rest ih =>
      rw [itemParts, List.mem_append] at h
      rcases h with hItem | hRest
      · exact ⟨0, item, rfl, hItem⟩
      · obtain ⟨i, other, hOther, hPart⟩ := ih hRest
        rw [Nat.add_right_comm] at hPart
        exact ⟨i + 1, other, hOther, hPart⟩

theorem of_mem_entryParts {entries : Mapping} (h : part ∈ entryParts location entries) :
    (∃ k ∈ Table.keys entries, part = (location, .key k)) ∨
      ∃ name value, (.text name, value) ∈ entries ∧
        part ∈ value.parts (location ++ [.field name]) := by
  induction entries with
  | nil => cases h
  | cons entry rest ih =>
      obtain ⟨key, value⟩ := entry
      have hSplit : part = (location, .key key) ∨
          (∃ name, key = .text name ∧ part ∈ value.parts (location ++ [.field name])) ∨
            part ∈ entryParts location rest := by
        cases key with
        | text name => simpa [entryParts] using h
        | _ => simpa [entryParts] using h
      rcases hSplit with rfl | ⟨name, rfl, hValue⟩ | hRest
      · exact .inl ⟨key, List.mem_cons_self, rfl⟩
      · exact .inr ⟨name, value, List.mem_cons_self, hValue⟩
      · rcases ih hRest with ⟨k, hKey, rfl⟩ | ⟨name, other, hOther, hPart⟩
        · exact .inl ⟨k, List.mem_cons_of_mem _ hKey, rfl⟩
        · exact .inr ⟨name, other, List.mem_cons_of_mem _ hOther, hPart⟩

/-- The parts of a value are found in it at their places. -/
theorem Distinct.exists_of_mem_parts {value : Value} (h : value.Distinct) :
    ∀ {location}, part ∈ value.parts location →
      ∃ rest found, part.1 = location ++ rest ∧ Path.resolve? rest value = some found ∧
        part.2.IsOf found := by
  have hItems {items : List Value} {whole : Value} {location : Path}
      (hFollow : ∀ i, (Step.item i).follow? whole = items[i]?)
      (ih : ∀ item ∈ items, ∀ {location}, part ∈ item.parts location →
        ∃ rest found, part.1 = location ++ rest ∧ Path.resolve? rest item = some found ∧
          part.2.IsOf found) (hPart : part ∈ itemParts location 0 items) :
      ∃ rest found, part.1 = location ++ rest ∧ Path.resolve? rest whole = some found ∧
        part.2.IsOf found := by
    obtain ⟨i, item, hItem, hPart⟩ := exists_of_mem_itemParts hPart
    obtain ⟨rest, found, hPlace, hFound, hOf⟩ := ih item (List.mem_of_getElem? hItem) hPart
    rw [Nat.zero_add, List.append_assoc] at hPlace
    refine ⟨.item i :: rest, found, hPlace, ?_, hOf⟩
    rwa [Path.resolve?, hFollow, hItem, Option.bind_some]
  induction h with
  | scalar s =>
      intro location hPart
      rw [parts, List.mem_singleton] at hPart
      subst hPart
      exact ⟨[], _, (List.append_nil _).symm, rfl, .scalar s⟩
  | list _ ih | tuple _ ih =>
      intro location hPart
      rw [parts] at hPart
      exact hItems (fun _ => rfl) ih hPart
  | set members =>
      intro location hPart
      rw [parts, List.mem_singleton] at hPart
      subst hPart
      exact ⟨[], _, (List.append_nil _).symm, rfl, .set members⟩
  | map hKeys _ ih =>
      intro location hPart
      rw [parts] at hPart
      rcases of_mem_entryParts hPart with ⟨k, hKey, rfl⟩ | ⟨name, value, hEntry, hPart⟩
      · exact ⟨[], _, (List.append_nil _).symm, rfl, .key hKey⟩
      · obtain ⟨rest, found, hPlace, hFound, hOf⟩ := ih _ hEntry hPart
        rw [List.append_assoc] at hPlace
        refine ⟨.field name :: rest, found, hPlace, ?_, hOf⟩
        have hValue := Table.get?_eq_some_of_mem_of_pairwise hKeys (Scalar.beq_text_iff.mpr rfl)
          hEntry
        rwa [Path.resolve?, Step.follow?, hValue, Option.bind_some]
  | loop up shape =>
      intro location hPart
      rw [parts, List.mem_singleton] at hPart
      subst hPart
      exact ⟨[], _, (List.append_nil _).symm, rfl, .loop up shape⟩

end Value

/-- The faults of a document stand at their places in it. -/
theorem Document.Keyed.exists_of_mem_faults {document : Document} (h : document.Keyed)
    (hPeriods : ∀ rule ∈ document.shell, rule.checkPeriod.Distinct) {fault : Path × Part}
    (hFault : fault ∈ document.faults) :
    ∃ found, fault.1.resolve? document.toValue = some found ∧ fault.2.IsOf found := by
  obtain ⟨rest, found, hPlace, hFound, hOf⟩ :=
    (h.distinct_toValue hPeriods).exists_of_mem_parts (List.mem_of_mem_filter hFault)
  rw [List.nil_append] at hPlace
  exact ⟨found, hPlace ▸ hFound, hOf⟩

end Places

section Reporting

/-- An error whose report names a place. -/
def EncodingError.Names (error : EncodingError) (location : Path) : Prop :=
  ∃ report, error.report = .ok report ∧ report.kind = .serializationError ∧
    report.identifier = .text (placeText location)

theorem EncodingError.Names.placeText_eq {error : EncodingError} {location other : Path}
    (h : error.Names location) (hOther : error.Names other) :
    placeText location = placeText other := by
  obtain ⟨report, hReport, -, hPlace⟩ := h
  obtain ⟨again, hAgain, -, hNamed⟩ := hOther
  obtain rfl := Except.ok.inj (hReport.symm.trans hAgain)
  simpa [Value.text] using hPlace.symm.trans hNamed

/-- How an error tells the fault at which the search for faults ends. -/
inductive EncodingError.Tells (error : EncodingError) : Option (Path × Part) → Prop where
  | named {location : Path} {part : Part} (h : part.unreported? = none)
      (hNames : error.Names location) : Tells error (some (location, part))
  | unreported {location : Path} {part : Part} {cause : UnreportedError}
      (h : part.unreported? = some cause) (hReport : error.report = .error cause) :
      Tells error (some (location, part))
  /-- Without a fault other than integers only the document is named. -/
  | document (hNames : error.Names []) : Tells error none

theorem EncodingError.names_keyNotText {k : Scalar} {shown : String} (h : k.literal = .ok shown)
    (location : Path) : (keyNotText k location).Names location := by
  refine ⟨report.about location ("Non-string key " ++ shown ++ " at " ++ placeText location),
    ?_, rfl, rfl⟩
  rw [report, h]
  rfl

theorem Part.tells_error (location : Path) {part : Part} (h : part.stops = true) :
    (part.error location).Tells (some (location, part)) := by
  cases part with
  | scalar s =>
      cases s with
      | float x | nan | _ => exact .named rfl ⟨_, rfl, rfl, rfl⟩
  | key k =>
      cases k with
      | int n =>
          cases hWritable : Integer.isWritable n with
          | true =>
              have hShown : Scalar.literal (.int n) = .ok (toString n) := by
                simp [Scalar.literal, Integer.write, hWritable]
              exact .named (by simp [unreported?, hWritable])
                (EncodingError.names_keyNotText hShown location)
          | false =>
              have hHidden : Scalar.literal (.int n) = .error .tooLongToWrite := by
                simp [Scalar.literal, Integer.write, hWritable]
              have hCause : (key (.int n)).unreported? = some (.numeral .tooLongToWrite) := by
                simp [unreported?, hWritable]
              refine .unreported hCause ?_
              rw [error, EncodingError.report, hHidden]
              rfl
      | _ => exact .named rfl (EncodingError.names_keyNotText rfl location)
  | set => exact .named rfl ⟨_, rfl, rfl, rfl⟩
  | loop => exact .unreported rfl rfl

namespace Document

variable {document : Document} {indent : Option Int} {error : EncodingError}

/-- The error of a document with faults tells the first one that is no integer. -/
theorem tells_of_serialize_error (hFaults : document.faults ≠ [])
    (h : document.serialize indent = .error error) :
    error.Tells (document.faults.find? (!·.2.isLongInteger)) := by
  have hEnd := eq_of_serialize_error hFaults h
  cases hFound : document.faults.find? (!·.2.isLongInteger) with
  | some found =>
      obtain ⟨location, part⟩ := found
      rw [hFound] at hEnd
      have hStops : part.stops = true := by
        have hFault := List.mem_of_find?_eq_some hFound
        have hOther := List.find?_some hFound
        simp only [faults, Value.faults, List.mem_filter] at hFault
        exact Bool.and_eq_true_iff.mpr ⟨hFault.2, hOther⟩
      exact hEnd ▸ Part.tells_error location hStops
  | none =>
      rw [hFound] at hEnd
      obtain ⟨cause, rfl⟩ := hEnd
      exact .document ⟨_, rfl, rfl, rfl⟩

/-- The error of a document without faults is that of its surrogates. -/
theorem eq_unencodable_of_serialize_error (hFaults : document.faults = [])
    (h : document.serialize indent = .error error) :
    ∃ text, error = .unencodable document.halves text := by
  obtain ⟨hCheck, written, hWritten⟩ := (exists_written_iff indent).mp hFaults
  cases hWhole : document.toValue.isEncodable document.halves with
  | true =>
      obtain ⟨text, hText⟩ := (exists_serialize_iff_faults indent).mpr ⟨hFaults, hWhole⟩
      cases h.symm.trans hText
  | false =>
      have hRefused := serialize_eq_unencodable hCheck hWritten hWhole
      exact ⟨written, Except.error.inj (h.symm.trans hRefused)⟩

/-- A document is written exactly if it has no faults and no surrogates, and its faults stand at
their places in it. If there are any, the search for them ends at the first one that is no integer;
the error names it, if it is reported. So the first fault of all is named, unless it is an integer
with too many digits, which the search passes over, or a fault that is not reported: such an integer
as a key or a collection that is a part of itself. An error without a fault is that of surrogates
and not reported. -/
theorem serialize_tells_fault (document : Document) (indent : Option Int) :
    ((∃ text, document.serialize indent = .ok text) ↔
        document.faults = [] ∧ document.toValue.isEncodable document.halves = true) ∧
      (document.Made → (∀ rule ∈ document.shell, rule.checkPeriod.Distinct) →
        ∀ fault ∈ document.faults, ∃ found,
          fault.1.resolve? document.toValue = some found ∧ fault.2.IsOf found) ∧
      ∀ error, document.serialize indent = .error error →
        (document.faults = [] → error.report = .error .unencodable) ∧
        (document.faults ≠ [] → error.Tells (document.faults.find? (!·.2.isLongInteger))) ∧
        ∀ location part rest, document.faults = (location, part) :: rest →
          part.isLongInteger = false → part.unreported? = none → error.Names location := by
  refine ⟨exists_serialize_iff_faults indent,
    fun hMade hPeriods _ hFault => hMade.keyed.exists_of_mem_faults hPeriods hFault,
    fun error hError => ⟨fun hFaults => ?_, fun hFaults => tells_of_serialize_error hFaults hError,
      fun location part rest hFaults hOther hReported => ?_⟩⟩
  · obtain ⟨text, rfl⟩ := eq_unencodable_of_serialize_error hFaults hError
    rfl
  · have hTells := tells_of_serialize_error (hFaults ▸ List.cons_ne_nil _ _) hError
    rw [hFaults, List.find?_cons_of_pos (by simp [hOther])] at hTells
    cases hTells with
    | named _ hNames => exact hNames
    | unreported h _ =>
        rw [hReported] at h
        cases h

/-- A period inside which a byte string stands. -/
def buriedPeriod : Value :=
  .record [("every", .list [.bool true, .scalar (.bytes [0])])]

/-- The document of one shell rule with a period. -/
def ofPeriod (period : Value) : Document :=
  .build .empty (RuleSet.empty.addShell
    (.read "check" ["admin"] ["admin"] ["root"] period)) .empty

theorem made_ofPeriod (period : Value) : (ofPeriod period).Made := .session .usual
  [ .addShell (.text "check") (.texts ["admin"]) (.texts ["admin"]) (.texts ["root"]) period,
    .build true true ] rfl

theorem faults_ofPeriod (period : Value) :
    (ofPeriod period).faults = period.faults [.field "ssh", .item 0, .field "checkPeriod"] := by
  rw [faults_eq]
  exact List.append_nil _

/-- The byte string is named, and found where it is named. -/
theorem serialize_tells_fault_buriedPeriod :
    ∃ error report, (ofPeriod buriedPeriod).serialize (some 2) = .error error ∧
      error.report = .ok report ∧ report.kind = .serializationError ∧
      report.identifier = .text "ssh[0].checkPeriod.every[1]" ∧
      Path.resolve? [.field "ssh", .item 0, .field "checkPeriod", .field "every", .item 1]
        (ofPeriod buriedPeriod).toValue = some (.scalar (.bytes [0])) := by
  obtain ⟨hWritten, hPlaces, hTold⟩ := serialize_tells_fault (ofPeriod buriedPeriod) (some 2)
  have hFaults : (ofPeriod buriedPeriod).faults =
      [([.field "ssh", .item 0, .field "checkPeriod", .field "every", .item 1],
        .scalar (.bytes [0]))] := by
    rw [faults_ofPeriod]
    rfl
  have hDistinct : buriedPeriod.Distinct := by
    refine .record (by decide) (List.forall_mem_singleton.mpr (.list ?_))
    exact List.forall_mem_cons.mpr ⟨.scalar _, List.forall_mem_singleton.mpr (.scalar _)⟩
  obtain ⟨found, hFound, hOf⟩ := hPlaces (made_ofPeriod _) (List.forall_mem_singleton.mpr hDistinct)
    _ (hFaults ▸ List.mem_singleton_self _)
  cases hOf
  cases hText : (ofPeriod buriedPeriod).serialize (some 2) with
  | ok text =>
      have hNone := (hWritten.mp ⟨text, hText⟩).1
      rw [hFaults] at hNone
      cases hNone
  | error error =>
      obtain ⟨report, hReport, hKind, hPlace⟩ := (hTold error hText).2.2 _ _ _ hFaults rfl rfl
      exact ⟨error, report, rfl, hReport, hKind, hPlace, hFound⟩

/-- The first fault of a document may be an integer with too many digits, which is not named. -/
theorem exists_unnamed_fault :
    ∃ (document : Document) (indent : Option Int) (location : Path) (part : Part)
      (error : EncodingError), document.Made ∧ document.faults = [(location, part)] ∧
      document.serialize indent = .error error ∧ ¬error.Names location := by
  obtain ⟨n, hLong⟩ : ∃ n : Int, Integer.isWritable n = false :=
    ⟨Nat.pow 10 Integer.maxDigits, by decide +kernel⟩
  have hFaults : (ofPeriod (.int n)).faults =
      [([.field "ssh", .item 0, .field "checkPeriod"], .scalar (.int n))] := by
    rw [faults_ofPeriod]
    simp [Value.faults, Value.int, Value.parts, Part.isRepresentable, Scalar.isSendable, hLong]
  cases hText : (ofPeriod (.int n)).serialize none with
  | ok text =>
      have hNone := ((exists_serialize_iff_faults _).mp ⟨text, hText⟩).1
      rw [hFaults] at hNone
      cases hNone
  | error error =>
      refine ⟨_, none, _, _, error, made_ofPeriod _, hFaults, hText, ?_⟩
      have hTells := tells_of_serialize_error (hFaults ▸ List.cons_ne_nil _ _) hText
      rw [hFaults, List.find?_singleton, Part.isLongInteger, hLong] at hTells
      cases hTells with
      | document hNames =>
          exact fun hOther => absurd (hOther.placeText_eq hNames) (by decide)

end Document

end Reporting

end Tailnet
