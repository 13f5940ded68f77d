import Tailnet.Proofs.Textual
import Tailnet.Source.Reader

/-!
Sources read from records. Texts, lists of texts and records with different names are read as they
are.
-/

namespace Tailnet

open Value (record)

namespace Source

theorem textOf_text (s : String) : textOf (.text s) = .ok s := rfl

theorem field?_recordEntries (fields : List (String × Value)) (name : String) :
    field? (recordEntries fields) name = Table.get? fields name :=
  Value.field?_record fields name

theorem entriesAlone_recordEntries {fields : List (String × Value)}
    (h : (record fields).isTextual = true) :
    Value.entriesAlone (recordEntries fields) = recordEntries fields :=
  (Value.tree_of_isTextual _ h).entriesAlone_recordEntries

theorem mapping_recordEntries {fields part : List (String × Value)} {name : String}
    (hPart : Table.get? fields name = some (record part))
    (hTextual : (record part).isTextual = true) :
    mapping (recordEntries fields) name = .ok (recordEntries part) := by
  rw [mapping, field?_recordEntries, hPart]
  exact congrArg Except.ok (entriesAlone_recordEntries hTextual)

theorem mapping_recordEntries_of_none {fields : List (String × Value)} {name : String}
    (hPart : Table.get? fields name = none) : mapping (recordEntries fields) name = .ok [] := by
  rw [mapping, field?_recordEntries, hPart]

theorem items_recordEntries {fields : List (String × Value)} {parts : List Value} {name : String}
    (hPart : Table.get? fields name = some (.list parts))
    (hTextual : ∀ part ∈ parts, part.isTextual = true) :
    items (recordEntries fields) name = .ok parts := by
  rw [items, field?_recordEntries, hPart]
  have hTree := Value.tree_of_isTextual _ (Value.isTextual_list_iff.mpr hTextual)
  exact congrArg Except.ok hTree.itemsAlone_eq_self

/-- A list of texts is read as it is. -/
theorem texts_texts (place : String) (ss : List String) :
    texts place (some (.texts ss)) = .ok ss := by
  have hAlone : Value.itemsAlone (ss.map Value.text) = ss.map Value.text :=
    (Value.tree_of_isTextual _ (Value.isTextual_texts ss)).itemsAlone_eq_self
  change (Value.itemsAlone (ss.map Value.text)).mapM textOf = .ok ss
  rw [hAlone, mapM_eq_ok_iff, List.forall₂_map_left_iff, List.forall₂_same]
  exact fun s _ => textOf_text s

/-- Lists of texts under different names are read as they are. -/
theorem textLists_recordEntries (place : String) {lists : List (String × List String)}
    (hNames : (Table.keys lists).Nodup) :
    textLists place (recordEntries (lists.map fun d => (d.1, Value.texts d.2))) = .ok lists := by
  rw [textLists, bind_eq_ok_iff]
  refine ⟨lists, ?_, congrArg Except.ok (Table.ofPairs_eq_self hNames)⟩
  rw [recordEntries, List.map_map, mapM_eq_ok_iff, List.forall₂_map_left_iff, List.forall₂_same]
  intro d _
  change (texts (place ++ "." ++ d.1) (some (.texts d.2)) >>= fun ss => .ok (d.1, ss)) = .ok d
  rw [texts_texts]
  rfl

/-- Texts under different names are read as they are. -/
theorem textTable_recordEntries {table : List (String × String)}
    (hNames : (Table.keys table).Nodup) :
    textTable (recordEntries (table.map fun d => (d.1, Value.text d.2))) = .ok table := by
  rw [textTable, bind_eq_ok_iff]
  refine ⟨table, ?_, congrArg Except.ok (Table.ofPairs_eq_self hNames)⟩
  rw [recordEntries, List.map_map, mapM_eq_ok_iff, List.forall₂_map_left_iff, List.forall₂_same]
  intro d _
  rfl

theorem mappingAt_record {fields : List (String × Value)} (place : String)
    (h : (record fields).isTextual = true) :
    mappingAt place (record fields) = .ok (recordEntries fields) :=
  congrArg Except.ok (entriesAlone_recordEntries h)

/-- An access rule is read as it is. -/
theorem accessSpec_record (spec : AccessSpec) (index : Nat) :
    accessSpec (record
      [ ("action", .text spec.action),
        ("src", .texts spec.sources),
        ("dst", .texts spec.destinations) ]) index = .ok spec := by
  unfold accessSpec
  dsimp only
  rw [mappingAt_record _ (by simp), ok_bind]
  simp only [actionOf, field?_recordEntries, Table.get?_cons]
  simp [textOf_text, texts_texts, ok_bind, pure, Except.pure]

/-- A shell rule is read as it is. -/
theorem shellSpec_record (spec : ShellSpec) (index : Nat) :
    shellSpec (record <|
      [ ("action", .text spec.action),
        ("src", .texts spec.sources),
        ("dst", .texts spec.destinations),
        ("users", .texts spec.users) ] ++
        spec.checkPeriod.toList.map fun period => ("checkPeriod", .text period)) index =
      .ok spec := by
  obtain ⟨action, sources, destinations, users, checkPeriod⟩ := spec
  unfold shellSpec
  dsimp only
  rw [mappingAt_record _ (by cases checkPeriod <;> simp), ok_bind]
  simp only [actionOf, field?_recordEntries, List.cons_append, List.nil_append, Table.get?_cons]
  cases checkPeriod with
  | none =>
      simp [textOf_text, texts_texts, optionalText, Table.get?, ok_bind, pure, Except.pure]
  | some period =>
      have hPeriod : optionalText (some (.text period)) = .ok (some period) := rfl
      simp [textOf_text, texts_texts, hPeriod, Table.get?, ok_bind, pure, Except.pure]

/-- Grants in a record are read as they are. -/
theorem routeSpecs_record (specs : List RouteSpec) :
    routeSpecs (some (record (specs.map fun spec => (spec.network, .texts spec.approvers)))) =
      .ok specs := by
  have hTextual : (record (specs.map fun spec =>
      (spec.network, Value.texts spec.approvers))).isTextual = true := by simp
  have hAlone := entriesAlone_recordEntries hTextual
  rw [recordEntries] at hAlone
  change (Value.entriesAlone ((specs.map fun spec => (spec.network, Value.texts spec.approvers)).map
    fun field => (Scalar.text field.1, field.2))).mapM _ = _
  rw [hAlone, List.map_map, mapM_eq_ok_iff, List.forall₂_map_left_iff, List.forall₂_same]
  intro spec _
  change (texts ("routes." ++ spec.network) (some (.texts spec.approvers)) >>=
    fun approvers => .ok ⟨spec.network, approvers⟩) = .ok spec
  rw [texts_texts]
  rfl

end Source

end Tailnet
