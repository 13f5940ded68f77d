import Tailnet.Proofs.Policy.Encoding
import Tailnet.Proofs.Tree

/-!
Values made of texts alone. They have no loops, every such value has a text in every format, and a
document made of texts is written unless there are surrogates in them.
-/

namespace Tailnet

namespace Value

mutual

/-- Whether a value and all its keys and parts are texts, or lists or mappings of texts. -/
def isTextual : Value → Bool
  | .scalar (.text _) => true
  | .scalar _ => false
  | .list items => itemsTextual items
  | .map entries => entriesTextual entries
  | .tuple _ | .set _ | .loop .. => false

/-- Whether all items of a list are made of texts. -/
def itemsTextual : List Value → Bool
  | [] => true
  | item :: rest => isTextual item && itemsTextual rest

/-- Whether all entries of a mapping are made of texts. -/
def entriesTextual : List (Scalar × Value) → Bool
  | [] => true
  | (.text _, value) :: rest => isTextual value && entriesTextual rest
  | _ :: _ => false

end

section Making

@[simp] theorem isTextual_text (s : String) : (text s).isTextual = true := rfl

theorem itemsTextual_iff {items : List Value} :
    itemsTextual items = true ↔ ∀ item ∈ items, item.isTextual = true := by
  induction items with
  | nil => simp [itemsTextual]
  | cons item rest ih => simp [itemsTextual, ih]

@[simp] theorem isTextual_list_iff {items : List Value} :
    isTextual (.list items) = true ↔ ∀ item ∈ items, item.isTextual = true := by
  rw [isTextual, itemsTextual_iff]

@[simp] theorem isTextual_texts (ss : List String) : (texts ss).isTextual = true := by
  simp [texts]

@[simp] theorem isTextual_record_iff {fields : List (String × Value)} :
    (record fields).isTextual = true ↔ ∀ field ∈ fields, field.2.isTextual = true := by
  rw [record, isTextual]
  induction fields with
  | nil => simp [entriesTextual]
  | cons field rest ih =>
      rw [List.map_cons, entriesTextual, Bool.and_eq_true, ih, List.forall_mem_cons]

theorem isTextual_record_map {α : Type} {f : α → String × Value} {items : List α}
    (h : ∀ a ∈ items, (f a).2.isTextual = true) : (record (items.map f)).isTextual = true := by
  rw [isTextual_record_iff, List.forall_mem_map]
  exact h

end Making

section Loops

mutual

/-- A value made of texts has no loops. -/
theorem tree_of_isTextual : ∀ value : Value, value.isTextual = true → value.Tree
  | .scalar s, _ => .scalar s
  | .list items, h => .list (forall_tree_of_itemsTextual items h)
  | .map entries, h => .map (forall_tree_of_entriesTextual entries h)
  | .tuple _, h | .set _, h | .loop .., h => by
      rw [isTextual] at h
      cases h

theorem forall_tree_of_itemsTextual :
    ∀ items : List Value, itemsTextual items = true → ∀ item ∈ items, item.Tree
  | [], _ => List.forall_mem_nil _
  | item :: rest, h => by
      rw [itemsTextual, Bool.and_eq_true] at h
      exact List.forall_mem_cons.mpr
        ⟨tree_of_isTextual item h.1, forall_tree_of_itemsTextual rest h.2⟩

theorem forall_tree_of_entriesTextual :
    ∀ entries : List (Scalar × Value), entriesTextual entries = true →
      ∀ entry ∈ entries, entry.2.Tree
  | [], _ => List.forall_mem_nil _
  | (.text _, value) :: rest, h => by
      rw [entriesTextual, Bool.and_eq_true] at h
      exact List.forall_mem_cons.mpr
        ⟨tree_of_isTextual value h.1, forall_tree_of_entriesTextual rest h.2⟩

end

end Loops

section Writing

mutual

theorem checkWritable_eq_ok :
    ∀ (location : Path) (value : Value), value.isTextual = true →
      value.checkWritable location = .ok ()
  | location, .scalar (.text s), _ => by
      rw [checkWritable]
      rfl
  | location, .list items, h => by
      rw [isTextual] at h
      rw [checkWritable, checkItems_eq_ok location 0 items h]
  | location, .map entries, h => by
      rw [isTextual] at h
      rw [checkWritable, checkEntries_eq_ok location entries h]

theorem checkItems_eq_ok :
    ∀ (location : Path) (index : Nat) (items : List Value), itemsTextual items = true →
      checkItems location index items = .ok ()
  | _, _, [], _ => by rw [checkItems]
  | location, index, item :: rest, h => by
      rw [itemsTextual, Bool.and_eq_true] at h
      rw [checkItems, checkWritable_eq_ok _ item h.1]
      exact checkItems_eq_ok location (index + 1) rest h.2

theorem checkEntries_eq_ok :
    ∀ (location : Path) (entries : List (Scalar × Value)), entriesTextual entries = true →
      checkEntries location entries = .ok ()
  | _, [], _ => by rw [checkEntries]
  | location, (.text _, value) :: rest, h => by
      rw [entriesTextual, Bool.and_eq_true] at h
      rw [checkEntries, checkWritable_eq_ok _ value h.1]
      exact checkEntries_eq_ok location rest h.2

end

mutual

theorem exists_chars (format : Json.Format) :
    ∀ (depth : Nat) (value : Value), value.isTextual = true →
      ∃ cs, Json.chars format depth value = .ok cs
  | depth, .scalar (.text s), _ => by
      rw [Json.chars, Json.scalar]
      exact ⟨_, rfl⟩
  | depth, .list [], _ => by
      rw [Json.chars]
      exact ⟨_, rfl⟩
  | depth, .list (item :: rest), h => by
      rw [isTextual, itemsTextual, Bool.and_eq_true] at h
      obtain ⟨first, hFirst⟩ := exists_chars format (depth + 1) item h.1
      obtain ⟨others, hOthers⟩ := exists_moreItems format (depth + 1) rest h.2
      rw [Json.chars, hFirst, hOthers]
      exact ⟨_, rfl⟩
  | depth, .map [], _ => by
      rw [Json.chars]
      exact ⟨_, rfl⟩
  | depth, .map ((.text name, value) :: rest), h => by
      rw [isTextual, entriesTextual, Bool.and_eq_true] at h
      obtain ⟨first, hFirst⟩ := exists_chars format (depth + 1) value h.1
      obtain ⟨others, hOthers⟩ := exists_moreEntries format (depth + 1) rest h.2
      rw [Json.chars, Json.key, hFirst, hOthers]
      exact ⟨_, rfl⟩

theorem exists_moreItems (format : Json.Format) :
    ∀ (depth : Nat) (items : List Value), itemsTextual items = true →
      ∃ cs, Json.moreItems format depth items = .ok cs
  | _, [], _ => by
      rw [Json.moreItems]
      exact ⟨_, rfl⟩
  | depth, item :: rest, h => by
      rw [itemsTextual, Bool.and_eq_true] at h
      obtain ⟨first, hFirst⟩ := exists_chars format depth item h.1
      obtain ⟨others, hOthers⟩ := exists_moreItems format depth rest h.2
      rw [Json.moreItems, hFirst, hOthers]
      exact ⟨_, rfl⟩

theorem exists_moreEntries (format : Json.Format) :
    ∀ (depth : Nat) (entries : List (Scalar × Value)), entriesTextual entries = true →
      ∃ cs, Json.moreEntries format depth entries = .ok cs
  | _, [], _ => by
      rw [Json.moreEntries]
      exact ⟨_, rfl⟩
  | depth, (.text name, value) :: rest, h => by
      rw [entriesTextual, Bool.and_eq_true] at h
      obtain ⟨first, hFirst⟩ := exists_chars format depth value h.1
      obtain ⟨others, hOthers⟩ := exists_moreEntries format depth rest h.2
      rw [Json.moreEntries, Json.key, hFirst, hOthers]
      exact ⟨_, rfl⟩

end

/-- A value made of texts can be written in every format. -/
theorem exists_write {value : Value} (h : value.isTextual = true) (format : Json.Format) :
    ∃ text, Json.write format value = .ok text := by
  obtain ⟨cs, hChars⟩ := exists_chars format 0 value h
  rw [Json.write, hChars]
  exact ⟨_, rfl⟩

end Writing

end Value

/-- A document made of texts is written exactly if there are no surrogates in them. -/
theorem Document.exists_serialize_iff {document : Document}
    (h : document.toValue.isTextual = true) (indent : Option Int) :
    (∃ text, document.serialize indent = .ok text) ↔
      document.toValue.isEncodable document.halves = true := by
  obtain ⟨written, hWritten⟩ := Value.exists_write h (.readable (indent.map Int.toNat))
  constructor
  · rintro ⟨text, hText⟩
    exact (serialize_eq_ok_iff.mp hText).2.1
  · exact fun hWhole =>
      ⟨_, serialize_eq_ok_iff.mpr
        ⟨Value.checkWritable_eq_ok [] _ h, hWhole, written, hWritten, rfl⟩⟩

/-- A document made of texts with surrogates in them is refused for them. -/
theorem Document.exists_unencodable {document : Document} (h : document.toValue.isTextual = true)
    (hWhole : document.toValue.isEncodable document.halves = false) (indent : Option Int) :
    ∃ text, document.serialize indent = .error (.unencodable document.halves text) := by
  obtain ⟨written, hWritten⟩ := Value.exists_write h (.readable (indent.map Int.toNat))
  exact ⟨written, serialize_eq_unencodable (Value.checkWritable_eq_ok [] _ h) hWritten hWhole⟩

end Tailnet
