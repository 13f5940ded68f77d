import Mathlib.Data.List.Induction
import Mathlib.Data.List.Nodup
import Tailnet.Table

/-!
Tables as functions on their keys. Entering a key that is still free puts it behind the others, so
a table filled one entry at a time has its keys in the order of their first mention.
-/

namespace Tailnet

variable {κ α : Type} [BEq κ] [LawfulBEq κ]

/-- Keeping first mentions leaves no element twice. -/
theorem nodup_eraseDups (keys : List κ) : keys.eraseDups.Nodup := by
  induction hLength : keys.length using Nat.strongRecOn generalizing keys with
  | _ n ih =>
      cases keys with
      | nil => simp
      | cons key rest =>
          have hShorter : (rest.filter fun k => !k == key).length < n := by
            rw [← hLength]
            exact Nat.lt_succ_of_le (List.length_filter_le _ _)
          rw [List.eraseDups_cons, List.nodup_cons]
          exact ⟨by simp, ih _ hShorter _ rfl⟩

theorem eraseDups_of_nodup {keys : List κ} (h : keys.Nodup) : keys.eraseDups = keys := by
  induction keys with
  | nil => rfl
  | cons key rest ih =>
      rw [List.nodup_cons] at h
      have hKeep : (rest.filter fun k => !k == key) = rest := by
        rw [List.filter_eq_self]
        intro k hk
        have hNe : k ≠ key := fun hEq => h.1 (hEq ▸ hk)
        simpa using hNe
      rw [List.eraseDups_cons, hKeep, ih h.2]

/-- A further mention counts only if it is the first. -/
theorem eraseDups_append_singleton (keys : List κ) (key : κ) [Decidable (key ∈ keys)] :
    (keys ++ [key]).eraseDups =
      if key ∈ keys then keys.eraseDups else keys.eraseDups ++ [key] := by
  rw [List.eraseDups_append]
  split
  case isTrue h => simp [List.removeAll, h]
  case isFalse h => simp [List.removeAll, h, List.eraseDups_cons]

/-- What was mentioned before may be mentioned again. -/
theorem eraseDups_append_of_subset {keys more : List κ} (h : more ⊆ keys) :
    (keys ++ more).eraseDups = keys.eraseDups := by
  have hAgain : more.removeAll keys = [] := by
    rw [List.removeAll, List.filter_eq_nil_iff]
    intro key hKey
    simpa using h hKey
  rw [List.eraseDups_append, hAgain, List.eraseDups_nil, List.append_nil]

/-- The order of the mentions only matters to the order of the first ones. -/
theorem eraseDups_perm {keys others : List κ} (h : keys.Perm others) :
    keys.eraseDups.Perm others.eraseDups := by
  rw [List.perm_ext_iff_of_nodup (nodup_eraseDups keys) (nodup_eraseDups others)]
  intro key
  rw [List.mem_eraseDups, List.mem_eraseDups, h.mem_iff]

namespace Table

omit [LawfulBEq κ] in
theorem get?_cons (key k : κ) (value : α) (rest : Table κ α) :
    get? ((key, value) :: rest) k = if key == k then some value else get? rest k := rfl

omit [LawfulBEq κ] in
/-- The same keys find the same. -/
theorem get?_congr [PartialEquivBEq κ] {table : Table κ α} {k key : κ} (h : (k == key) = true) :
    table.get? k = table.get? key := by
  induction table with
  | nil => rfl
  | cons entry rest ih => rw [get?_cons, get?_cons, ih, BEq.congr_right h]

omit [LawfulBEq κ] in
theorem get?_eq_none_of_forall {table : Table κ α} {k : κ}
    (h : ∀ key ∈ table.keys, (key == k) = false) : table.get? k = none := by
  induction table with
  | nil => rfl
  | cons entry rest ih =>
      obtain ⟨hFirst, hRest⟩ := List.forall_mem_cons.mp h
      rw [get?_cons, if_neg (Bool.eq_false_iff.mp hFirst)]
      exact ih hRest

/-- Keys that differ are not the same. -/
theorem pairwise_of_nodup {ks : List κ} (h : ks.Nodup) :
    ks.Pairwise fun a b => (a == b) = false :=
  h.imp fun hNe => beq_eq_false_iff_ne.mpr hNe

theorem get?_eq_none_iff {table : Table κ α} {k : κ} : table.get? k = none ↔ k ∉ table.keys := by
  induction table with
  | nil => simp [get?, keys]
  | cons entry rest ih =>
      obtain ⟨key, value⟩ := entry
      rw [get?_cons]
      by_cases hKey : key = k
      · simp [hKey, keys]
      · have hRest : get? rest k = none ↔ k ∉ keys rest := ih
        simp only [keys] at hRest
        simp [hKey, keys, hRest, Ne.symm hKey]

theorem has_eq_true_iff {table : Table κ α} {k : κ} : table.has k = true ↔ k ∈ table.keys := by
  rw [has, Option.isSome_iff_ne_none, Ne, get?_eq_none_iff, not_not]

theorem mem_of_get?_eq_some {table : Table κ α} {k : κ} {value : α}
    (h : table.get? k = some value) : (k, value) ∈ table := by
  induction table with
  | nil => cases h
  | cons entry rest ih =>
      obtain ⟨key, v⟩ := entry
      rw [get?_cons] at h
      split at h
      case isTrue hKey =>
        cases h
        rw [eq_of_beq hKey]
        exact List.mem_cons_self
      case isFalse hKey => exact List.mem_cons_of_mem _ (ih h)

omit [LawfulBEq κ] in
/-- What is found was entered under some key. -/
theorem exists_mem_of_get? {table : Table κ α} {k : κ} {value : α}
    (h : table.get? k = some value) : ∃ key, (key, value) ∈ table := by
  induction table with
  | nil => cases h
  | cons entry rest ih =>
      obtain ⟨key, first⟩ := entry
      rw [get?] at h
      split at h
      · cases h
        exact ⟨key, List.mem_cons_self⟩
      · obtain ⟨other, hOther⟩ := ih h
        exact ⟨other, List.mem_cons_of_mem _ hOther⟩

omit [LawfulBEq κ] in
/-- If no key stands twice, every entry is found under its key. -/
theorem get?_eq_some_of_mem_of_pairwise {table : Table κ α} {k : κ} {value : α}
    (hKeys : table.keys.Pairwise fun a b => (a == b) = false) (hSelf : (k == k) = true)
    (h : (k, value) ∈ table) : table.get? k = some value := by
  induction table with
  | nil => cases h
  | cons entry rest ih =>
      obtain ⟨key, v⟩ := entry
      obtain ⟨hFirst, hRest⟩ := List.pairwise_cons.mp hKeys
      rw [get?_cons]
      rcases List.mem_cons.mp h with hEq | hIn
      · cases hEq
        rw [if_pos hSelf]
      · have hNe : (key == k) = false := hFirst k (List.mem_map_of_mem (f := Prod.fst) hIn)
        rw [if_neg (Bool.eq_false_iff.mp hNe)]
        exact ih hRest hIn

theorem get?_eq_some_of_mem {table : Table κ α} {k : κ} {value : α} (hKeys : table.keys.Nodup)
    (h : (k, value) ∈ table) : table.get? k = some value :=
  get?_eq_some_of_mem_of_pairwise (pairwise_of_nodup hKeys) (beq_self_eq_true k) h

/-- If no key stands twice, the order of the entries does not matter to what is found. -/
theorem get?_of_perm {table other : Table κ α} (h : table.Perm other) (hKeys : table.keys.Nodup)
    (k : κ) : table.get? k = other.get? k := by
  have hOther : other.keys.Nodup := (h.map Prod.fst).nodup_iff.mp hKeys
  ext value
  exact ⟨fun hFound => get?_eq_some_of_mem hOther (h.mem_iff.mp (mem_of_get?_eq_some hFound)),
    fun hFound => get?_eq_some_of_mem hKeys (h.mem_iff.mpr (mem_of_get?_eq_some hFound))⟩

theorem insert_of_notMem {table : Table κ α} {k : κ} (h : k ∉ table.keys) (value : α) :
    table.insert k value = table ++ [(k, value)] := by
  induction table with
  | nil => rfl
  | cons entry rest ih =>
      obtain ⟨key, v⟩ := entry
      simp only [keys, List.map_cons, List.mem_cons, not_or] at h ih
      rw [insert, if_neg (by simpa using Ne.symm h.1), ih h.2]
      rfl

omit [LawfulBEq κ] in
/-- Entering a value changes what is found under its key and nothing else. -/
theorem get?_insert [PartialEquivBEq κ] (table : Table κ α) (k key : κ) (value : α) :
    (table.insert k value).get? key = if k == key then some value else table.get? key := by
  induction table with
  | nil => rfl
  | cons entry rest ih =>
      obtain ⟨first, v⟩ := entry
      rw [insert]
      split
      case isTrue hFirst =>
        rw [get?_cons, get?_cons, BEq.congr_left hFirst]
        split <;> rfl
      case isFalse hFirst =>
        rw [get?_cons, get?_cons, ih]
        by_cases hKey : (k == key) = true
        · have hOther : ¬ (first == key) = true := fun hEq =>
            hFirst (BEq.trans hEq (BEq.symm hKey))
          rw [if_neg hOther, if_pos hKey, if_pos hKey]
        · rw [if_neg hKey, if_neg hKey]

/-- Pairs whose keys all differ are a table as they are. -/
theorem update_eq_append {table pairs : Table κ α} (h : (table ++ pairs).keys.Nodup) :
    update table pairs = table ++ pairs := by
  induction pairs generalizing table with
  | nil => simp [update]
  | cons entry rest ih =>
      obtain ⟨key, value⟩ := entry
      have hFree : key ∉ table.keys := by
        simp only [keys, List.map_append, List.map_cons] at h ⊢
        intro hIn
        exact (List.nodup_append.mp h).2.2 key hIn key (by simp) rfl
      have hStep : update table ((key, value) :: rest) = update (table.insert key value) rest := rfl
      rw [hStep, insert_of_notMem hFree, ih]
      · simp
      · simpa using h

theorem ofPairs_eq_self {pairs : Table κ α} (h : pairs.keys.Nodup) : ofPairs pairs = pairs := by
  rw [ofPairs, update_eq_append]
  · rfl
  · simpa using h

omit [LawfulBEq κ] in
/-- A key is entered behind the others unless it is there already. -/
theorem keys_insert [PartialEquivBEq κ] (table : Table κ α) (k : κ) (value : α) :
    (table.insert k value).keys =
      if table.keys.contains k then table.keys else table.keys ++ [k] := by
  induction table with
  | nil => rfl
  | cons entry rest ih =>
      obtain ⟨key, old⟩ := entry
      have hKeys : keys ((key, old) :: rest) = key :: keys rest := rfl
      rw [insert, hKeys, List.contains_cons, BEq.comm (a := k)]
      cases hKey : key == k with
      | true => rfl
      | false =>
          have hStep : keys ((key, old) :: insert rest k value) =
              key :: keys (insert rest k value) := rfl
          rw [if_neg Bool.false_ne_true, hStep, ih, Bool.false_or, apply_ite (key :: ·)]
          rfl

/-- Entering a key again keeps all keys in their places. -/
theorem keys_insert_of_mem {table : Table κ α} {k : κ} (h : k ∈ table.keys) (value : α) :
    (table.insert k value).keys = table.keys := by
  rw [keys_insert, if_pos (List.contains_iff_mem.mpr h)]

theorem keys_insert_of_notMem {table : Table κ α} {k : κ} (h : k ∉ table.keys) (value : α) :
    (table.insert k value).keys = table.keys ++ [k] := by
  rw [keys_insert, if_neg (mt List.contains_iff_mem.mp h)]

theorem nodup_keys_insert {table : Table κ α} (h : table.keys.Nodup) (k : κ) (value : α) :
    (table.insert k value).keys.Nodup := by
  by_cases hKey : k ∈ table.keys
  · rwa [keys_insert_of_mem hKey]
  · rw [keys_insert_of_notMem hKey]
    exact List.concat_eq_append ▸ h.concat hKey

theorem mem_keys_insert {table : Table κ α} {k key : κ} {value : α} :
    key ∈ (table.insert k value).keys ↔ key ∈ table.keys ∨ key = k := by
  by_cases hKey : k ∈ table.keys
  · rw [keys_insert_of_mem hKey]
    exact ⟨.inl, fun h => h.elim id fun hEq => hEq ▸ hKey⟩
  · rw [keys_insert_of_notMem hKey, List.mem_append, List.mem_singleton]

theorem mem_keys_update {table more : Table κ α} {key : κ} :
    key ∈ (table.update more).keys ↔ key ∈ table.keys ∨ key ∈ more.keys := by
  induction more generalizing table with
  | nil => simp [update, keys]
  | cons entry rest ih =>
      have hStep : key ∈ (update (table.insert entry.1 entry.2) rest).keys ↔ _ := ih
      rw [mem_keys_insert, or_assoc] at hStep
      refine hStep.trans (or_congr_right ?_)
      rw [keys, keys, List.map_cons, List.mem_cons]

/-- What pairs are entered under are the keys, and nothing else is. -/
theorem mem_keys_ofPairs {pairs : Table κ α} {key : κ} :
    key ∈ (ofPairs pairs).keys ↔ key ∈ pairs.keys := by
  rw [ofPairs, mem_keys_update]
  simp [keys]

/-- The keys of pairs stand in the order of their first mention. -/
theorem keys_ofPairs (pairs : Table κ α) : (ofPairs pairs).keys = pairs.keys.eraseDups := by
  induction pairs using List.reverseRecOn with
  | nil => rfl
  | append_singleton pairs last ih =>
      have hStep : ofPairs (pairs ++ [last]) = (ofPairs pairs).insert last.1 last.2 := by
        rw [ofPairs, update, List.foldl_append]
        rfl
      have hKeys : keys (pairs ++ [last]) = keys pairs ++ [last.1] := by simp [keys]
      rw [hStep, keys_insert, ih, hKeys, List.eraseDups_append]
      by_cases hIn : last.1 ∈ keys pairs
      · simp [List.removeAll, hIn]
      · simp [List.removeAll, hIn, List.eraseDups_cons]

/-- What is entered under a key is found in a part of the table if the part keeps it. -/
theorem get?_filter {table : Table κ α} {keep : κ × α → Bool} {k : κ} {value : α}
    (h : table.get? k = some value) (hKeep : keep (k, value) = true) :
    get? (table.filter keep) k = some value := by
  induction table with
  | nil => cases h
  | cons entry rest ih =>
      obtain ⟨key, first⟩ := entry
      rw [get?_cons] at h
      split at h
      case isTrue hKey =>
        obtain rfl : key = k := beq_iff_eq.mp hKey
        obtain rfl : first = value := Option.some.inj h
        rw [List.filter_cons_of_pos hKeep, get?_cons, if_pos hKey]
      case isFalse hKey =>
        rw [List.filter_cons]
        split
        · rw [get?_cons, if_neg hKey]
          exact ih h
        · exact ih h

/-- A value is entered in the part of a table under some keys if its key is among them. -/
theorem filter_insert (keep : κ → Bool) (table : Table κ α) (k : κ) (value : α) :
    (table.insert k value).filter (fun entry => keep entry.1) =
      if keep k then insert (table.filter fun entry => keep entry.1) k value
      else table.filter fun entry => keep entry.1 := by
  induction table with
  | nil => simp [insert, List.filter_cons]
  | cons entry rest ih =>
      obtain ⟨key, first⟩ := entry
      rw [insert]
      split
      case isTrue hKey =>
        obtain rfl : key = k := beq_iff_eq.mp hKey
        simp only [List.filter_cons]
        split <;> simp [insert]
      case isFalse hKey =>
        simp only [List.filter_cons, ih]
        cases keep k <;> cases keep key <;> simp [insert, hKey]

omit [LawfulBEq κ] in
/-- A value is already there exactly if entering it changes nothing. -/
theorem insert_eq_self_iff {table : Table κ α} {k : κ} {value : α} :
    table.insert k value = table ↔ table.get? k = some value := by
  induction table with
  | nil => simp [insert, get?]
  | cons entry rest ih =>
      obtain ⟨key, old⟩ := entry
      rw [insert, get?_cons]
      split
      case isTrue => simp [eq_comm]
      case isFalse => simp [ih]

theorem mem_keys_insertNew {table : Table κ α} {k key : κ} {value : α} :
    key ∈ (table.insertNew k value).keys ↔ key ∈ table.keys ∨ key = k := by
  rw [insertNew]
  split
  case isTrue hIn =>
    have hKey := has_eq_true_iff.mp hIn
    exact ⟨.inl, fun h => h.elim id fun hEq => hEq ▸ hKey⟩
  case isFalse => exact mem_keys_insert

theorem insertNew_of_mem {table : Table κ α} {k : κ} (h : k ∈ table.keys) (value : α) :
    table.insertNew k value = table := by
  rw [insertNew, if_pos (has_eq_true_iff.mpr h)]

/-- Enter all entries of a second table into a first, each combined with what is already under its
key. -/
def updateWith (combine : Option α → α → α) (table more : Table κ α) : Table κ α :=
  more.foldl (fun acc entry => acc.insert entry.1 (combine (acc.get? entry.1) entry.2)) table

section UpdateWith

variable {combine : Option α → α → α} {more : Table κ α}

omit [LawfulBEq κ] in
theorem updateWith_cons (table : Table κ α) (key : κ) (value : α) (rest : Table κ α) :
    updateWith combine table ((key, value) :: rest) =
      updateWith combine (table.insert key (combine (table.get? key) value)) rest := rfl

theorem nodup_keys_updateWith {table : Table κ α} (h : table.keys.Nodup) :
    (updateWith combine table more).keys.Nodup := by
  induction more generalizing table with
  | nil => exact h
  | cons entry rest ih =>
      rw [updateWith_cons]
      exact ih (nodup_keys_insert h _ _)

omit [LawfulBEq κ] in
/-- What is found is what was there, unless the second table has something to combine it with. -/
theorem get?_updateWith_of_pairwise [PartialEquivBEq κ]
    (h : more.keys.Pairwise fun a b => (a == b) = false) (table : Table κ α) (k : κ) :
    (updateWith combine table more).get? k =
      ((more.get? k).map (combine (table.get? k))).or (table.get? k) := by
  induction more generalizing table with
  | nil => rfl
  | cons entry rest ih =>
      obtain ⟨key, value⟩ := entry
      obtain ⟨hFree, hRest⟩ := List.pairwise_cons.mp h
      rw [updateWith_cons, ih hRest, get?_insert, get?_cons]
      split
      case isTrue hKey =>
        have hNone : get? rest k = none :=
          get?_eq_none_of_forall fun other hOther =>
            BEq.symm_false (BEq.neq_of_beq_of_neq (BEq.symm hKey) (hFree other hOther))
        rw [hNone, get?_congr hKey]
        rfl
      case isFalse => rfl

omit [LawfulBEq κ] in
/-- Keys of the first table keep their places, and those that are new follow in their order. -/
theorem keys_updateWith_of_pairwise [PartialEquivBEq κ]
    (h : more.keys.Pairwise fun a b => (a == b) = false) (table : Table κ α) :
    (updateWith combine table more).keys =
      table.keys ++ more.keys.filter fun k => !table.keys.contains k := by
  induction more generalizing table with
  | nil => simp [updateWith, keys]
  | cons entry rest ih =>
      obtain ⟨key, value⟩ := entry
      obtain ⟨hFree, hRest⟩ := List.pairwise_cons.mp h
      have hKeys : keys ((key, value) :: rest) = key :: keys rest := rfl
      rw [updateWith_cons, ih hRest, hKeys, keys_insert]
      cases hKey : table.keys.contains key with
      | true => simp [hKey]
      | false =>
          have hOthers : ((keys rest).filter fun k => !(table.keys ++ [key]).contains k) =
              (keys rest).filter fun k => !table.keys.contains k := by
            apply List.filter_congr
            intro k hk
            have hNe : (k == key) = false := BEq.symm_false (hFree k hk)
            simp [hNe]
          rw [if_neg Bool.false_ne_true, hOthers, List.filter_cons_of_pos (by simp [hKey]),
            List.append_assoc, List.singleton_append]

omit [LawfulBEq κ] in
/-- Nothing changes if what is combined is already there. -/
theorem updateWith_eq_self {table : Table κ α}
    (h : ∀ entry ∈ more, table.get? entry.1 = some (combine (table.get? entry.1) entry.2)) :
    updateWith combine table more = table := by
  induction more with
  | nil => rfl
  | cons entry rest ih =>
      rw [List.forall_mem_cons] at h
      rw [updateWith_cons, insert_eq_self_iff.mpr h.1]
      exact ih h.2

theorem get?_updateWith (h : more.keys.Nodup) (table : Table κ α) (k : κ) :
    (updateWith combine table more).get? k =
      ((more.get? k).map (combine (table.get? k))).or (table.get? k) :=
  get?_updateWith_of_pairwise (pairwise_of_nodup h) table k

theorem keys_updateWith (h : more.keys.Nodup) (table : Table κ α) :
    (updateWith combine table more).keys =
      table.keys ++ more.keys.filter fun k => !table.keys.contains k :=
  keys_updateWith_of_pairwise (pairwise_of_nodup h) table

end UpdateWith

/-- Entering a second table overrides what the first has under the same keys. -/
theorem get?_update {more : Table κ α} (h : more.keys.Nodup) (table : Table κ α) (k : κ) :
    (table.update more).get? k = (more.get? k).or (table.get? k) := by
  change (updateWith (fun _ value => value) table more).get? k = _
  rw [get?_updateWith h, Option.map_id']

theorem keys_update {more : Table κ α} (h : more.keys.Nodup) (table : Table κ α) :
    (table.update more).keys =
      table.keys ++ more.keys.filter fun k => !table.keys.contains k := by
  change (updateWith (fun _ value => value) table more).keys = _
  exact keys_updateWith h table

theorem nodup_keys_update {table : Table κ α} (h : table.keys.Nodup) (more : Table κ α) :
    (table.update more).keys.Nodup := by
  change (updateWith (fun _ value => value) table more).keys.Nodup
  exact nodup_keys_updateWith h

/-- A table overridden entry by entry: keys of the first keep their places, those that are new
follow in their order, and what is found is the new value if there is one. -/
structure Overrides (result below above : Table κ α) : Prop where
  keys : result.keys = below.keys ++ above.keys.filter fun k => !below.keys.contains k
  nodup : result.keys.Nodup
  get? : ∀ k, result.get? k = (above.get? k).or (below.get? k)

theorem overrides_update {below above : Table κ α} (hBelow : below.keys.Nodup)
    (hAbove : above.keys.Nodup) : Overrides (below.update above) below above where
  keys := keys_update hAbove below
  nodup := nodup_keys_update hBelow above
  get? := get?_update hAbove below

omit [LawfulBEq κ] in
/-- What holds of all keys and of all values holds of them still when one more is entered. -/
theorem forall_mem_insert {P : κ → Prop} {Q : α → Prop} {table : Table κ α}
    (h : ∀ entry ∈ table, P entry.1 ∧ Q entry.2) {k : κ} {value : α} (hKey : P k)
    (hValue : Q value) : ∀ entry ∈ table.insert k value, P entry.1 ∧ Q entry.2 := by
  induction table with
  | nil => simpa [insert] using ⟨hKey, hValue⟩
  | cons first rest ih =>
      obtain ⟨key, old⟩ := first
      rw [List.forall_mem_cons] at h
      rw [insert]
      split
      · exact List.forall_mem_cons.mpr ⟨⟨h.1.1, hValue⟩, h.2⟩
      · exact List.forall_mem_cons.mpr ⟨h.1, ih h.2⟩

omit [LawfulBEq κ] in
theorem forall_mem_update {P : κ → Prop} {Q : α → Prop} {table more : Table κ α}
    (h : ∀ entry ∈ table, P entry.1 ∧ Q entry.2) (hMore : ∀ entry ∈ more, P entry.1 ∧ Q entry.2) :
    ∀ entry ∈ table.update more, P entry.1 ∧ Q entry.2 := by
  induction more generalizing table with
  | nil => exact h
  | cons first rest ih =>
      rw [List.forall_mem_cons] at hMore
      exact ih (forall_mem_insert h hMore.1.1 hMore.1.2) hMore.2

omit [LawfulBEq κ] in
/-- What holds of all values of a table holds of them still when others are combined with them, if
combining keeps it. -/
theorem forall_mem_updateWith {combine : Option α → α → α} {Q : α → Prop} {table more : Table κ α}
    (h : ∀ entry ∈ table, Q entry.2)
    (hMore : ∀ entry ∈ more, ∀ below : Option α, (∀ value, below = some value → Q value) →
      Q (combine below entry.2)) : ∀ entry ∈ updateWith combine table more, Q entry.2 := by
  induction more generalizing table with
  | nil => exact h
  | cons first rest ih =>
      obtain ⟨key, value⟩ := first
      rw [List.forall_mem_cons] at hMore
      have hBelow : ∀ old, table.get? key = some old → Q old := by
        intro old hOld
        obtain ⟨_, hIn⟩ := exists_mem_of_get? hOld
        exact h _ hIn
      have hInserted := forall_mem_insert (P := fun _ => True) (Q := Q)
        (fun entry hEntry => ⟨trivial, h entry hEntry⟩) (k := key) trivial
        (hMore.1 _ hBelow)
      rw [updateWith_cons]
      exact ih (fun entry hEntry => (hInserted entry hEntry).2) hMore.2

omit [LawfulBEq κ] in
theorem forall_mem_ofPairs {P : κ → Prop} {Q : α → Prop} {pairs : List (κ × α)}
    (h : ∀ entry ∈ pairs, P entry.1 ∧ Q entry.2) :
    ∀ entry ∈ ofPairs pairs, P entry.1 ∧ Q entry.2 :=
  forall_mem_update (List.forall_mem_nil _) h

/-- The table that holds the values of a function under some keys. -/
def tabulate (f : κ → α) (keys : List κ) : Table κ α := keys.map fun k => (k, f k)

omit [BEq κ] [LawfulBEq κ] in
@[simp] theorem keys_tabulate (f : κ → α) (ks : List κ) : (tabulate f ks).keys = ks := by
  simp [tabulate, keys, Function.comp_def]

omit [BEq κ] [LawfulBEq κ] in
@[simp] theorem values_tabulate (f : κ → α) (ks : List κ) : (tabulate f ks).values = ks.map f := by
  simp [tabulate, values, Function.comp_def]

omit [BEq κ] [LawfulBEq κ] in
theorem tabulate_append (f : κ → α) (ks more : List κ) :
    tabulate f (ks ++ more) = tabulate f ks ++ tabulate f more := List.map_append

theorem get?_tabulate_of_mem {f : κ → α} {ks : List κ} {k : κ} (h : k ∈ ks) :
    (tabulate f ks).get? k = some (f k) := by
  induction ks with
  | nil => cases h
  | cons key rest ih =>
      have hCons : (tabulate f (key :: rest)).get? k =
          if key == k then some (f key) else (tabulate f rest).get? k := rfl
      rw [hCons]
      split
      case isTrue hKey => rw [eq_of_beq hKey]
      case isFalse hKey =>
        rcases List.mem_cons.mp h with hEq | hRest
        · exact absurd (by simp [hEq]) hKey
        · exact ih hRest

theorem get?_tabulate_of_notMem {f : κ → α} {ks : List κ} {k : κ} (h : k ∉ ks) :
    (tabulate f ks).get? k = none := by
  rw [get?_eq_none_iff, keys_tabulate]
  exact h

/-- Entering the value of a key where it is not yet known mentions the key once more. -/
theorem insertNew_tabulate (f : κ → α) (ks : List κ) (k : κ) :
    (tabulate f ks.eraseDups).insertNew k (f k) = tabulate f (ks ++ [k]).eraseDups := by
  rw [insertNew, eraseDups_append_singleton]
  by_cases hIn : k ∈ ks
  · rw [if_pos hIn, if_pos]
    rw [has_eq_true_iff, keys_tabulate, List.mem_eraseDups]
    exact hIn
  · have hFree : k ∉ (tabulate f ks.eraseDups).keys := by
      rw [keys_tabulate, List.mem_eraseDups]
      exact hIn
    rw [if_neg hIn, if_neg (by rwa [has_eq_true_iff]), insert_of_notMem hFree]
    simp [tabulate]

/-- Entering the values of further keys mentions all of them. -/
theorem foldl_insertNew_tabulate {τ : Type} (f : κ → α) (key : τ → κ) (ks : List κ)
    (tokens : List τ) :
    tokens.foldl (fun acc t => acc.insertNew (key t) (f (key t))) (tabulate f ks.eraseDups) =
      tabulate f (ks ++ tokens.map key).eraseDups := by
  induction tokens generalizing ks with
  | nil => simp
  | cons token rest ih =>
      rw [List.foldl_cons, insertNew_tabulate, ih]
      simp

section Update

variable [DecidableEq κ]

omit [BEq κ] [LawfulBEq κ] in
theorem tabulate_update_of_notMem (f : κ → α) {ks : List κ} {k : κ} (h : k ∉ ks) (value : α) :
    tabulate (Function.update f k value) ks = tabulate f ks := by
  apply List.map_congr_left
  intro j hj
  have hNe : j ≠ k := fun hEq => h (hEq ▸ hj)
  rw [Function.update_of_ne hNe]

theorem insert_tabulate_of_mem (f : κ → α) {ks : List κ} {k : κ} (hNodup : ks.Nodup)
    (hIn : k ∈ ks) (value : α) :
    (tabulate f ks).insert k value = tabulate (Function.update f k value) ks := by
  induction ks with
  | nil => cases hIn
  | cons key rest ih =>
      rw [List.nodup_cons] at hNodup
      have hStep : (tabulate f (key :: rest)).insert k value =
          if key == k then (key, value) :: tabulate f rest
          else (key, f key) :: (tabulate f rest).insert k value := rfl
      have hCons (g : κ → α) : tabulate g (key :: rest) = (key, g key) :: tabulate g rest := rfl
      rw [hStep, hCons]
      by_cases hKey : key = k
      · subst hKey
        rw [if_pos (beq_self_eq_true key), Function.update_self,
          tabulate_update_of_notMem f hNodup.1]
      · have hRest : k ∈ rest := (List.mem_cons.mp hIn).resolve_left (Ne.symm hKey)
        rw [if_neg (by simpa using hKey), ih hNodup.2 hRest, Function.update_of_ne hKey]

/-- Entering a new value under a key mentions the key once more and changes only its value. -/
theorem insert_tabulate (f : κ → α) (ks : List κ) (k : κ) (value : α) :
    (tabulate f ks.eraseDups).insert k value =
      tabulate (Function.update f k value) (ks ++ [k]).eraseDups := by
  rw [eraseDups_append_singleton]
  by_cases hIn : k ∈ ks
  · rw [if_pos hIn, insert_tabulate_of_mem f (nodup_eraseDups ks) (List.mem_eraseDups.mpr hIn)]
  · have hFree : k ∉ ks.eraseDups := by rwa [List.mem_eraseDups]
    have hLast : tabulate (Function.update f k value) [k] = [(k, value)] := by simp [tabulate]
    rw [if_neg hIn, insert_of_notMem (by rwa [keys_tabulate]), tabulate_append, hLast,
      tabulate_update_of_notMem f hFree]

end Update

end Table

end Tailnet
